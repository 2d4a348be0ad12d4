import StoreTuning.Proofs.Compile.Question
import StoreTuning.Proofs.Compile.WellFormed
import StoreTuning.Proofs.Storage.Resolution

/-!
# Runs of changes and compilations

A run changes a file system and compiles jobs, in any order (`Session.run`). Every compilation asks
the file system as it is at that moment. What it comes to depends on nothing else of the run, and it
leaves no trace in the run: without it, the other steps come to the same
(`Session.run_compile`). So the profile for bulk loads is laid over the options only where the
directory of the store resolves to no directory with an entry at that moment
(`Session.bulkLoad_only_without_data`).
-/

namespace StoreTuning

/-- A change to a file system, by the texts of paths. -/
inductive FileChange where
  | makeDirectories (path : String)
  | writeFile (path : String) (content : ByteArray)
  | makeLink (path target : String)
  | removeFile (path : String)
  | removeDirectory (path : String)

namespace FileChange

/-- A file system after a change that is made as a whole or refused. -/
def settle (fs : FileSystem) : Except FileError FileSystem → FileSystem × Option FileError
  | .ok fs' => (fs', none)
  | .error e => (fs, some e)

/-- A file system after a change, and the refusal if there was one. -/
def apply (fs : FileSystem) : FileChange → FileSystem × Option FileError
  | makeDirectories path => fs.makeDirectories path
  | writeFile path content => settle fs (fs.writeFile path content)
  | makeLink path target => settle fs (fs.makeLink path target)
  | removeFile path => settle fs (fs.removeFile path)
  | removeDirectory path => settle fs (fs.removeDirectory path)

end FileChange

namespace Session

/-- A step of a run. -/
inductive Step where
  | change (c : FileChange)
  /-- A compilation of a job, which asks the file system whether a directory holds a store. -/
  | compile (j : Job FileError)

/-- What a step comes to. -/
inductive Result where
  | changed (refusal? : Option FileError)
  | compiled (attempt : Attempt (CompileError FileError) EngineOptions)

/-- The attempt to compile a job over a file system. -/
def compileOver (fs : FileSystem) (j : Job FileError) :
    Attempt (CompileError FileError) EngineOptions :=
  ({ j with holdsStore := fs.holdsStore } : Job FileError).compile

/-- One step. -/
def Step.take (fs : FileSystem) : Step → FileSystem × Result
  | change c => ((c.apply fs).1, .changed (c.apply fs).2)
  | compile j => (fs, .compiled (compileOver fs j))

/-- A run: the file system after all steps, and what they came to. -/
def run (fs : FileSystem) : List Step → FileSystem × List Result
  | [] => (fs, [])
  | s :: steps => ((run (s.take fs).1 steps).1, (s.take fs).2 :: (run (s.take fs).1 steps).2)

/-- A run in two parts goes on from the file system that the first part leaves. -/
theorem run_append (fs : FileSystem) (before after : List Step) :
    run fs (before ++ after) =
      ((run (run fs before).1 after).1, (run fs before).2 ++ (run (run fs before).1 after).2) := by
  -- Every step leaves another file system for the rest of the first part.
  induction before generalizing fs with
  | nil => rfl
  | cons s before ih =>
    rw [List.cons_append, run, ih]
    rfl

/-- A compilation comes to what it comes to over the file system at that moment, and the rest of the
run is the run without it. -/
theorem run_compile (fs : FileSystem) (before after : List Step) (j : Job FileError) :
    run fs (before ++ .compile j :: after) =
      ((run fs (before ++ after)).1,
        (run fs before).2 ++ .compiled (compileOver (run fs before).1 j) ::
          (run (run fs before).1 after).2) := by
  rw [run_append, run_append]
  rfl

end Session

/-- Options that compile are prepared for a bulk load exactly when one is asked for and the answer
is that the directory holds no store. -/
theorem Job.prepared_of_outcome {ε : Type} {j : Job ε} {o : EngineOptions}
    (h : j.compile.outcome = .ok o) :
    (j.mode = .normal → o.preparedForBulkLoad = false) ∧
      (j.mode = .bulkLoad → j.holdsStore j.directory = .ok !o.preparedForBulkLoad) := by
  obtain ⟨p, hp, hopen⟩ := Attempt.outcome_bind_eq_ok_iff.1 h
  have hunprepared : p.preparedForBulkLoad = false := (configure_wellFormed hp).preparedForBulkLoad
  refine ⟨fun hmode => ?_, fun hmode => ?_⟩
  · rw [hmode, openFor_normal] at hopen
    cases hopen
    exact hunprepared
  · rw [hmode, openFor_bulkLoad] at hopen
    split at hopen
    · cases hopen
    · rename_i hstore
      cases hopen
      rw [hstore, hunprepared]
      rfl
    · rename_i hstore
      cases hopen
      exact hstore

/-- Bulk-load tuning is never applied over data. Wherever a job is compiled in a run of changes and
compilations, it meets the file system that the steps before it leave. Options that it gives are
prepared for a bulk load exactly when one is asked for and the directory does not resolve to one
with an entry there, be it a link that leads nowhere. There are no options where the lookup is
refused, and if it was made, its refusal is what went wrong. What the job comes to stands between
what the other steps come to; they come to the same without it, and leave the same file system. -/
theorem Session.bulkLoad_only_without_data (fs : FileSystem) (before after : List Step)
    (j : Job FileError) :
    let now := (run fs before).1
    let attempt := compileOver now j
    (∀ o, attempt.outcome = .ok o →
      (o.preparedForBulkLoad = true ↔ j.mode = .bulkLoad ∧ ¬now.HoldsData j.directory)) ∧
    (∀ e, now.holdsStore j.directory = .error e →
      (attempt.queries ≠ [] → attempt.outcome = .error (.presence e)) ∧
      (j.mode = .bulkLoad → ∀ o, attempt.outcome ≠ .ok o)) ∧
    (run fs (before ++ .compile j :: after)).1 = (run fs (before ++ after)).1 ∧
    (run fs (before ++ .compile j :: after)).2 =
      (run fs before).2 ++ .compiled attempt :: (run now after).2 ∧
    (run fs (before ++ after)).2 = (run fs before).2 ++ (run now after).2 := by
  intro now attempt
  have hanswer {o} (h : attempt.outcome = .ok o) (hbulk : j.mode = .bulkLoad) :
      now.holdsStore j.directory = .ok !o.preparedForBulkLoad :=
    (Job.prepared_of_outcome h).2 hbulk
  refine ⟨fun o h => ?_, fun e he => ⟨fun hasked => outcome_of_asked hasked he, ?_⟩, ?_, ?_, ?_⟩
  · cases hmode : j.mode with
    | normal => simp [(Job.prepared_of_outcome h).1 hmode]
    | bulkLoad =>
      rw [← FileSystem.eq_true_iff_holdsData (hanswer h hmode)]
      simp
  · -- Options for a bulk load come with an answer, and here there is none.
    intro hbulk o h
    have hok := hanswer h hbulk
    rw [he] at hok
    cases hok
  · rw [run_compile]
  · rw [run_compile]
  · rw [run_append]

/-- A bulk load into the directory `s`, without settings. -/
def restoreJob : Job FileError where
  channel := .compiler
  settings := .ofPairs []
  tasks := 1
  manifestDefault := .int Defaults.maxManifestFileSize
  directory := "s"
  mode := .bulkLoad
  holdsStore := fun _ => .ok true

/-- A file system with nothing in it. -/
def emptyFileSystem : FileSystem :=
  ⟨[], []⟩

/-- A file system with a file in the directory `s`. -/
def restoredFileSystem : FileSystem :=
  ⟨[("s", .directory [("CURRENT", .file ⟨#[]⟩)])], []⟩

/-- What the engine does to a file system when it opens the store. -/
def restored : List Session.Step :=
  [.change (.makeDirectories "s"), .change (.writeFile "s/CURRENT" ⟨#[]⟩)]

theorem FileSystem.isName_s : IsName "s" :=
  ⟨by decide, by decide⟩

theorem run_restored : (Session.run emptyFileSystem restored).1 = restoredFileSystem := by
  have hvacant : emptyFileSystem.resolve false "s" = .ok (.vacant [] "s" false) :=
    FileSystem.walk_vacant FileSystem.isName_s (by decide) rfl
  have hmake : emptyFileSystem.makeDirectories "s" = (⟨[("s", .directory [])], []⟩, none) := by
    show emptyFileSystem.ensureDirectory "s" = _
    rw [FileSystem.ensureDirectory, FileSystem.makeDirectory, hvacant]
    rfl
  have hfree : (⟨[("s", .directory [])], []⟩ : FileSystem).resolve true "s/CURRENT" =
      .ok (.vacant ["s"] "CURRENT" false) :=
    (FileSystem.walk_enter FileSystem.isName_s (by decide) rfl).trans
      (FileSystem.walk_vacant ⟨by decide, by decide⟩ (by decide) rfl)
  have hwrite : (⟨[("s", .directory [])], []⟩ : FileSystem).writeFile "s/CURRENT" ⟨#[]⟩ =
      .ok restoredFileSystem := by
    rw [FileSystem.writeFile, hfree]
    rfl
  show (FileChange.settle _ ((emptyFileSystem.makeDirectories "s").1.writeFile _ _)).1 = _
  rw [hmake, hwrite]
  rfl

theorem holdsStore_emptyFileSystem : emptyFileSystem.holdsStore "s" = .ok false := by
  have hvacant : emptyFileSystem.resolve true "s" = .ok (.vacant [] "s" false) :=
    FileSystem.walk_vacant FileSystem.isName_s (by decide) rfl
  unfold FileSystem.holdsStore FileSystem.node? FileSystem.find
  rw [show (Path.ofText "s").text = "s" by decide +kernel, hvacant]
  rfl

theorem holdsStore_restoredFileSystem : restoredFileSystem.holdsStore "s" = .ok true := by
  have hthere : restoredFileSystem.resolve true "s" =
      .ok (.node ["s"] (.directory [("CURRENT", .file ⟨#[]⟩)]) false) := by
    refine (FileSystem.walk_enter FileSystem.isName_s (by decide) rfl).trans ?_
    show FileSystem.walk _ true FileSystem.linkLimit ["s"] false [] = _
    rw [FileSystem.walk]
    rfl
  unfold FileSystem.holdsStore FileSystem.node? FileSystem.find
  rw [show (Path.ofText "s").text = "s" by decide +kernel, hthere]
  rfl

/-- A restore into a directory that is not there yet is prepared for a bulk load, and it is not once
the directory has data. -/
theorem restored_then_reopened : ∃ o o',
    (Session.compileOver emptyFileSystem restoreJob).outcome = .ok o ∧
      o.preparedForBulkLoad = true ∧
    (Session.compileOver (Session.run emptyFileSystem restored).1 restoreJob).outcome = .ok o' ∧
      o'.preparedForBulkLoad = false := by
  obtain ⟨p, hp, -⟩ := exists_ok_of_any
    (x := (configure .compiler (.ofPairs []) 1 (.int Defaults.maxManifestFileSize) :
      Attempt (CompileError FileError) EngineOptions).outcome)
    (p := fun _ => true) (by decide +kernel)
  have hfresh : (Session.compileOver emptyFileSystem restoreJob).outcome =
      .ok p.prepareForBulkLoad := by
    refine Attempt.outcome_bind_eq_ok_iff.2 ⟨p, hp, ?_⟩
    show (openFor .compiler .bulkLoad "s" emptyFileSystem.holdsStore p).outcome = _
    rw [openFor_bulkLoad, holdsStore_emptyFileSystem]
  have hreopened : (Session.compileOver restoredFileSystem restoreJob).outcome = .ok p := by
    refine Attempt.outcome_bind_eq_ok_iff.2 ⟨p, hp, ?_⟩
    show (openFor .compiler .bulkLoad "s" restoredFileSystem.holdsStore p).outcome = _
    rw [openFor_bulkLoad, holdsStore_restoredFileSystem]
  have hdata : restoredFileSystem.HoldsData "s" :=
    (FileSystem.eq_true_iff_holdsData holdsStore_restoredFileSystem).1 rfl
  have hnone : ¬emptyFileSystem.HoldsData "s" := fun h => by
    cases (FileSystem.eq_true_iff_holdsData holdsStore_emptyFileSystem).2 h
  obtain ⟨hbefore, -⟩ := Session.bulkLoad_only_without_data emptyFileSystem [] [] restoreJob
  obtain ⟨hafter, -⟩ := Session.bulkLoad_only_without_data emptyFileSystem restored [] restoreJob
  rw [run_restored] at hafter ⊢
  refine ⟨_, p, hfresh, (hbefore _ hfresh).2 ⟨rfl, hnone⟩, hreopened, ?_⟩
  cases hprepared : p.preparedForBulkLoad with
  | false => rfl
  | true => exact absurd hdata ((hafter p hreopened).1 hprepared).2

end StoreTuning
