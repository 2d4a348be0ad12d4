import StoreTuning.Proofs.Compile.Order
import StoreTuning.Proofs.Settings.Spelling

/-!
# Settings spelled out compile alike

Settings compile to the same options, with the same records and the same questions, whether their
truth values and integers are given as such or spelled out as text; and where they do not compile,
it is for the same reason (`Job.compile_spell`). A compilation reads its settings through their
typed lookups only, and each of them takes both forms alike.
-/

namespace StoreTuning

variable {ε ε' α β τ : Type}

/-- The error without the value that it shows. -/
def CompileError.withoutValue : CompileError ε → CompileError ε
  | lookup e => lookup e.withoutValue
  | e => e

/-- Two outcomes that differ in what their errors show still do so after one more step. -/
theorem mapError_bind_congr {f : ε → ε'} {x y : Except ε α} (h : x.mapError f = y.mapError f)
    (g : α → Except ε β) : (x >>= g).mapError f = (y >>= g).mapError f := by
  cases x with
  | error e =>
    cases y with
    | error e' => exact congrArg Except.error (Except.error.inj h)
    | ok b => cases h
  | ok a =>
    cases y with
    | error e' => cases h
    | ok b =>
      cases h
      rfl

namespace Attempt

/-- Two computations in two parts are the same up to their errors when both parts are. -/
theorem bind_congr_of_mapError {f : ε → ε'} {x y : Attempt ε α} {g k : α → Attempt ε β}
    (h : x.mapError f = y.mapError f) (hg : ∀ a, (g a).mapError f = (k a).mapError f) :
    (x >>= g).mapError f = (y >>= k).mapError f := by
  rw [mapError_bind, mapError_bind, h]
  exact bind_congr hg

/-- An error of a lookup loses its value as an error of a compilation too. -/
theorem withoutValue_mapError_lookup (x : Attempt LookupError α) :
    (x.mapError CompileError.lookup : Attempt (CompileError ε) α).mapError
        CompileError.withoutValue =
      (x.mapError LookupError.withoutValue).mapError CompileError.lookup := by
  obtain ⟨rs, qs, o⟩ := x
  cases o <;> rfl

end Attempt

/-- Reads that are the same up to the value of their error. -/
theorem reading_congr {x y : Except LookupError α}
    (h : x.mapError LookupError.withoutValue = y.mapError LookupError.withoutValue) :
    (reading x : Attempt (CompileError ε) α).mapError CompileError.withoutValue =
      (reading y).mapError CompileError.withoutValue := by
  have hreading : ∀ z : Except LookupError α,
      (reading z : Attempt (CompileError ε) α).mapError CompileError.withoutValue =
        reading (z.mapError LookupError.withoutValue) := fun z => by cases z <;> rfl
  rw [hreading, hreading, h]

section

variable {s : Settings} {chosen : String → Bool} (hs : s.Spellable chosen)

include hs

/-- A row is skipped, read or refused alike. -/
theorem OptionRow.read?_spell (r : OptionRow α Width) :
    (r.read? (s.spell chosen)).map (·.mapError LookupError.withoutValue) =
      (r.read? s).map (·.mapError LookupError.withoutValue) := by
  rw [read?_eq, read?_eq, Settings.contains_spell]
  split
  · rfl
  · exact congrArg some (Settings.getInteger_spell hs r.key r.kind r.fallback?)

/-- A row is applied alike. -/
theorem OptionTable.applyRow_spell (recordName : String) (name : α → String)
    (set : τ → α → Int → τ) (r : OptionRow α Width) (target : τ) :
    (applyRow recordName name set (s.spell chosen) r target).mapError LookupError.withoutValue =
      (applyRow recordName name set s r target).mapError LookupError.withoutValue := by
  have hread := r.read?_spell hs
  unfold applyRow
  generalize r.read? (s.spell chosen) = x at *
  generalize r.read? s = y at *
  -- Both rows are skipped, both are refused, or both give the same number.
  rcases x with _ | e | n
  · rcases y with _ | e' | n' <;> cases hread
    rfl
  · rcases y with _ | e' | n'
    · cases hread
    · have herror : e.withoutValue = e'.withoutValue :=
        Except.error.inj (Option.some.inj hread)
      exact congrArg (fun e => Attempt.ofExcept (.error e)) herror
    · cases hread
  · rcases y with _ | e' | n' <;> cases hread
    rfl

/-- A table is applied alike. -/
theorem OptionTable.apply_spell (recordName : String) (name : α → String) (set : τ → α → Int → τ)
    (table : List (OptionRow α Width)) (target : τ) :
    (apply recordName name set (s.spell chosen) table target).mapError LookupError.withoutValue =
      (apply recordName name set s table target).mapError LookupError.withoutValue := by
  induction table generalizing target with
  | nil => rfl
  | cons r rs ih =>
    rw [apply_cons, apply_cons]
    exact Attempt.bind_congr_of_mapError (applyRow_spell hs recordName name set r target) ih

/-- A choice is read alike. -/
theorem Settings.readChoice_spell (key default : String) :
    ((s.spell chosen).readChoice key default).mapError LookupError.withoutValue =
      (s.readChoice key default).mapError LookupError.withoutValue := by
  rw [readChoice, readChoice, contains_spell]
  split
  · exact getText_spell hs key (some (.text ""))
  · rfl

/-- The stop style is read alike. -/
theorem readStopStyle_spell :
    (readStopStyle (s.spell chosen)).mapError LookupError.withoutValue =
      (readStopStyle s).mapError LookupError.withoutValue := by
  unfold readStopStyle
  rw [Settings.contains_spell]
  split
  · exact mapError_bind_congr (Settings.getText_spell hs stopStyleKey (some (.text ""))) _
  · rfl

/-- Universal compaction is resolved alike. -/
theorem resolveUniversal_spell :
    (resolveUniversal (s.spell chosen)).mapError LookupError.withoutValue =
      (resolveUniversal s).mapError LookupError.withoutValue := by
  unfold resolveUniversal
  refine Attempt.bind_congr_of_mapError (OptionTable.apply_spell hs _ _ _ _ _) fun u => ?_
  refine Attempt.bind_congr_of_mapError ?_ fun stopStyle => rfl
  exact congrArg Attempt.ofExcept (readStopStyle_spell hs)

/-- Compaction is resolved alike. -/
theorem resolveCompaction_spell (channel : Channel) :
    (resolveCompaction channel (s.spell chosen)).mapError LookupError.withoutValue =
      (resolveCompaction channel s).mapError LookupError.withoutValue := by
  unfold resolveCompaction
  refine Attempt.bind_congr_of_mapError (OptionTable.apply_spell hs _ _ _ _ _) fun c => ?_
  refine Attempt.bind_congr_of_mapError ?_ fun raw => ?_
  · exact congrArg Attempt.ofExcept (Settings.readChoice_spell hs styleKey Defaults.compactionStyle)
  refine Attempt.bind_congr_of_mapError rfl fun style => ?_
  split
  · exact Attempt.bind_congr_of_mapError (resolveUniversal_spell hs) fun u => rfl
  · rfl

/-- A budget is shared alike. -/
theorem sharing_spell (key : String) (default tasks : Int) :
    (sharing (shareOf (s.spell chosen) key default tasks) :
        Attempt (CompileError ε) Int).mapError CompileError.withoutValue =
      (sharing (shareOf s key default tasks)).mapError CompileError.withoutValue := by
  rw [sharing_shareOf, sharing_shareOf]
  refine Attempt.bind_congr_of_mapError (reading_congr ?_) fun total => rfl
  exact Settings.getInteger_spell hs key .long (some (.int default))

/-- The options of normal mode are configured alike. -/
theorem configure_spell (channel : Channel) (tasks : Int) (manifestDefault : Value) :
    (configure channel (s.spell chosen) tasks manifestDefault :
        Attempt (CompileError ε) EngineOptions).mapError CompileError.withoutValue =
      (configure channel s tasks manifestDefault).mapError CompileError.withoutValue := by
  unfold configure
  refine Attempt.bind_congr_of_mapError (reading_congr ?_) fun wal => ?_
  · exact Settings.getFlag_spell hs walKey (some (.bool Defaults.walEnabled))
  refine Attempt.bind_congr_of_mapError (sharing_spell hs _ _ _) fun writeBuffer => ?_
  refine Attempt.bind_congr_of_mapError (reading_congr ?_) fun codec => ?_
  · exact Settings.readChoice_spell hs compressionKey Defaults.compression
  refine Attempt.bind_congr_of_mapError rfl fun compression => ?_
  refine Attempt.bind_congr_of_mapError (sharing_spell hs _ _ _) fun cache => ?_
  refine Attempt.bind_congr_of_mapError (reading_congr ?_) fun blockSize => ?_
  · exact Settings.getInteger_spell hs blockSizeKey .int (some (.int Defaults.blockSize))
  refine Attempt.bind_congr_of_mapError ?_ fun compaction => ?_
  · rw [Attempt.withoutValue_mapError_lookup, Attempt.withoutValue_mapError_lookup,
      resolveCompaction_spell hs]
  refine Attempt.bind_congr_of_mapError ?_ fun o => ?_
  · rw [Attempt.withoutValue_mapError_lookup, Attempt.withoutValue_mapError_lookup,
      OptionTable.apply_spell hs]
  refine Attempt.bind_congr_of_mapError (reading_congr ?_) fun manifest => rfl
  exact Settings.getInteger_spell hs manifestKey .long (some manifestDefault)

end

/-- Settings in which truth values and integers under any keys are spelled out compile as the
settings themselves do, in every mode: to the same options, or to an error that differs at most in
the value that it shows, with the same records and the same questions. -/
theorem Job.compile_spell (j : Job ε) (chosen : String → Bool)
    (h : ∀ key n, chosen key = true → j.settings.get? key = some (.int n) →
      Text.Numeral.withinLimit n = true) :
    let spelled := ({ j with settings := j.settings.spell chosen } : Job ε).compile
    (∀ o, spelled.outcome = .ok o ↔ j.compile.outcome = .ok o) ∧
    (∀ e, j.compile.outcome = .error e →
      ∃ e', spelled.outcome = .error e' ∧ e'.withoutValue = e.withoutValue) ∧
    spelled.records = j.compile.records ∧ spelled.queries = j.compile.queries := by
  intro spelled
  have hs : j.settings.Spellable chosen := by
    rintro key v hkey hget n rfl
    exact h key n hkey hget
  have hsame : spelled.mapError CompileError.withoutValue =
      j.compile.mapError CompileError.withoutValue :=
    -- Only the settings differ, and what comes after them does not look at them.
    Attempt.bind_congr_of_mapError (configure_spell hs _ _ _) fun o => rfl
  have houtcome : spelled.outcome.mapError CompileError.withoutValue =
      j.compile.outcome.mapError CompileError.withoutValue := congrArg Attempt.outcome hsame
  have hrecords := congrArg Attempt.records hsame
  have hqueries := congrArg Attempt.queries hsame
  refine ⟨fun o => ?_, fun e he => ?_, hrecords, hqueries⟩
  · constructor
    · intro ho
      rw [ho] at houtcome
      exact eq_ok_of_mapError houtcome.symm
    · intro ho
      rw [ho] at houtcome
      exact eq_ok_of_mapError houtcome
  · rw [he] at houtcome
    cases ho : spelled.outcome with
    | ok o =>
      rw [ho] at houtcome
      cases houtcome
    | error e' =>
      rw [ho] at houtcome
      exact ⟨e', rfl, Except.error.inj houtcome⟩

/-- A job whose settings hold truth values and integers, one of which names no codec. -/
def nativeJob : Job Empty :=
  plainJob (.ofPairs [("wal.enabled", .bool true), ("compression", .int 5),
    ("num.write.buffers", .int (-17))])

/-- Spelled out, the settings of the native job give the options that they give as they are, and the
same warning. -/
theorem compile_spell_nativeJob :
    nativeJob.settings.entries.all (fun e => e.2.withinDigitLimit) = true ∧
    let spelled : Job Empty := { nativeJob with settings := nativeJob.settings.spell fun _ => true }
    (∃ o, spelled.compile.outcome = .ok o ∧ o.manualWalFlush = some true ∧
      o.maxWriteBufferNumber = some (-17)) ∧
    ⟨.compiler, .substituted "compression" "5" "SNAPPY_COMPRESSION"⟩ ∈ spelled.compile.records := by
  have hlimit : nativeJob.settings.entries.all (fun e => e.2.withinDigitLimit) = true := by
    decide +kernel
  have hentry : ∀ key n, nativeJob.settings.get? key = some (.int n) →
      Text.Numeral.withinLimit n = true := by
    intro key n hget
    rw [← Value.withinDigitLimit_int]
    exact List.all_eq_true.1 hlimit (key, .int n) (Settings.get?_eq_some_iff.1 hget)
  obtain ⟨hok, -, hrecords, -⟩ := Job.compile_spell nativeJob (fun _ => true)
    fun key n _ => hentry key n
  obtain ⟨o, ho, hcheck⟩ := exists_ok_of_any (x := nativeJob.compile.outcome)
    (p := fun o => o.manualWalFlush == some true && o.maxWriteBufferNumber == some (-17))
    (by decide +kernel)
  rw [Bool.and_eq_true, beq_iff_eq, beq_iff_eq] at hcheck
  refine ⟨hlimit, ⟨o, (hok o).2 ho, hcheck⟩, ?_⟩
  rw [hrecords]
  decide +kernel

end StoreTuning
