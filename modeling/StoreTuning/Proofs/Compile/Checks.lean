import Mathlib.Data.List.TakeWhile
import StoreTuning.Proofs.Compile.Job

/-!
# Checks in order

What a compilation requires of its job, as a list of checks (`Job.checks`): what is read, under
which key and as what, and what else has to hold. Each check says on its own how it fails
(`Check.failure?`) and what it leaves in the journal when it is passed (`Check.records`).

An attempt follows a list of checks when it goes wrong as the first of them that fails does, and
its records are those of the checks before that one (`Attempt.Follows`). Two attempts, one after the
other, follow the checks of both (`Attempt.Follows.bind`).
-/

namespace StoreTuning

variable {ε α β : Type}

/-- One thing that has to succeed for a job to compile. -/
inductive Check where
  /-- The key holds a truth value, or else the fallback stands for it. -/
  | flag (key : String) (fallback : Value)
  /-- The key holds an integer of the width, or else the fallback stands for it. -/
  | integer (key : String) (w : Width) (fallback : Value)
  /-- There is a task to share the budgets among. -/
  | tasks
  /-- The budget under the key is not negative. -/
  | budget (key : String) (fallback : Value)
  /-- The value that names the codec can be read as text. -/
  | codec
  /-- The row of a table can be read, unless it is gated and its key absent. -/
  | row (recordName field key : String) (w : Width) (fallback? : Option Value) (gated : Bool)
  /-- The value that names the compaction family can be read as text. -/
  | style
  /-- The stop style is absent, blank or known. -/
  | stopStyle
  /-- It can be told whether the directory holds a store. -/
  | presence
  deriving Repr

namespace Check

/-- The check of a row of a table. -/
def ofRow (recordName : String) (name : α → String) (r : OptionRow α Width) : Check :=
  .row recordName (name r.field) r.key r.kind r.fallback? r.gated

/-- Whether the check is about a choice by name, which has a member to stand in for unknown ones. -/
def isChoice : Check → Bool
  | codec | style => true
  | _ => false

/-- How a check fails, if it does. -/
def failure? (j : Job ε) : Check → Option (CompileError ε)
  | flag key d => (errorOf? (j.settings.getFlag key (some d))).map .lookup
  | integer key w d => (errorOf? (j.settings.getInteger key w (some d))).map .lookup
  | tasks => if j.tasks < 1 then some (.budget (.taskCount j.tasks)) else none
  | budget key d =>
    match j.settings.getInteger key .long (some d) with
    | .ok n => if n < 0 then some (.budget (.negative n)) else none
    | .error _ => none
  | codec => if j.settings.printable compressionKey then none else some (.lookup .unprintable)
  | row _ _ key w d? gated =>
    if gated && !j.settings.contains key then none
    else (errorOf? (j.settings.getInteger key w d?)).map .lookup
  | style => if j.settings.printable styleKey then none else some (.lookup .unprintable)
  | stopStyle => (errorOf? (readStopStyle j.settings)).map .lookup
  | presence => (errorOf? (j.holdsStore j.directory)).map .presence

/-- Whether a check is passed. -/
def passes (j : Job ε) (c : Check) : Bool :=
  (c.failure? j).isNone

/-- What a check that is passed leaves in the journal. -/
def records (j : Job ε) : Check → List Record
  | codec =>
    match j.settings.readChoice compressionKey Defaults.compression with
    | .ok raw => substitution j.channel compressionKey fallbackCompression raw
    | .error _ => []
  | style =>
    match j.settings.readChoice styleKey Defaults.compactionStyle with
    | .ok raw => substitution j.channel styleKey fallbackStyle raw
    | .error _ => []
  | row recordName field key w d? gated =>
    if gated && !j.settings.contains key then []
    else
      match j.settings.getInteger key w d? with
      | .ok n => [⟨.optionTable, .assigned key recordName field (.int n)⟩]
      | .error _ => []
  | presence =>
    match j.holdsStore j.directory with
    | .ok true => [⟨j.channel, .storePresent j.directory⟩]
    | .ok false => [⟨j.channel, .preparing j.directory⟩]
    | .error _ => []
  | _ => []

theorem passes_of_failure?_eq_none {j : Job ε} {c : Check} (h : c.failure? j = none) :
    c.passes j = true := by
  rw [passes, h, Option.isNone_none]

/-- Every check of a list is passed exactly when none fails. -/
theorem all_passes_iff {j : Job ε} {l : List Check} :
    l.all (passes j) = true ↔ ∀ c ∈ l, c.failure? j = none := by
  simp [passes]

end Check

/-- The checks of compaction: the rows of its table, its family, and for the universal family the
rows of that one's table and the stop style. -/
def Settings.compactionChecks (s : Settings) : List Check :=
  compactionTable.map (.ofRow "CompactionSpec" CompactionNumber.name) ++ .style ::
    if s.resolvedStyle = .universal then
      universalTable.map (.ofRow "UniversalCompactionOptions" UniversalNumber.name) ++ [.stopStyle]
    else []

/-- The checks of a job up to the options of normal mode, in their order. -/
def Job.optionChecks (j : Job ε) : List Check :=
  .flag walKey (.bool Defaults.walEnabled) ::
  .integer writeBufferKey .long (.int Defaults.containerWriteBufferSize) ::
  .tasks ::
  .budget writeBufferKey (.int Defaults.containerWriteBufferSize) ::
  .codec ::
  .integer cacheKey .long (.int Defaults.containerCacheSize) ::
  .budget cacheKey (.int Defaults.containerCacheSize) ::
  .integer blockSizeKey .int (.int Defaults.blockSize) ::
  (j.settings.compactionChecks ++
    (engineTable.map (.ofRow "EngineOptions" EngineNumber.name) ++
      [.integer manifestKey .long j.manifestDefault]))

/-- Whether there is a store is no check of the options. -/
theorem Job.presence_notMem_optionChecks (j : Job ε) : .presence ∉ j.optionChecks := by
  unfold optionChecks Settings.compactionChecks
  split <;> simp [Check.ofRow]

/-- The checks of a job in their order. The presence of a store is checked last, and for a bulk load
only. -/
def Job.checks (j : Job ε) : List Check :=
  j.optionChecks ++ if j.mode = .bulkLoad then [.presence] else []

/-- The checks that are meant to end a compilation when they fail, in their order. -/
def Job.fatalChecks (j : Job ε) : List Check :=
  [ .flag walKey (.bool Defaults.walEnabled),
    .integer writeBufferKey .long (.int Defaults.containerWriteBufferSize),
    .tasks,
    .budget writeBufferKey (.int Defaults.containerWriteBufferSize),
    .integer cacheKey .long (.int Defaults.containerCacheSize),
    .budget cacheKey (.int Defaults.containerCacheSize),
    .integer blockSizeKey .int (.int Defaults.blockSize)] ++
  compactionTable.map (.ofRow "CompactionSpec" CompactionNumber.name) ++
  (if j.settings.resolvedStyle = .universal then
    universalTable.map (.ofRow "UniversalCompactionOptions" UniversalNumber.name) ++ [.stopStyle]
  else []) ++
  engineTable.map (.ofRow "EngineOptions" EngineNumber.name) ++
  [.integer manifestKey .long j.manifestDefault] ++
  if j.mode = .bulkLoad then [.presence] else []

/-- No row of a table is a choice. -/
theorem Check.filter_ofRow (recordName : String) (name : α → String)
    (table : List (OptionRow α Width)) :
    (table.map (ofRow recordName name)).filter (fun c => !c.isChoice) =
      table.map (ofRow recordName name) := by
  rw [List.filter_eq_self]
  intro c hc
  obtain ⟨r, -, rfl⟩ := List.mem_map.1 hc
  rfl

/-- The fatal checks are all but those of the choices, which have a member to stand in for what is
unknown. -/
theorem Job.fatalChecks_eq_filter (j : Job ε) :
    j.fatalChecks = j.checks.filter fun c => !c.isChoice := by
  unfold fatalChecks checks optionChecks Settings.compactionChecks
  split <;> split
  all_goals
    simp only [List.filter_append, List.filter_cons, List.filter_nil, Check.filter_ofRow,
      List.append_assoc]
    rfl

namespace Attempt

/-- An attempt goes through checks in order: it goes wrong as the first that fails does, and its
records are those of the checks before. -/
structure Follows (j : Job ε) (x : Attempt (CompileError ε) α) (cs : List Check) : Prop where
  /-- What goes wrong is the failure of the first check that fails. -/
  failure : errorOf? x.outcome = cs.findSome? (Check.failure? j)
  /-- The records are those of the checks up to there. -/
  records : x.records = (cs.takeWhile (Check.passes j)).flatMap (Check.records j)

namespace Follows

variable {j : Job ε} {x : Attempt (CompileError ε) α} {f : α → Attempt (CompileError ε) β}
  {l m : List Check}

/-- A result without records follows no check. -/
theorem pure (a : α) : (pure a : Attempt (CompileError ε) α).Follows j [] :=
  ⟨rfl, rfl⟩

/-- An attempt that does what one check says follows it. -/
theorem of_check {c : Check} (hfail : errorOf? x.outcome = c.failure? j)
    (hrec : x.records = if c.passes j then c.records j else []) : x.Follows j [c] := by
  refine ⟨?_, ?_⟩
  · rw [hfail, List.findSome?_singleton]
  · rw [hrec]
    cases h : c.passes j <;> simp [h]

/-- An attempt without records follows checks that leave none, if it goes wrong as they do. -/
theorem of_silent (hfail : errorOf? x.outcome = l.findSome? (Check.failure? j))
    (hrec : x.records = []) (hsilent : ∀ c ∈ l, c.records j = []) : x.Follows j l := by
  refine ⟨hfail, ?_⟩
  rw [hrec, eq_comm, List.flatMap_eq_nil_iff]
  exact fun c hc => hsilent c ((List.takeWhile_sublist _).subset hc)

/-- A check that is passed and leaves no record may be left out. -/
theorem drop_check {c : Check} (h : x.Follows j (l ++ c :: m)) (hfail : c.failure? j = none)
    (hrec : c.records j = []) : x.Follows j (l ++ m) := by
  obtain ⟨hf, hr⟩ := h
  have hpass := Check.passes_of_failure?_eq_none hfail
  refine ⟨?_, ?_⟩
  · rw [hf, List.findSome?_append, List.findSome?_append, List.findSome?_cons_of_isNone]
    rw [hfail]
    rfl
  · rw [hr, List.takeWhile_append, List.takeWhile_append]
    split
    · simp [hpass, hrec]
    · rfl

/-- There is a result exactly when no check fails. -/
theorem exists_ok_iff (h : x.Follows j l) :
    (∃ a, x.outcome = .ok a) ↔ ∀ c ∈ l, c.failure? j = none := by
  rw [← errorOf?_eq_none_iff, h.failure, List.findSome?_eq_none_iff]

/-- A result comes only when no check fails. -/
theorem failure?_eq_none (h : x.Follows j l) {a : α} (hx : x.outcome = .ok a) :
    ∀ c ∈ l, c.failure? j = none :=
  h.exists_ok_iff.1 ⟨a, hx⟩

/-- One attempt after another follows the checks of the one and then those of the other. -/
theorem bind (hx : x.Follows j l) (hf : ∀ a, x.outcome = .ok a → (f a).Follows j m) :
    (x >>= f).Follows j (l ++ m) := by
  obtain ⟨rs, qs, o⟩ := x
  cases o with
  | error e =>
    -- A check of the first part fails, so no check of the second is reached.
    have hfail : l.findSome? (Check.failure? j) = some e := hx.failure.symm
    have hlen : (l.takeWhile (Check.passes j)).length ≠ l.length := by
      intro hlen
      obtain ⟨c, hc, he⟩ := List.exists_of_findSome?_eq_some hfail
      have hall := (List.takeWhile_sublist (l := l) (Check.passes j)).eq_of_length hlen
      have hpass := List.mem_takeWhile_imp (hall ▸ hc)
      simp [Check.passes, he] at hpass
    refine ⟨?_, ?_⟩
    · rw [Attempt.bind_error, List.findSome?_append, hfail]
      rfl
    · rw [Attempt.bind_error, hx.records, List.takeWhile_append, if_neg hlen]
  | ok a =>
    have hnone := hx.failure?_eq_none rfl
    have hpass : ∀ c ∈ l, c.passes j = true :=
      fun c hc => Check.passes_of_failure?_eq_none (hnone c hc)
    have hrs : rs = l.flatMap (Check.records j) := by
      have hrec := hx.records
      rwa [List.takeWhile_eq_self_iff.2 hpass] at hrec
    obtain ⟨hfail, hrec⟩ := hf a rfl
    refine ⟨?_, ?_⟩
    · rw [Attempt.bind_ok, List.findSome?_append, List.findSome?_eq_none_iff.2 hnone]
      exact hfail
    · rw [Attempt.bind_ok, List.takeWhile_append_of_pos hpass, List.flatMap_append, ← hrec, hrs]

/-- An attempt that follows one check comes before others. -/
theorem bind_cons {c : Check} (hx : x.Follows j [c])
    (hf : ∀ a, x.outcome = .ok a → (f a).Follows j l) : (x >>= f).Follows j (c :: l) :=
  hx.bind hf

end Follows

end Attempt

end StoreTuning
