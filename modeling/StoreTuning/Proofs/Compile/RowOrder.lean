import Mathlib.Data.List.TakeWhile
import StoreTuning.Engine.Report
import StoreTuning.Proofs.Compile.Assignments

/-!
# The order of the rows of a table

A table succeeds when none of its rows fails, in whatever order they are. If its rows are about
distinct fields, their order does not matter to the record that it gives either, since assignments
to distinct fields commute (`RecordFields.set_comm`). The three tables of a compilation have such
rows. A compilation with other tables in their place (`Job.compileWith`) therefore gives the same
options when these have the same rows in another order (`Job.compile_rowOrder`).
-/

namespace StoreTuning

variable {α β γ κ ρ τ ε ε' : Type}

/-! ## One table -/

/-- The order of assignments to distinct fields does not matter. -/
theorem RecordFields.assign_perm [DecidableEq α] (F : RecordFields τ α β γ ρ) (t : τ)
    {done done' : List (Assignment α β)} (h : done.Perm done')
    (hnodup : (done.map Assignment.field).Nodup) :
    OptionTable.assign F.set t done = OptionTable.assign F.set t done' := by
  refine h.foldl_eq' (fun a ha b hb u => ?_) t
  by_cases hab : a.field = b.field
  · -- There is one assignment to a field only.
    cases List.inj_on_of_nodup_map hnodup ha hb hab
    rfl
  · exact F.set_comm u a.value b.value hab

namespace OptionTable

variable [Reader κ β] {recordName : String} {name : α → String} {set : τ → α → β → τ}
  {s : Settings} {table table' : List (OptionRow α κ)} {target t : τ}

theorem outcomeOr_eq_ok_iff {e? : Option LookupError} {a b : τ} :
    outcomeOr e? a = .ok b ↔ e? = none ∧ a = b := by
  cases e? with
  | none => simp [outcomeOr]
  | some e => simp [outcomeOr]

/-- A table succeeds exactly when none of its rows fails. -/
theorem exists_apply_eq_ok_iff :
    (∃ t, (apply recordName name set s table target).outcome = .ok t) ↔
      ∀ r ∈ table, r.failure? s = none := by
  rw [apply_eq]
  simp only [outcomeOr_eq_ok_iff, exists_and_left, exists_eq', and_true, firstFailure?,
    List.findSome?_eq_none_iff]

/-- No row of a table that succeeds fails. -/
theorem failure?_of_apply (h : (apply recordName name set s table target).outcome = .ok t) :
    ∀ r ∈ table, r.failure? s = none :=
  exists_apply_eq_ok_iff.1 ⟨t, h⟩

/-- Where no row fails, every row that is not skipped makes its assignment. -/
theorem prefixAssignments_of_passed (h : ∀ r ∈ table, r.failure? s = none) :
    prefixAssignments s table = table.filterMap (·.assignment? s) := by
  have hall : table.takeWhile (fun r => (r.failure? s).isNone) = table :=
    List.takeWhile_eq_self_iff.2 fun r hr => by rw [h r hr, Option.isNone_none]
  rw [prefixAssignments, hall]

/-- Rows about distinct fields make assignments to distinct fields. -/
theorem nodup_fields_filterMap (h : (table.map OptionRow.field).Nodup) :
    ((table.filterMap (·.assignment? s)).map Assignment.field).Nodup := by
  rw [List.Nodup, List.pairwise_map] at h
  rw [List.Nodup, List.pairwise_map, List.pairwise_filterMap]
  refine h.imp fun hne a ha b hb => ?_
  rw [OptionRow.field_of_assignment? ha, OptionRow.field_of_assignment? hb]
  exact hne

/-- The assignments of a table that succeeds are those of its rows in another order, in another
order. -/
theorem prefixAssignments_perm (h : table.Perm table') (hpass : ∀ r ∈ table, r.failure? s = none) :
    (prefixAssignments s table).Perm (prefixAssignments s table') := by
  have hpass' : ∀ r ∈ table', r.failure? s = none := fun r hr => hpass r (h.mem_iff.2 hr)
  rw [prefixAssignments_of_passed hpass, prefixAssignments_of_passed hpass']
  exact h.filterMap _

/-- Rows about distinct fields give the same record in any order. -/
theorem outcome_apply_of_perm [DecidableEq α] (F : RecordFields τ α β γ ρ) (h : table.Perm table')
    (hnodup : (table.map OptionRow.field).Nodup)
    (ht : (apply recordName name F.set s table target).outcome = .ok t) :
    (apply recordName name F.set s table' target).outcome = .ok t := by
  have hpass := failure?_of_apply ht
  have hnodup' : ((prefixAssignments s table).map Assignment.field).Nodup := by
    rw [prefixAssignments_of_passed hpass]
    exact nodup_fields_filterMap hnodup
  rw [apply_eq] at ht ⊢
  obtain ⟨-, hassign⟩ := outcomeOr_eq_ok_iff.1 ht
  have hnone : firstFailure? s table' = none :=
    List.findSome?_eq_none_iff.2 fun r hr => hpass r (h.mem_iff.2 hr)
  refine outcomeOr_eq_ok_iff.2 ⟨hnone, ?_⟩
  rw [← hassign, F.assign_perm target (prefixAssignments_perm h hpass) hnodup']

/-- Rows about distinct fields have the same result in any order. -/
theorem outcome_apply_perm [DecidableEq α] (F : RecordFields τ α β γ ρ) (h : table.Perm table')
    (hnodup : (table.map OptionRow.field).Nodup) :
    (apply recordName name F.set s table target).outcome = .ok t ↔
      (apply recordName name F.set s table' target).outcome = .ok t := by
  have hnodup' : (table'.map OptionRow.field).Nodup := (h.map _).nodup_iff.1 hnodup
  exact ⟨outcome_apply_of_perm F h hnodup, outcome_apply_of_perm F h.symm hnodup'⟩

/-- The records of a table that succeeds are those of its rows in another order, in another
order. -/
theorem records_apply_perm (h : table.Perm table')
    (ht : (apply recordName name set s table target).outcome = .ok t) :
    (apply recordName name set s table target).records.Perm
      (apply recordName name set s table' target).records := by
  rw [apply_eq, apply_eq]
  exact (prefixAssignments_perm h (failure?_of_apply ht)).map _

/-- The rows of a table have distinct keys and are about distinct fields, which are all declared. -/
structure Distinct (name : α → String) (declared : List String) (table : List (OptionRow α κ)) :
    Prop where
  /-- No key has two rows. -/
  keys : (table.map OptionRow.key).Nodup
  /-- No field has two rows. -/
  fields : (table.map fun r => name r.field).Nodup
  /-- Every field is declared. -/
  declared : ∀ r ∈ table, name r.field ∈ declared

omit [Reader κ β] in
/-- Fields of distinct names are distinct. -/
theorem Distinct.nodup_fields {declared : List String} (h : Distinct name declared table) :
    (table.map OptionRow.field).Nodup := by
  have hmap : (table.map OptionRow.field).map name = table.map fun r => name r.field :=
    List.map_map
  exact List.Nodup.of_map name (hmap ▸ h.fields)

end OptionTable

/-- The table of the options has distinct rows. -/
theorem distinct_engineTable :
    OptionTable.Distinct EngineNumber.name (({} : EngineOptions).fields.map Prod.fst)
      engineTable where
  keys := by decide
  fields := by decide
  declared := by decide

/-- The table of compaction has distinct rows. -/
theorem distinct_compactionTable :
    OptionTable.Distinct CompactionNumber.name (({} : Compaction).fields.map Prod.fst)
      compactionTable where
  keys := by decide
  fields := by decide
  declared := by decide

/-- The table of universal compaction has distinct rows. -/
theorem distinct_universalTable :
    OptionTable.Distinct UniversalNumber.name (({} : UniversalCompaction).fields.map Prod.fst)
      universalTable where
  keys := by decide
  fields := by decide
  declared := by decide

/-! ## Other tables in a compilation -/

/-- Tables with the same rows as others, each in an order of its own. -/
structure OptionTables.Perm (T U : OptionTables) : Prop where
  engine : T.engine.Perm U.engine
  compaction : T.compaction.Perm U.compaction
  universal : T.universal.Perm U.universal

/-- The attempt to compile a job through tables. -/
def Job.compileWith (T : OptionTables) (j : Job ε) : Attempt (CompileError ε) EngineOptions :=
  StoreTuning.compile j.channel j.settings j.tasks j.manifestDefault j.directory j.mode
    j.holdsStore T

/-- With its own tables a compilation is what it is. -/
theorem Job.compileWith_optionTables (j : Job ε) : j.compileWith optionTables = j.compile := rfl

/-- Two attempts have the same results: one succeeds exactly when the other does, and with the same
result. -/
def Attempt.SameResults (x y : Attempt ε α) : Prop :=
  ∀ a, x.outcome = .ok a ↔ y.outcome = .ok a

namespace Attempt.SameResults

theorem refl (x : Attempt ε α) : x.SameResults x :=
  fun _ => Iff.rfl

/-- Computations of two parts have the same results when both parts do. -/
theorem bind {x y : Attempt ε α} {f g : α → Attempt ε β} (h : x.SameResults y)
    (hf : ∀ a, (f a).SameResults (g a)) : (x >>= f).SameResults (y >>= g) := by
  intro b
  rw [outcome_bind_eq_ok_iff, outcome_bind_eq_ok_iff]
  exact exists_congr fun a => and_congr (h a) (hf a b)

/-- Renaming what went wrong leaves the results. -/
theorem mapError {x y : Attempt ε α} (h : x.SameResults y) (f : ε → ε') :
    (x.mapError f).SameResults (y.mapError f) := by
  intro a
  rw [outcome_mapError_eq_ok_iff, outcome_mapError_eq_ok_iff]
  exact h a

end Attempt.SameResults

section

variable {T : OptionTables} (hT : T.Perm optionTables)

include hT

/-- The order of rows does not matter to universal compaction. -/
theorem resolveUniversal_sameResults (s : Settings) :
    (resolveUniversal s T.universal).SameResults (resolveUniversal s) := by
  refine .bind (fun u => ?_) fun u => .refl _
  exact (OptionTable.outcome_apply_perm UniversalCompaction.numberFields.recordFields
    hT.universal.symm distinct_universalTable.nodup_fields).symm

/-- The order of rows does not matter to compaction. -/
theorem resolveCompaction_sameResults (channel : Channel) (s : Settings) :
    (resolveCompaction channel s T.compaction T.universal).SameResults
      (resolveCompaction channel s) := by
  refine .bind (fun c => ?_) fun c => .bind (.refl _) fun raw => .bind (.refl _) fun style => ?_
  · exact (OptionTable.outcome_apply_perm Compaction.numberFields.recordFields
      hT.compaction.symm distinct_compactionTable.nodup_fields).symm
  · by_cases hstyle : style = .universal
    · rw [if_pos hstyle, if_pos hstyle]
      exact .bind (resolveUniversal_sameResults hT s) fun u => .refl _
    · rw [if_neg hstyle, if_neg hstyle]
      exact .refl _

/-- The order of rows does not matter to the options of normal mode. -/
theorem configure_sameResults (channel : Channel) (s : Settings) (tasks : Int)
    (manifestDefault : Value) :
    (configure channel s tasks manifestDefault T :
      Attempt (CompileError ε) EngineOptions).SameResults
        (configure channel s tasks manifestDefault) := by
  -- Compaction and the options are the only two steps that read tables.
  refine .bind (.refl _) fun wal => .bind (.refl _) fun writeBuffer => .bind (.refl _) fun codec =>
    .bind (.refl _) fun compression => .bind (.refl _) fun cache => .bind (.refl _) fun blockSize =>
    .bind ?_ fun compaction => .bind ?_ fun options => .refl _
  · exact (resolveCompaction_sameResults hT channel s).mapError CompileError.lookup
  · refine Attempt.SameResults.mapError (fun o => ?_) CompileError.lookup
    exact (OptionTable.outcome_apply_perm EngineOptions.numberFields.recordFields
      hT.engine.symm distinct_engineTable.nodup_fields).symm

end

/-- Rows in another order succeed when they did before, and rows about distinct fields then give the
same record, with the same records in the journal up to their order. The rows of each table of a
compilation have distinct keys and are about distinct fields of the record that the table fills. So
a compilation with the rows of its tables in another order succeeds when it did before, and with the
same options. -/
theorem Job.compile_rowOrder [DecidableEq α] [Reader κ β] (F : RecordFields τ α β γ ρ)
    (recordName : String) (name : α → String) (s : Settings) (target : τ)
    {table table' : List (OptionRow α κ)} (h : table.Perm table') (j : Job ε) :
    let run := OptionTable.apply recordName name F.set s table target
    let run' := OptionTable.apply recordName name F.set s table' target
    ((∃ t, run.outcome = .ok t) ↔ ∃ t, run'.outcome = .ok t) ∧
    ((table.map OptionRow.field).Nodup → ∀ t t', run.outcome = .ok t → run'.outcome = .ok t' →
      t = t' ∧ run.records.Perm run'.records) ∧
    OptionTable.Distinct EngineNumber.name (({} : EngineOptions).fields.map Prod.fst)
      engineTable ∧
    OptionTable.Distinct CompactionNumber.name (({} : Compaction).fields.map Prod.fst)
      compactionTable ∧
    OptionTable.Distinct UniversalNumber.name (({} : UniversalCompaction).fields.map Prod.fst)
      universalTable ∧
    j.compileWith optionTables = j.compile ∧
    ∀ T : OptionTables, T.Perm optionTables → (j.compileWith T).SameResults j.compile := by
  intro run run'
  refine ⟨?_, fun hnodup t t' ht ht' => ⟨?_, OptionTable.records_apply_perm h ht⟩,
    distinct_engineTable, distinct_compactionTable, distinct_universalTable,
    j.compileWith_optionTables, fun T hT => ?_⟩
  · rw [OptionTable.exists_apply_eq_ok_iff, OptionTable.exists_apply_eq_ok_iff]
    exact forall_congr' fun r => imp_congr_left h.mem_iff
  · have hsame := OptionTable.outcome_apply_of_perm F h hnodup ht
    exact Except.ok.inj (hsame.symm.trans ht')
  · exact .bind (configure_sameResults hT j.channel j.settings j.tasks j.manifestDefault)
      fun o => .refl _

/-- The tables of a compilation upside down. -/
def reversedTables : OptionTables :=
  ⟨engineTable.reverse, compactionTable.reverse, universalTable.reverse⟩

/-- A table of distinct fields, with a row in the middle that is skipped where its key is absent. -/
def threeRows : List (OptionRow String SettingKind) := [
  { key := "max.open.files", field := "files", kind := .integer .int },
  { key := "absent", field := "absent", kind := .text, gated := true },
  { key := "compression", field := "codec", kind := .text }]

/-- A job with a setting for each of the three tables. -/
def rowOrderJob : Job Empty :=
  plainJob (.ofPairs [("max.open.files", .text "7"), ("compression", .text "lz4"),
    ("compaction.num.levels", .int 4), ("compaction.universal.size.ratio", .int 9)])

/-- Upside down, the three rows give the same record, and the tables of a compilation give options
that are the same too. -/
theorem compile_rowOrder_reversedTables :
    (∃ t, (OptionTable.apply "Target" id namedFields.set rowOrderJob.settings threeRows
        fun _ => none).outcome = .ok t ∧
      (OptionTable.apply "Target" id namedFields.set rowOrderJob.settings threeRows.reverse
        fun _ => none).outcome = .ok t ∧ t "files" = some (.int 7)) ∧
    ∃ o, (rowOrderJob.compileWith reversedTables).outcome = .ok o ∧ o.maxOpenFiles = some 7 := by
  obtain ⟨hiff, hsame, -, -, -, -, hcompile⟩ := Job.compile_rowOrder namedFields "Target" id
    rowOrderJob.settings (fun _ => none) (List.reverse_perm threeRows).symm rowOrderJob
  refine ⟨?_, ?_⟩
  · obtain ⟨t, ht⟩ : ∃ t, (OptionTable.apply "Target" id namedFields.set rowOrderJob.settings
      threeRows fun _ => none).outcome = .ok t := ⟨_, rfl⟩
    obtain ⟨t', ht'⟩ := hiff.1 ⟨t, ht⟩
    obtain ⟨rfl, -⟩ := hsame (by decide) t t' ht ht'
    refine ⟨t, ht, ht', ?_⟩
    cases ht
    rfl
  · obtain ⟨o, ho, hcheck⟩ := exists_ok_of_any (x := rowOrderJob.compile.outcome)
      (p := fun o => o.maxOpenFiles == some 7) (by decide +kernel)
    have hperm : reversedTables.Perm optionTables :=
      ⟨List.reverse_perm _, List.reverse_perm _, List.reverse_perm _⟩
    exact ⟨o, (hcompile reversedTables hperm o).2 ho, beq_iff_eq.1 hcheck⟩

end StoreTuning
