import StoreTuning.Engine.Report

/-!
# Leaf paths

A path is a list of field names that leads from a report to a part of it. The leaves are the values
and the records without fields (`Report.leafPaths`). The overrides have a leaf for every field that
is set and for no other (`leafPaths_override?`), since a record that would have no fields is left
out. The fields that are set are then read off record by record
(`EngineOptions.mem_setFieldPaths`).
-/

namespace StoreTuning

mutual

/-- The paths to the leaves of a report. -/
def Report.leafPaths : Report → List (List String)
  | .record fs => if fs.isEmpty then [[]] else fieldLeafPaths fs
  | _ => [[]]

/-- The paths to the leaves of named reports. -/
def fieldLeafPaths : List (String × Report) → List (List String)
  | [] => []
  | (name, r) :: fs => r.leafPaths.map (name :: ·) ++ fieldLeafPaths fs

end

namespace Content

mutual

/-- The paths to the fields in a content that are set. -/
def setPaths : Content → List (List String)
  | unset => []
  | record fs => setFieldPaths fs
  | _ => [[]]

/-- The paths to the fields that are set among named contents. -/
def setFieldPaths : List (String × Content) → List (List String)
  | [] => []
  | (name, c) :: fs => c.setPaths.map (name :: ·) ++ setFieldPaths fs

end

mutual

/-- The leaves of the overrides are the fields that are set. -/
theorem leafPaths_override? : ∀ c : Content, (c.override?).elim [] Report.leafPaths = c.setPaths
  | unset => rfl
  | flag _ => rfl
  | number _ => rfl
  | text _ => rfl
  | record fs => by
    have hfields := fieldLeafPaths_overrides fs
    rw [override?, setPaths]
    cases ho : overrides fs with
    | nil =>
      -- A record without a field that is set is left out.
      rw [← hfields, ho]
      rfl
    | cons r rs =>
      rw [← hfields, ho]
      rfl

/-- The leaves of the overrides of named contents are the fields that are set. -/
theorem fieldLeafPaths_overrides : ∀ fs : List (String × Content),
    fieldLeafPaths (overrides fs) = setFieldPaths fs
  | [] => rfl
  | (name, c) :: fs => by
    have hc := leafPaths_override? c
    have hfields := fieldLeafPaths_overrides fs
    rw [overrides, setFieldPaths]
    cases ho : c.override? with
    | none =>
      rw [ho, Option.elim_none] at hc
      rw [← hc, List.map_nil, List.nil_append]
      exact hfields
    | some r =>
      rw [ho, Option.elim_some] at hc
      show fieldLeafPaths ((name, r) :: overrides fs) = _
      rw [fieldLeafPaths, hc, hfields]

end

variable {path : List String}

@[simp]
theorem not_mem_setFieldPaths_nil : path ∉ setFieldPaths [] := List.not_mem_nil

/-- A path among named contents leads into the first of them or is one among the others. -/
theorem mem_setFieldPaths_cons {name : String} {c : Content} {fs : List (String × Content)} :
    path ∈ setFieldPaths ((name, c) :: fs) ↔
      (∃ p ∈ c.setPaths, path = name :: p) ∨ path ∈ setFieldPaths fs := by
  rw [setFieldPaths, List.mem_append, List.mem_map]
  simp only [eq_comm]

theorem mem_setFieldPaths_append {fs gs : List (String × Content)} :
    path ∈ setFieldPaths (fs ++ gs) ↔ path ∈ setFieldPaths fs ∨ path ∈ setFieldPaths gs := by
  induction fs with
  | nil => simp
  | cons f fs ih =>
    rw [List.cons_append, mem_setFieldPaths_cons, mem_setFieldPaths_cons, ih, or_assoc]

/-- The path to a number that is set is its name. -/
theorem exists_mem_setPaths_ofNumber {x : Option Int} {name : String} :
    (∃ p ∈ (ofNumber x).setPaths, path = name :: p) ↔ x.isSome = true ∧ path = [name] := by
  cases x <;> simp [ofNumber, setPaths]

/-- The path to a truth value that is set is its name. -/
theorem exists_mem_setPaths_ofFlag {x : Option Bool} {name : String} :
    (∃ p ∈ (ofFlag x).setPaths, path = name :: p) ↔ x.isSome = true ∧ path = [name] := by
  cases x <;> simp [ofFlag, setPaths]

/-- The path to a member of an enumeration that is set is its name. -/
theorem exists_mem_setPaths_ofChoice {α : Type} [Choice α] {x : Option α} {name : String} :
    (∃ p ∈ (ofChoice x).setPaths, path = name :: p) ↔ x.isSome = true ∧ path = [name] := by
  cases x <;> simp [ofChoice, setPaths]

/-- The path to a field of a record leads through the name of the record. -/
theorem exists_mem_setPaths_ofRecord {α : Type} {fields : α → List (String × Content)}
    {x : Option α} {name : String} :
    (∃ p ∈ (ofRecord fields x).setPaths, path = name :: p) ↔
      ∃ r ∈ x, ∃ p ∈ setFieldPaths (fields r), path = name :: p := by
  cases x <;> simp [ofRecord, setPaths]

/-- Among numeric fields the paths are the names of those that are set. -/
theorem mem_setFieldPaths_numbers {α : Type} {all : List α} {name : α → String}
    {number : α → Option Int} :
    path ∈ setFieldPaths (all.map fun f => (name f, ofNumber (number f))) ↔
      ∃ f ∈ all, (number f).isSome = true ∧ path = [name f] := by
  induction all with
  | nil => simp
  | cons f fs ih =>
    rw [List.map_cons, mem_setFieldPaths_cons, exists_mem_setPaths_ofNumber, ih]
    simp

end Content

open Content

@[simp]
theorem TableNumber.mem_all (f : TableNumber) : f ∈ all := by
  cases f <;> decide

@[simp]
theorem UniversalNumber.mem_all (f : UniversalNumber) : f ∈ all := by
  cases f <;> decide

@[simp]
theorem CompactionNumber.mem_all (f : CompactionNumber) : f ∈ all := by
  cases f <;> decide

@[simp]
theorem EngineNumber.mem_all (f : EngineNumber) : f ∈ all := by
  cases f <;> decide

variable {path : List String}

/-- The fields of the table format that are set. -/
theorem TableFormat.mem_setFieldPaths {t : TableFormat} :
    path ∈ setFieldPaths t.fields ↔ ∃ f, (t.number f).isSome = true ∧ path = [f.name] := by
  simp [fields, mem_setFieldPaths_numbers]

/-- The fields of universal compaction that are set. -/
theorem UniversalCompaction.mem_setFieldPaths {u : UniversalCompaction} :
    path ∈ setFieldPaths u.fields ↔
      (∃ f, (u.number f).isSome = true ∧ path = [f.name]) ∨
      u.stopStyle.isSome = true ∧ path = ["stop_style"] := by
  simp [fields, mem_setFieldPaths_append, mem_setFieldPaths_numbers, mem_setFieldPaths_cons,
    exists_mem_setPaths_ofChoice]

/-- The fields of compaction that are set. -/
theorem Compaction.mem_setFieldPaths {c : Compaction} :
    path ∈ setFieldPaths c.fields ↔
      c.style.isSome = true ∧ path = ["style"] ∨
      (∃ f, (c.number f).isSome = true ∧ path = [f.name]) ∨
      c.disableAutoCompactions.isSome = true ∧ path = ["disable_auto_compactions"] ∨
      ∃ u ∈ c.universal, ∃ p ∈ setFieldPaths u.fields, path = "universal" :: p := by
  simp [fields, mem_setFieldPaths_append, mem_setFieldPaths_numbers, mem_setFieldPaths_cons,
    exists_mem_setPaths_ofChoice, exists_mem_setPaths_ofFlag, exists_mem_setPaths_ofRecord]

/-- The fields of the options that are set. -/
theorem EngineOptions.mem_setFieldPaths {o : EngineOptions} :
    path ∈ setFieldPaths o.fields ↔
      (∃ f, (o.number f).isSome = true ∧ path = [f.name]) ∨
      o.manualWalFlush.isSome = true ∧ path = ["manual_wal_flush"] ∨
      o.walRecoveryMode.isSome = true ∧ path = ["wal_recovery_mode"] ∨
      o.compressionType.isSome = true ∧ path = ["compression_type"] ∨
      (∃ t ∈ o.tableFormat, ∃ p ∈ setFieldPaths t.fields, path = "table_format_config" :: p) ∨
      (∃ c ∈ o.compaction, ∃ p ∈ setFieldPaths c.fields, path = "compaction" :: p) ∨
      o.createIfMissing.isSome = true ∧ path = ["create_if_missing"] ∨
      o.errorIfExists.isSome = true ∧ path = ["error_if_exists"] ∨
      path = ["prepared_for_bulk_load"] := by
  have hprepared : (∃ p ∈ (Content.flag o.preparedForBulkLoad).setPaths,
      path = "prepared_for_bulk_load" :: p) ↔ path = ["prepared_for_bulk_load"] := by
    simp [setPaths]
  have hnumbers : (∃ f, (o.number f).isSome = true ∧ path = [f.name]) ↔
      ∃ f ∈ EngineNumber.all, (o.number f).isSome = true ∧ path = [f.name] := by
      simp
  rw [hnumbers]
  simp only [fields, numberField, mem_setFieldPaths_cons, exists_mem_setPaths_ofChoice,
    exists_mem_setPaths_ofFlag, exists_mem_setPaths_ofRecord, exists_mem_setPaths_ofNumber,
    hprepared, not_mem_setFieldPaths_nil, or_false, EngineNumber.all, List.mem_cons,
    List.not_mem_nil, exists_eq_or_imp, exists_eq_left]
  -- The same fields on both sides, here in the order of the report.
  exact iff_of_eq (by ac_rfl)

/-- The leaves of the overrides of options are the fields that are set. -/
theorem EngineOptions.leafPaths_overridesReport (o : EngineOptions) :
    o.overridesReport.leafPaths = setFieldPaths o.fields := by
  have hfields := fieldLeafPaths_overrides o.fields
  have hprepared : ["prepared_for_bulk_load"] ∈ setFieldPaths o.fields :=
    mem_setFieldPaths.2 (by simp)
  rw [overridesReport, Report.leafPaths]
  cases ho : overrides o.fields with
  | nil =>
    rw [ho] at hfields
    rw [← hfields] at hprepared
    cases hprepared
  | cons r rs =>
    rw [← hfields, ho]
    rfl

end StoreTuning
