import Mathlib.Data.List.Nodup
import StoreTuning.Proofs.Compile.Job

/-!
# Records with numeric fields

The records that tables fill are their numeric fields and the rest (`NumberFields`), and a table
changes the former only. A table that reads the numbers of a record fills another record of the
same rest up to it (`NumberFields.outcome_apply`).
-/

namespace StoreTuning

variable {α γ τ : Type} [DecidableEq α]

/-- A record `τ` as its numeric fields, which `α` names, and the rest of it. -/
structure NumberFields (τ α γ : Type) [DecidableEq α] where
  /-- The value of a numeric field. -/
  number : τ → α → Option Int
  /-- The record with a number put into a field. -/
  put : τ → α → Int → τ
  /-- What is not a numeric field. -/
  rest : τ → γ
  /-- A field holds what was put into it, and the other fields stay. -/
  number_put : ∀ t f n g, number (put t f n) g = if g = f then some n else number t g
  /-- The rest stays. -/
  rest_put : ∀ t f n, rest (put t f n) = rest t
  /-- The numeric fields and the rest make up the record. -/
  ext : ∀ {t u}, (∀ f, number t f = number u f) → rest t = rest u → t = u

/-- Universal compaction is its numeric fields and its stop style. -/
def UniversalCompaction.numberFields :
    NumberFields UniversalCompaction UniversalNumber (Option StopStyle) where
  number := number
  put := put
  rest u := u.stopStyle
  number_put u f n g := u.number_setNumber (some n) f g
  rest_put u f n := by cases f <;> rfl
  ext := by
    rintro ⟨⟩ ⟨⟩ hnumber hrest
    rw [mk.injEq]
    exact ⟨hnumber .maxSizeAmplificationPercent, hnumber .sizeRatio, hnumber .minMergeWidth,
      hnumber .maxMergeWidth, hrest⟩

/-- Compaction is its numeric fields, its family, its switch, and the parameters of the universal
family. -/
def Compaction.numberFields :
    NumberFields Compaction CompactionNumber
      (Option CompactionStyle × Option Bool × Option UniversalCompaction) where
  number := number
  put := put
  rest c := (c.style, c.disableAutoCompactions, c.universal)
  number_put c f n g := c.number_setNumber (some n) f g
  rest_put c f n := by cases f <;> rfl
  ext := by
    rintro ⟨⟩ ⟨⟩ hnumber hrest
    obtain ⟨hstyle, hswitch, huniversal⟩ := by simpa only [Prod.mk.injEq] using hrest
    rw [mk.injEq]
    exact ⟨hstyle, hnumber .numLevels, hnumber .level0FileNumCompactionTrigger,
      hnumber .level0SlowdownWritesTrigger, hnumber .level0StopWritesTrigger,
      hnumber .maxBackgroundCompactions, hnumber .maxBackgroundJobs, hnumber .targetFileSizeBase,
      hnumber .targetFileSizeMultiplier, hnumber .maxCompactionBytes,
      hnumber .softPendingCompactionBytesLimit, hnumber .hardPendingCompactionBytesLimit, hswitch,
      huniversal⟩

/-- The fields of the options that are no numbers. -/
def EngineOptions.choices (o : EngineOptions) :
    Option Bool × Option RecoveryMode × Option Compression × Option TableFormat ×
      Option Compaction × Option Bool × Option Bool × Bool :=
  (o.manualWalFlush, o.walRecoveryMode, o.compressionType, o.tableFormat, o.compaction,
    o.createIfMissing, o.errorIfExists, o.preparedForBulkLoad)

/-- The options are their numeric fields and the others. -/
def EngineOptions.numberFields : NumberFields EngineOptions EngineNumber
    (Option Bool × Option RecoveryMode × Option Compression × Option TableFormat ×
      Option Compaction × Option Bool × Option Bool × Bool) where
  number := number
  put := put
  rest := choices
  number_put o f n g := o.number_setNumber (some n) f g
  rest_put o f n := by cases f <;> rfl
  ext := by
    rintro ⟨⟩ ⟨⟩ hnumber hrest
    obtain ⟨hwal, hmode, hcodec, hformat, hcompaction, hcreate, herror, hprepared⟩ := by
      simpa only [choices, Prod.mk.injEq] using hrest
    rw [mk.injEq]
    exact ⟨hwal, hmode, hcodec, hformat, hcompaction, hcreate, herror, hnumber .writeBufferSize,
      hnumber .maxWriteBufferNumber, hnumber .minWriteBufferNumberToMerge,
      hnumber .maxBackgroundFlushes, hnumber .maxLogFileSize, hnumber .keepLogFileNum,
      hnumber .deleteObsoleteFilesPeriodMicros, hnumber .maxOpenFiles,
      hnumber .maxFileOpeningThreads, hnumber .maxManifestFileSize, hprepared⟩

namespace NumberFields

variable (F : NumberFields τ α γ) {recordName : String} {name : α → String} {s : Settings}
  {table : List (OptionRow α Width)} {target final : τ}

/-- A table that reads the numbers of a record, or skips the field, fills another up to it, when the
two agree in the rest and in the fields that the table leaves alone. -/
theorem outcome_apply (hread : ∀ r ∈ table, r.read? s = (F.number final r.field).map .ok)
    (hnumber : ∀ f, F.number target f = F.number final f ∨
      F.number target f = none ∧ f ∈ table.map OptionRow.field)
    (hrest : F.rest target = F.rest final) :
    (OptionTable.apply recordName name F.put s table target).outcome = .ok final := by
  -- Each row settles its own field, so that fewer are left open.
  induction table generalizing target with
  | nil =>
    have heq : target = final := F.ext (fun f => by simpa using hnumber f) hrest
    rw [heq]
    rfl
  | cons r rs ih =>
    have hrs : ∀ r ∈ rs, r.read? s = (F.number final r.field).map .ok :=
      fun r' hr' => hread r' (List.mem_cons_of_mem r hr')
    have hr := hread r List.mem_cons_self
    rw [OptionTable.apply_cons, OptionTable.applyRow, hr]
    cases hn : F.number final r.field with
    | none =>
      refine ih hrs (fun f => ?_) hrest
      obtain h | ⟨h, hf⟩ := hnumber f
      · exact .inl h
      · rw [List.map_cons, List.mem_cons] at hf
        obtain rfl | hf := hf
        · exact .inl (h.trans hn.symm)
        · exact .inr ⟨h, hf⟩
    | some n =>
      refine ih hrs (fun f => ?_) ((F.rest_put target r.field n).trans hrest)
      rw [F.number_put]
      split
      next hf => exact .inl (by rw [hf, hn])
      next hf =>
        obtain h | ⟨h, hmem⟩ := hnumber f
        · exact .inl h
        · exact .inr ⟨h, (List.mem_cons.1 hmem).resolve_left hf⟩

/-- A table leaves the rest, and a field comes out as it was, when every row of it is skipped, or
with the number that a row of it reads. -/
theorem number_of_outcome_apply
    (h : (OptionTable.apply recordName name F.put s table target).outcome = .ok final) :
    F.rest final = F.rest target ∧ ∀ f,
      F.number final f = F.number target f ∧ (∀ r ∈ table, r.field = f → r.read? s = none) ∨
      ∃ r ∈ table, r.field = f ∧ ∃ n, r.read? s = some (.ok n) ∧ F.number final f = some n := by
  induction table generalizing target with
  | nil =>
    cases h
    exact ⟨rfl, fun f => .inl ⟨rfl, nofun⟩⟩
  | cons r rs ih =>
    rw [OptionTable.apply_cons, Attempt.outcome_bind_eq_ok_iff] at h
    obtain ⟨next, hrow, hrest⟩ := h
    obtain ⟨hrest, hnumber⟩ := ih hrest
    unfold OptionTable.applyRow at hrow
    cases hread : r.read? s with
    | none =>
      rw [hread] at hrow
      cases hrow
      refine ⟨hrest, fun f => (hnumber f).imp (fun hf => ⟨hf.1, ?_⟩) ?_⟩
      · exact List.forall_mem_cons.2 ⟨fun _ => hread, hf.2⟩
      · exact fun ⟨r', hr', hf⟩ => ⟨r', List.mem_cons_of_mem r hr', hf⟩
    | some e =>
      cases e with
      | error e =>
        rw [hread] at hrow
        cases hrow
      | ok n =>
        rw [hread] at hrow
        cases hrow
        refine ⟨hrest.trans (F.rest_put target r.field n), fun f => ?_⟩
        -- A later row of the same field would have the last word.
        obtain ⟨hf, hskip⟩ | ⟨r', hr', hf⟩ := hnumber f
        · rw [F.number_put] at hf
          split at hf
          next heq => exact .inr ⟨r, List.mem_cons_self, heq.symm, n, hread, hf⟩
          next hne =>
            exact .inl ⟨hf, List.forall_mem_cons.2 ⟨fun heq => absurd heq.symm hne, hskip⟩⟩
        · exact .inr ⟨r', List.mem_cons_of_mem r hr', hf⟩

/-- A table of distinct fields that were not set reads the numbers that they come out with. -/
theorem read?_of_outcome_apply (hnodup : (table.map OptionRow.field).Nodup)
    (hunset : ∀ r ∈ table, F.number target r.field = none)
    (h : (OptionTable.apply recordName name F.put s table target).outcome = .ok final) :
    ∀ r ∈ table, r.read? s = (F.number final r.field).map .ok := by
  intro r hr
  obtain ⟨hf, hskip⟩ | ⟨r', hr', hfield, n, hread, hf⟩ :=
    (F.number_of_outcome_apply h).2 r.field
  · rw [hskip r hr rfl, hf, hunset r hr, Option.map_none]
  · -- The row that gave the number is the only one of the field.
    cases List.inj_on_of_nodup_map hnodup hr' hr hfield
    rw [hread, hf, Option.map_some]

end NumberFields

end StoreTuning
