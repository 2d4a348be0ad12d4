import StoreTuning.Proofs.Compile.Order
import StoreTuning.Proofs.Compile.WellFormed

/-!
# What every compilation gives

Options that compile are consistent, in normal mode and for a bulk load (`Job.compile_consistent`).
In normal mode that follows from their being well-formed (`EngineOptions.WellFormed.consistent`),
and laying the profile for bulk loads over them keeps it (`EngineOptions.Consistent.prepare`): the
profile's own numbers fit the widths of the fields that settings give too. No number in them was a
truth value before (`Check.source?_ne_bool`).
-/

namespace StoreTuning

variable {ε : Type}

/-- The number that the profile for bulk loads puts into the field, if it puts one there. -/
def CompactionNumber.profile? : CompactionNumber → Option Int
  | numLevels => some Defaults.bulkLoadNumLevels
  | level0FileNumCompactionTrigger | level0SlowdownWritesTrigger | level0StopWritesTrigger =>
    some Defaults.bulkLoadLevel0Trigger
  | maxBackgroundCompactions => some Defaults.bulkLoadMaxBackgroundCompactions
  | targetFileSizeBase => some Defaults.bulkLoadTargetFileSizeBase
  | maxCompactionBytes => some Defaults.bulkLoadMaxCompactionBytes
  | softPendingCompactionBytesLimit | hardPendingCompactionBytesLimit => some 0
  | maxBackgroundJobs | targetFileSizeMultiplier => none

/-- The number that the profile for bulk loads puts into the field, if it puts one there. -/
def EngineNumber.profile? : EngineNumber → Option Int
  | maxWriteBufferNumber => some Defaults.bulkLoadMaxWriteBufferNumber
  | minWriteBufferNumberToMerge => some Defaults.bulkLoadMinWriteBufferNumberToMerge
  | maxBackgroundFlushes => some Defaults.bulkLoadMaxBackgroundFlushes
  | _ => none

/-- Under the profile a field holds the profile's number, or else what it held before. -/
theorem Compaction.number_prepareForBulkLoad (c : Compaction) (f : CompactionNumber) :
    c.prepareForBulkLoad.number f = f.profile?.or (c.number f) := by
  cases f <;> rfl

/-- Under the profile a field holds the profile's number, or else what it held before. -/
theorem EngineOptions.number_prepareForBulkLoad (o : EngineOptions) (f : EngineNumber) :
    o.prepareForBulkLoad.number f = f.profile?.or (o.number f) := by
  cases f <;> rfl

/-- The profile's number for a field fits the width of the field's setting. -/
theorem CompactionNumber.fits_profile {f : CompactionNumber} {w : Width} {n : Int}
    (hw : f.width? = some w) (hn : f.profile? = some n) : w.fits n = true := by
  cases f <;> cases hw <;> cases hn <;> decide

/-- The profile's number for a field fits the width of the field's setting. -/
theorem EngineNumber.fits_profile {f : EngineNumber} {w : Width} {n : Int}
    (hw : f.width? = some w) (hn : f.profile? = some n) : w.fits n = true := by
  cases f <;> cases hw <;> cases hn
  decide

/-- The fields that no setting gives, but only the profile for bulk loads. -/
structure LoadFields where
  level0SlowdownWritesTrigger : Option Int := none
  level0StopWritesTrigger : Option Int := none
  softPendingCompactionBytesLimit : Option Int := none
  hardPendingCompactionBytesLimit : Option Int := none
  disableAutoCompactions : Option Bool := none
  maxCompactionBytes : Option Int := none
  minWriteBufferNumberToMerge : Option Int := none
  maxBackgroundFlushes : Option Int := none
  deriving DecidableEq, Repr

namespace LoadFields

/-- None of the fields is set. -/
def unset : LoadFields := {}

/-- Every field is as the profile has it. -/
def profile : LoadFields where
  level0SlowdownWritesTrigger := some 0x40000000
  level0StopWritesTrigger := some 0x40000000
  softPendingCompactionBytesLimit := some 0
  hardPendingCompactionBytesLimit := some 0
  disableAutoCompactions := some true
  maxCompactionBytes := some 0x1000000000000000
  minWriteBufferNumberToMerge := some 1
  maxBackgroundFlushes := some 4

end LoadFields

/-- The fields of the options that only the profile for bulk loads sets. -/
def EngineOptions.loadFields (o : EngineOptions) : LoadFields :=
  let c := o.compaction.getD {}
  { level0SlowdownWritesTrigger := c.level0SlowdownWritesTrigger
    level0StopWritesTrigger := c.level0StopWritesTrigger
    softPendingCompactionBytesLimit := c.softPendingCompactionBytesLimit
    hardPendingCompactionBytesLimit := c.hardPendingCompactionBytesLimit
    disableAutoCompactions := c.disableAutoCompactions
    maxCompactionBytes := c.maxCompactionBytes
    minWriteBufferNumberToMerge := o.minWriteBufferNumberToMerge
    maxBackgroundFlushes := o.maxBackgroundFlushes }

/-- Compaction as a compilation gives it, prepared for a bulk load or not. -/
structure Compaction.Consistent (c : Compaction) : Prop where
  /-- There is a family. -/
  style : c.style.isSome
  /-- A number fits the width of the setting that gives it, if there is such a setting. -/
  numbers : ∀ f w, f.width? = some w → ∀ n ∈ c.number f, w.fits n = true
  /-- The parameters of universal compaction are there for that family only. -/
  universal_iff : c.universal.isSome ↔ c.style = some .universal
  /-- The numbers of universal compaction are of 32 bits. -/
  universal : ∀ u ∈ c.universal, u.WellFormed

/-- Options as a compilation gives them, prepared for a bulk load or not. -/
structure EngineOptions.Consistent (o : EngineOptions) : Prop where
  /-- The write-ahead log is left alone, or flushed by hand and recovered consistently. -/
  wal : o.manualWalFlush = none ∧ o.walRecoveryMode = none ∨
    o.manualWalFlush = some true ∧ o.walRecoveryMode = some .absoluteConsistency
  /-- There is a codec. -/
  compression : o.compressionType.isSome
  /-- There is a format of table files with both its numbers. -/
  format : ∃ t, o.tableFormat = some t ∧ t.WellFormed
  /-- There is a compaction. -/
  compaction : ∃ c, o.compaction = some c ∧ c.Consistent
  /-- A field that settings give holds a number of the width of its setting. -/
  numbers : ∀ f w, f.width? = some w → ∃ n, o.number f = some n ∧ w.fits n = true
  /-- The write buffers have a size that is no negative number. -/
  writeBuffer : ∀ n ∈ o.writeBufferSize, 0 ≤ n
  /-- A missing store is created. -/
  createIfMissing : o.createIfMissing = some true
  /-- An existing store is no error. -/
  errorIfExists : o.errorIfExists = some false
  /-- What only the profile for bulk loads sets is set by it as a whole, or not at all. -/
  loadFields : o.loadFields = if o.preparedForBulkLoad then .profile else .unset

/-- Well-formed compaction is consistent. -/
theorem Compaction.WellFormed.consistent {c : Compaction} (h : c.WellFormed) : c.Consistent where
  style := h.style
  numbers f w hw n hn := by
    obtain ⟨w', hw', hfits⟩ := h.numbers f n hn
    cases hw.symm.trans hw'
    exact hfits
  universal_iff := h.universal_iff
  universal := h.universal

/-- Well-formed options are consistent: nothing that only the profile sets is set. -/
theorem EngineOptions.WellFormed.consistent {o : EngineOptions} (h : o.WellFormed) :
    o.Consistent := by
  obtain ⟨c, hc, hcwf⟩ := h.compaction
  have hunset : o.loadFields = .unset := by
    have hnone : ∀ f, f.width? = none → c.number f = none := fun f => hcwf.number_eq_none
    rw [loadFields, hc, Option.getD_some, LoadFields.unset, LoadFields.mk.injEq]
    exact ⟨hnone .level0SlowdownWritesTrigger rfl, hnone .level0StopWritesTrigger rfl,
      hnone .softPendingCompactionBytesLimit rfl, hnone .hardPendingCompactionBytesLimit rfl,
      hcwf.switch, hnone .maxCompactionBytes rfl, h.others .minWriteBufferNumberToMerge rfl,
      h.others .maxBackgroundFlushes rfl⟩
  exact
    { wal := h.wal
      compression := h.compression
      format := h.format
      compaction := ⟨c, hc, hcwf.consistent⟩
      numbers := h.numbers
      writeBuffer := h.writeBuffer
      createIfMissing := h.createIfMissing
      errorIfExists := h.errorIfExists
      loadFields := by rw [hunset, h.preparedForBulkLoad, if_neg Bool.false_ne_true] }

/-- Compaction stays consistent under the profile. -/
theorem Compaction.Consistent.prepare {c : Compaction} (h : c.Consistent) :
    c.prepareForBulkLoad.Consistent where
  style := h.style
  numbers f w hw n hn := by
    rw [number_prepareForBulkLoad] at hn
    -- A number comes from the profile, or it was there before.
    obtain hp | ⟨-, hn⟩ := Option.or_eq_some_iff.1 hn
    · exact CompactionNumber.fits_profile hw hp
    · exact h.numbers f w hw n hn
  universal_iff := h.universal_iff
  universal := h.universal

/-- Options stay consistent under the profile, which sets everything that only it sets. -/
theorem EngineOptions.Consistent.prepare {o : EngineOptions} (h : o.Consistent) :
    o.prepareForBulkLoad.Consistent := by
  obtain ⟨c, hc, hcc⟩ := h.compaction
  have hprepared : o.prepareForBulkLoad.compaction = some c.prepareForBulkLoad :=
    congrArg (Option.map Compaction.prepareForBulkLoad) hc
  exact
    { wal := h.wal
      compression := h.compression
      format := h.format
      compaction := ⟨c.prepareForBulkLoad, hprepared, hcc.prepare⟩
      numbers := fun f w hw => by
        obtain ⟨n, hn, hfits⟩ := h.numbers f w hw
        rw [number_prepareForBulkLoad]
        cases hp : f.profile? with
        | none => exact ⟨n, hn, hfits⟩
        | some m => exact ⟨m, rfl, EngineNumber.fits_profile hw hp⟩
      writeBuffer := h.writeBuffer
      createIfMissing := h.createIfMissing
      errorIfExists := h.errorIfExists
      loadFields := by
        rw [EngineOptions.loadFields, hprepared]
        rfl }

/-- The value that a check reads as an integer, if it reads one: what is specified under its key, or
else its fallback. -/
def Check.source? (s : Settings) : Check → Option Value
  | integer key _ d => (s.specified? key).or (some d)
  | row _ _ key _ d? gated =>
    if gated && !s.contains key then none else (s.specified? key).or d?
  | _ => none

/-- A truth value is not read as an integer. -/
theorem Settings.errorOf?_getInteger_of_bool {s : Settings} {key : String} {w : Width}
    {fallback? : Option Value} {b : Bool}
    (h : (s.specified? key).or fallback? = some (.bool b)) :
    (errorOf? (s.getInteger key w fallback?)).isSome := by
  have hlookup : s.lookup key fallback? = .ok (.bool b) := by
    unfold lookup
    cases hv : s.specified? key with
    | some v =>
      rw [hv] at h
      cases h
      rfl
    | none =>
      rw [hv] at h
      obtain rfl : fallback? = some (.bool b) := h
      rfl
  rw [getInteger, hlookup]
  rfl

/-- A check that does not fail reads no truth value as an integer. -/
theorem Check.source?_ne_bool {j : Job ε} {c : Check} (h : c.failure? j = none) (b : Bool) :
    c.source? j.settings ≠ some (.bool b) := by
  intro hsource
  cases c with
  | integer key w d =>
    have hnone := Option.map_eq_none_iff.1 h
    have hsome := Settings.errorOf?_getInteger_of_bool (w := w) hsource
    rw [hnone] at hsome
    cases hsome
  | row recordName field key w d? gated =>
    simp only [failure?] at h
    simp only [source?] at hsource
    split at hsource
    · cases hsource
    next hg =>
      rw [if_neg hg] at h
      have hnone := Option.map_eq_none_iff.1 h
      have hsome := Settings.errorOf?_getInteger_of_bool (w := w) hsource
      rw [hnone] at hsome
      cases hsome
  | _ => cases hsource

/-- Options that compile are consistent, whatever the mode and whatever is said of the directory.
They are prepared for a bulk load exactly when one is asked for and the directory holds no store.
No number in them was read from a truth value, not even from a fallback. -/
theorem Job.compile_consistent (j : Job ε) {o : EngineOptions} (h : j.compile.outcome = .ok o) :
    o.Consistent ∧
      (o.preparedForBulkLoad = true ↔
        j.mode = .bulkLoad ∧ j.holdsStore j.directory = .ok false) ∧
      ∀ c ∈ j.checks, ∀ b, c.source? j.settings ≠ some (.bool b) := by
  have hsource : ∀ c ∈ j.checks, ∀ b, c.source? j.settings ≠ some (.bool b) :=
    fun c hc => Check.source?_ne_bool (j.compile_follows.failure?_eq_none h c hc)
  obtain ⟨p, hp, hopen⟩ := Attempt.outcome_bind_eq_ok_iff.1 h
  have hwf : p.WellFormed := configure_wellFormed hp
  cases hmode : j.mode with
  | normal =>
    rw [hmode, openFor_normal] at hopen
    cases hopen
    exact ⟨hwf.consistent, by simp [hwf.preparedForBulkLoad], hsource⟩
  | bulkLoad =>
    rw [hmode, openFor_bulkLoad] at hopen
    cases hstore : j.holdsStore j.directory with
    | error e =>
      rw [hstore] at hopen
      cases hopen
    | ok present =>
      rw [hstore] at hopen
      cases present with
      | true =>
        cases hopen
        exact ⟨hwf.consistent, by simp [hwf.preparedForBulkLoad], hsource⟩
      | false =>
        cases hopen
        exact ⟨hwf.consistent.prepare, by simp [EngineOptions.prepareForBulkLoad], hsource⟩

/-- A bulk load into an empty directory, with a write-ahead log and leveled compaction. -/
def freshLoad : Job Empty :=
  { plainJob (.ofPairs [("wal.enabled", .text "TRUE"), ("compaction.style", .text "level"),
      ("compaction.num.levels", .int 9), ("compaction.target.file.size.multiplier", .text "-3")])
    with mode := .bulkLoad }

/-- The fresh load gives options under the profile, which overrides the number of levels and leaves
the growth of file sizes, and they are consistent. -/
theorem compile_consistent_freshLoad :
    ∃ o c, freshLoad.compile.outcome = .ok o ∧ o.compaction = some c ∧ c.numLevels = some 2 ∧
      c.targetFileSizeMultiplier = some (-3) ∧ o.Consistent ∧ o.loadFields = .profile := by
  obtain ⟨o, ho, hcheck⟩ := exists_ok_of_any (x := freshLoad.compile.outcome)
    (p := fun o => o.preparedForBulkLoad && (o.compaction.map fun c =>
      (c.numLevels, c.targetFileSizeMultiplier)) == some (some 2, some (-3))) (by decide +kernel)
  rw [Bool.and_eq_true, beq_iff_eq] at hcheck
  obtain ⟨hprepared, hnumbers⟩ := hcheck
  obtain ⟨c, hc, hnumbers⟩ := Option.map_eq_some_iff.1 hnumbers
  obtain ⟨hlevels, hmultiplier⟩ := Prod.mk.inj hnumbers
  obtain ⟨hconsistent, -⟩ := Job.compile_consistent freshLoad ho
  refine ⟨o, c, ho, hc, hlevels, hmultiplier, hconsistent, ?_⟩
  rw [hconsistent.loadFields, if_pos hprepared]

end StoreTuning
