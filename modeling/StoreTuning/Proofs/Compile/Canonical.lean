import Mathlib.Data.List.Nodup
import StoreTuning.Proofs.Compile.Keys
import StoreTuning.Proofs.Entries
import StoreTuning.Proofs.Settings.Lookup

/-!
# Canonical settings

The options that settings of normal mode can give (`EngineOptions.WellFormed`), and for such options
the settings that say them again, each field under its own key (`EngineOptions.canonical`). What is
looked up under a key is what the field of the key holds (`EngineOptions.get?_canonical`).
-/

namespace StoreTuning

/-- The width of the setting that gives the field, if one does. -/
def CompactionNumber.width? : CompactionNumber → Option Width
  | numLevels | level0FileNumCompactionTrigger | maxBackgroundCompactions | maxBackgroundJobs
  | targetFileSizeMultiplier => some .int
  | targetFileSizeBase => some .long
  | level0SlowdownWritesTrigger | level0StopWritesTrigger | maxCompactionBytes
  | softPendingCompactionBytesLimit | hardPendingCompactionBytesLimit => none

/-- The width of the setting that gives the field, if one does. -/
def EngineNumber.width? : EngineNumber → Option Width
  | maxWriteBufferNumber | maxOpenFiles | maxFileOpeningThreads => some .int
  | writeBufferSize | maxLogFileSize | keepLogFileNum | deleteObsoleteFilesPeriodMicros
  | maxManifestFileSize => some .long
  | minWriteBufferNumberToMerge | maxBackgroundFlushes => none

/-- A format of table files as settings give it. -/
structure TableFormat.WellFormed (t : TableFormat) : Prop where
  /-- There is a block cache, and its size is a natural number of 64 bits. -/
  cache : ∃ n, t.blockCacheSize = some n ∧ 0 ≤ n ∧ Width.long.fits n = true
  /-- There is a block size of 32 bits. -/
  block : ∃ n, t.blockSize = some n ∧ Width.int.fits n = true

/-- Universal compaction as settings give it: its numbers are of 32 bits. -/
def UniversalCompaction.WellFormed (u : UniversalCompaction) : Prop :=
  ∀ f, ∀ n ∈ u.number f, Width.int.fits n = true

/-- Compaction as settings give it. -/
structure Compaction.WellFormed (c : Compaction) : Prop where
  /-- There is a family. -/
  style : c.style.isSome
  /-- A number is in a field that settings give, and fits the width of the setting. -/
  numbers : ∀ f, ∀ n ∈ c.number f, ∃ w, f.width? = some w ∧ w.fits n = true
  /-- No setting is about the switch. -/
  switch : c.disableAutoCompactions = none
  /-- The parameters of universal compaction are there for that family only. -/
  universal_iff : c.universal.isSome ↔ c.style = some .universal
  /-- The parameters of universal compaction are as settings give them. -/
  universal : ∀ u ∈ c.universal, u.WellFormed

/-- Options as settings give them in normal mode. -/
structure EngineOptions.WellFormed (o : EngineOptions) : Prop where
  /-- The write-ahead log is left alone, or flushed by hand and recovered consistently. -/
  wal : o.manualWalFlush = none ∧ o.walRecoveryMode = none ∨
    o.manualWalFlush = some true ∧ o.walRecoveryMode = some .absoluteConsistency
  /-- There is a codec. -/
  compression : o.compressionType.isSome
  /-- There is a format of table files. -/
  format : ∃ t, o.tableFormat = some t ∧ t.WellFormed
  /-- There is a compaction. -/
  compaction : ∃ c, o.compaction = some c ∧ c.WellFormed
  /-- A field that settings give holds a number of the width of its setting. -/
  numbers : ∀ f w, f.width? = some w → ∃ n, o.number f = some n ∧ w.fits n = true
  /-- No other field holds a number. -/
  others : ∀ f, f.width? = none → o.number f = none
  /-- The write buffers have a size that is no negative number. -/
  writeBuffer : ∀ n ∈ o.writeBufferSize, 0 ≤ n
  /-- A missing store is created. -/
  createIfMissing : o.createIfMissing = some true
  /-- An existing store is no error. -/
  errorIfExists : o.errorIfExists = some false
  /-- The profile for bulk loads was not laid over the options. -/
  preparedForBulkLoad : o.preparedForBulkLoad = false

/-- A field that no setting gives is not set. -/
theorem Compaction.WellFormed.number_eq_none {c : Compaction} (h : c.WellFormed)
    {f : CompactionNumber} (hf : f.width? = none) : c.number f = none := by
  refine Option.eq_none_iff_forall_ne_some.2 fun n hn => ?_
  obtain ⟨w, hw, -⟩ := h.numbers f n hn
  rw [hf] at hw
  cases hw

/-- The settings with the keys that have a value. -/
def Settings.ofOptions (pairs : List (String × Option Value)) : Settings :=
  .ofPairs (pairs.filterMap fun p => p.2.map (p.1, ·))

/-- The keys of a compilation with what options say under each. -/
def EngineOptions.entries (o : EngineOptions) : List (String × Option Value) :=
  let t := o.tableFormat.getD {}
  let c := o.compaction.getD {}
  let u := c.universal.getD {}
  [ ("wal.enabled", some (.bool (o.manualWalFlush = some true))),
    ("container.write.buffer.size.bytes", o.writeBufferSize.map .int),
    ("container.cache.size.bytes", t.blockCacheSize.map .int),
    ("compression", o.compressionType.map fun m => .text (Choice.value m)),
    ("block.size.bytes", t.blockSize.map .int),
    ("compaction.num.levels", c.numLevels.map .int),
    ("compaction.level0.file.num.compaction.trigger", c.level0FileNumCompactionTrigger.map .int),
    ("compaction.max.background.compactions", c.maxBackgroundCompactions.map .int),
    ("compaction.target.file.size.base", c.targetFileSizeBase.map .int),
    ("compaction.target.file.size.multiplier", c.targetFileSizeMultiplier.map .int),
    ("max.background.jobs", c.maxBackgroundJobs.map .int),
    ("compaction.style", c.style.map fun m => .text (Choice.value m)),
    ("num.write.buffers", o.maxWriteBufferNumber.map .int),
    ("max.log.file.size.bytes", o.maxLogFileSize.map .int),
    ("keep.log.file.num", o.keepLogFileNum.map .int),
    ("delete.obsolete.files.period.micros", o.deleteObsoleteFilesPeriodMicros.map .int),
    ("max.open.files", o.maxOpenFiles.map .int),
    ("max.file.opening.threads", o.maxFileOpeningThreads.map .int),
    ("max.manifest.file.size", o.maxManifestFileSize.map .int),
    ("compaction.universal.max.size.amplification.percent",
      u.maxSizeAmplificationPercent.map .int),
    ("compaction.universal.size.ratio", u.sizeRatio.map .int),
    ("compaction.universal.min.merge.width", u.minMergeWidth.map .int),
    ("compaction.universal.max.merge.width", u.maxMergeWidth.map .int),
    ("compaction.universal.compaction.stop.style",
      u.stopStyle.map fun m => .text (Choice.value m))]

/-- The settings that say options: each field that is set, under its key. -/
def EngineOptions.canonical (o : EngineOptions) : Settings :=
  .ofOptions o.entries

/-- Leaving out the keys without a value keeps the others in their order. -/
theorem keys_filterMap_sublist (pairs : List (String × Option Value)) :
    (Entries.keys (pairs.filterMap fun p => p.2.map (p.1, ·))).Sublist (Entries.keys pairs) := by
  induction pairs with
  | nil => exact .slnil
  | cons p pairs ih =>
    obtain ⟨k, v?⟩ := p
    cases v? with
    | none => exact ih.cons k
    | some v => exact ih.cons_cons k

/-- Under each of distinct keys there is what it was listed with. -/
theorem Settings.get?_ofOptions {pairs : List (String × Option Value)}
    (hnodup : (Entries.keys pairs).Nodup) {key : String} {v? : Option Value}
    (h : (key, v?) ∈ pairs) : (ofOptions pairs).get? key = v? := by
  have hentries : (ofOptions pairs).entries = pairs.filterMap fun p => p.2.map (p.1, ·) :=
    Entries.ofList_eq_self (hnodup.sublist (keys_filterMap_sublist pairs))
  have hiff : ∀ v, (ofOptions pairs).get? key = some v ↔ (key, some v) ∈ pairs := by
    intro v
    rw [get?_eq_some_iff, hentries, List.mem_filterMap]
    constructor
    · rintro ⟨⟨k, w?⟩, hmem, hv⟩
      obtain ⟨w, rfl, heq⟩ := Option.map_eq_some_iff.1 hv
      cases heq
      exact hmem
    · exact fun hmem => ⟨(key, some v), hmem, rfl⟩
  cases v? with
  | some v => exact (hiff v).2 h
  | none =>
    -- A value would have to come from a second pair with the key.
    refine Option.eq_none_iff_forall_ne_some.2 fun v hv => ?_
    cases List.inj_on_of_nodup_map hnodup h ((hiff v).1 hv) rfl

/-- Under a key of a compilation the canonical settings have what the options say there. -/
theorem EngineOptions.get?_canonical {o : EngineOptions} {key : String} {v? : Option Value}
    (h : (key, v?) ∈ o.entries) : o.canonical.get? key = v? := by
  have hkeys : Entries.keys o.entries = compilerKeys := rfl
  exact Settings.get?_ofOptions (hkeys ▸ nodup_compilerKeys) h

end StoreTuning
