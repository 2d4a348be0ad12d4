import StoreTuning.Proofs.Compile.Order
import StoreTuning.Proofs.Compile.WellFormed

/-!
# Options through their settings and back

Options that settings can give compile from their canonical settings again
(`EngineOptions.compile_canonical`): every table and every single read finds its value under the
key where it was written, in the width that it is read with.
-/

namespace StoreTuning

variable {ε α : Type}

/-- A row reads the number that its key holds, and is skipped for a field that is not set. -/
theorem OptionRow.read?_of_get? {r : OptionRow α Width} {s : Settings} {v : Option Int}
    (hget : s.get? r.key = v.map .int) (hfits : ∀ n ∈ v, r.kind.fits n = true)
    (hgated : v = none → r.gated = true) : r.read? s = v.map .ok := by
  rw [read?_eq, Settings.contains, hget]
  cases v with
  | none =>
    rw [hgated rfl]
    rfl
  | some n =>
    rw [Option.map_some, Option.isSome_some, Bool.not_true, Bool.and_false,
      if_neg Bool.false_ne_true, Settings.getInteger_of_get? hget (hfits n rfl), Option.map_some]

/-- The only task gets the whole budget. -/
theorem shareOf_one {s : Settings} {key : String} {n : Int} (hget : s.get? key = some (.int n))
    (hfits : Width.long.fits n = true) (hn : 0 ≤ n) (default : Int) :
    shareOf s key default 1 = .ok n := by
  unfold shareOf share
  rw [Settings.getInteger_of_get? hget hfits]
  show (if (1 : Int) < 1 then _ else if n < 0 then _ else _ : Except BudgetError Int).mapError _ = _
  rw [if_neg (by decide), if_neg (by omega), Int.ediv_one]
  rfl

/-- A stop style is found by its value. -/
theorem parseStopStyle_value (m : StopStyle) (key : String) :
    parseStopStyle (Choice.value m) key = .ok (some m) := by
  cases m <;> rfl

/-- The stop style is read as its key says, and not at all without the key. -/
theorem readStopStyle_of_get? {s : Settings} {m? : Option StopStyle}
    (h : s.get? stopStyleKey = m?.map fun m => .text (Choice.value m)) :
    readStopStyle s = .ok m? := by
  unfold readStopStyle Settings.contains
  rw [h]
  cases m? with
  | none => rfl
  | some m =>
    have hblank : Text.blank (Choice.value m) = false := by cases m <;> decide
    rw [Option.map_some, Option.isSome_some, if_pos rfl, Settings.getText_of_get? h hblank]
    simp only [bind, Except.bind, parseStopStyle_value]

namespace EngineOptions

variable {o : EngineOptions} {c : Compaction} {u : UniversalCompaction}

/-- The universal table reads the numbers back. -/
theorem read?_universalTable (hc : o.compaction = some c) (hu : c.universal = some u)
    (hwf : u.WellFormed) :
    ∀ r ∈ universalTable, r.read? o.canonical = (u.number r.field).map .ok := by
  have hmem : ∀ r ∈ universalTable, (r.key, (u.number r.field).map Value.int) ∈ o.entries := by
    simp [universalTable, entries, hc, hu, UniversalCompaction.number]
  have hkind : ∀ r ∈ universalTable, r.kind = .int ∧ r.gated = true := by decide
  intro r hr
  obtain ⟨hwidth, hgated⟩ := hkind r hr
  exact OptionRow.read?_of_get? (get?_canonical (hmem r hr)) (hwidth ▸ hwf r.field) fun _ => hgated

/-- The codec is written by its value. -/
theorem readChoice_compression_canonical {m : Compression} (hm : o.compressionType = some m)
    (default : String) :
    o.canonical.readChoice compressionKey default = .ok (Choice.value m) := by
  refine Settings.readChoice_of_get? (get?_canonical ?_) (by cases m <;> decide) default
  simp [entries, hm, compressionKey]

/-- The compaction family is written by its value. -/
theorem readChoice_style_canonical {m : CompactionStyle} (hc : o.compaction = some c)
    (hm : c.style = some m) (default : String) :
    o.canonical.readChoice styleKey default = .ok (Choice.value m) := by
  refine Settings.readChoice_of_get? (get?_canonical ?_) (by cases m <;> decide) default
  simp [entries, hc, hm, styleKey]

/-- Every field that a setting gives has a row. -/
theorem mem_compactionTable {f : CompactionNumber} (h : f.width?.isSome = true) :
    f ∈ compactionTable.map OptionRow.field := by
  cases f <;> first | decide | cases h

/-- The compaction table reads the numbers back. -/
theorem read?_compactionTable (hc : o.compaction = some c) (hwf : c.WellFormed) :
    ∀ r ∈ compactionTable, r.read? o.canonical = (c.number r.field).map .ok := by
  have hmem : ∀ r ∈ compactionTable, (r.key, (c.number r.field).map Value.int) ∈ o.entries := by
    simp [compactionTable, entries, hc, Compaction.number]
  have hkind : ∀ r ∈ compactionTable, r.field.width? = some r.kind ∧ r.gated = true := by decide
  intro r hr
  obtain ⟨hwidth, hgated⟩ := hkind r hr
  refine OptionRow.read?_of_get? (get?_canonical (hmem r hr)) (fun n hn => ?_) fun _ => hgated
  obtain ⟨w, hw, hfits⟩ := hwf.numbers r.field n hn
  rw [hwidth] at hw
  cases hw
  exact hfits

/-- The table of the options themselves reads the numbers back. -/
theorem read?_engineTable (hwf : o.WellFormed) :
    ∀ r ∈ engineTable, r.read? o.canonical = (o.number r.field).map .ok := by
  have hmem : ∀ r ∈ engineTable, (r.key, (o.number r.field).map Value.int) ∈ o.entries := by
    simp [engineTable, entries, number]
  have hwidth : ∀ r ∈ engineTable, r.field.width? = some r.kind := by decide
  intro r hr
  obtain ⟨n, hn, hfits⟩ := hwf.numbers r.field r.kind (hwidth r hr)
  refine OptionRow.read?_of_get? (get?_canonical (hmem r hr)) ?_ ?_ <;> simp [hn, hfits]

/-- Universal compaction is resolved back. -/
theorem resolveUniversal_canonical (hc : o.compaction = some c) (hu : c.universal = some u)
    (hwf : u.WellFormed) : (resolveUniversal o.canonical).outcome = .ok u := by
  have hstop : o.canonical.get? stopStyleKey = u.stopStyle.map fun m => .text (Choice.value m) :=
    get?_canonical (by simp [entries, hc, hu, stopStyleKey])
  -- The table fills everything but the stop style.
  let numbers : UniversalCompaction := { u with stopStyle := none }
  have hsame : ∀ f, numbers.number f = u.number f := fun f => by cases f <;> rfl
  refine Attempt.outcome_bind_eq_ok_iff.2 ⟨numbers, ?_, ?_⟩
  · have hread : ∀ r ∈ universalTable, r.read? o.canonical = (numbers.number r.field).map .ok := by
      intro r hr
      rw [hsame, read?_universalTable hc hu hwf r hr]
    refine UniversalCompaction.numberFields.outcome_apply hread (fun f => ?_) rfl
    exact .inr (by cases f <;> exact ⟨rfl, by decide⟩)
  · rw [readStopStyle_of_get? hstop]
    rfl

/-- Compaction is resolved back. -/
theorem resolveCompaction_canonical (channel : Channel) (hc : o.compaction = some c)
    (hwf : c.WellFormed) : (resolveCompaction channel o.canonical).outcome = .ok c := by
  obtain ⟨m, hm⟩ := Option.isSome_iff_exists.1 hwf.style
  -- The table fills everything but the family and the parameters of the universal one.
  let numbers : Compaction := { c with style := none, universal := none }
  have hsame : ∀ f, numbers.number f = c.number f := fun f => by cases f <;> rfl
  refine Attempt.outcome_bind_eq_ok_iff.2 ⟨numbers, ?_, ?_⟩
  · have hread : ∀ r ∈ compactionTable, r.read? o.canonical = (numbers.number r.field).map .ok := by
      intro r hr
      rw [hsame, read?_compactionTable hc hwf r hr]
    refine Compaction.numberFields.outcome_apply hread (fun f => ?_) ?_
    · show Compaction.number {} f = numbers.number f ∨ _
      have hunset : Compaction.number {} f = none := by cases f <;> rfl
      -- A field without a setting is unset in well-formed compaction, and the others have a row.
      cases hw : f.width? with
      | none => exact .inl (by rw [hsame, hunset, hwf.number_eq_none hw])
      | some w => exact .inr ⟨hunset, mem_compactionTable (by rw [hw, Option.isSome_some])⟩
    · show (none, none, none) = (none, c.disableAutoCompactions, none)
      rw [hwf.switch]
  rw [readChoice_style_canonical hc hm]
  refine Attempt.outcome_bind_eq_ok_iff.2 ⟨Choice.value m, rfl, ?_⟩
  rw [resolveStyle_eq, Choice.ofText?_value_compactionStyle]
  refine Attempt.outcome_bind_eq_ok_iff.2 ⟨m, rfl, ?_⟩
  by_cases h : m = .universal
  · obtain ⟨u, hu⟩ := Option.isSome_iff_exists.1 (hwf.universal_iff.2 (h ▸ hm))
    rw [if_pos h]
    refine Attempt.outcome_bind_eq_ok_iff.2
      ⟨u, resolveUniversal_canonical hc hu (hwf.universal u hu), ?_⟩
    show Except.ok { c with style := some m, universal := some u } = Except.ok c
    rw [← hm, ← hu]
  · have hu : c.universal = none := by
      rw [← Option.not_isSome_iff_eq_none, hwf.universal_iff, hm, Option.some_inj]
      exact h
    rw [if_neg h]
    show Except.ok { c with style := some m, universal := none } = Except.ok c
    rw [← hm, ← hu]

/-- The options up to the table, and those after it, which lack the manifest limit only. -/
theorem outcome_engineTable (h : o.WellFormed) {recordName : String} {name : EngineNumber → String}
    {target : EngineOptions} (hrest : target.choices = o.choices)
    (hwrite : target.writeBufferSize = o.writeBufferSize)
    (hunset : ∀ f, f ≠ .writeBufferSize → target.number f = none) :
    (OptionTable.apply recordName name put o.canonical engineTable target).outcome =
      .ok { o with maxManifestFileSize := none } := by
  let numbers : EngineOptions := { o with maxManifestFileSize := none }
  have hsame : ∀ f, f ≠ .maxManifestFileSize → numbers.number f = o.number f :=
    fun f hf => by cases f <;> first | rfl | exact absurd rfl hf
  have hfield : ∀ r ∈ engineTable, r.field ≠ .maxManifestFileSize := by decide
  have hread : ∀ r ∈ engineTable, r.read? o.canonical = (numbers.number r.field).map .ok := by
    intro r hr
    rw [hsame r.field (hfield r hr), read?_engineTable h r hr]
  refine numberFields.outcome_apply hread (fun f => ?_) hrest
  -- A field has its number from before, is never set, or has a row.
  show target.number f = numbers.number f ∨ target.number f = none ∧ _
  cases f with
  | writeBufferSize => exact .inl hwrite
  | minWriteBufferNumberToMerge =>
    rw [hunset .minWriteBufferNumberToMerge (by decide)]
    exact .inl (h.others .minWriteBufferNumberToMerge rfl).symm
  | maxBackgroundFlushes =>
    rw [hunset .maxBackgroundFlushes (by decide)]
    exact .inl (h.others .maxBackgroundFlushes rfl).symm
  | maxManifestFileSize => exact .inl (hunset _ (by decide))
  | _ => exact .inr ⟨hunset _ (by decide), by decide⟩

/-- The options of normal mode are configured back. -/
theorem configure_canonical (channel : Channel) (manifestDefault : Value) (h : o.WellFormed) :
    (configure channel o.canonical 1 manifestDefault :
      Attempt (CompileError ε) EngineOptions).outcome = .ok o := by
  obtain ⟨codec, hcodec⟩ := Option.isSome_iff_exists.1 h.compression
  obtain ⟨t, ht, ⟨cache, hcache, hcache0, hcachew⟩, block, hblock, hblockw⟩ := h.format
  obtain ⟨c, hc, hcwf⟩ := h.compaction
  obtain ⟨writeBuffer, (hwrite : o.writeBufferSize = _), hwritew⟩ :=
    h.numbers .writeBufferSize .long rfl
  obtain ⟨manifest, (hmanifest : o.maxManifestFileSize = _), hmanifestw⟩ :=
    h.numbers .maxManifestFileSize .long rfl
  have getWal : o.canonical.get? walKey = some (.bool (o.manualWalFlush = some true)) :=
    get?_canonical (by simp [entries, walKey])
  have getWrite : o.canonical.get? writeBufferKey = some (.int writeBuffer) :=
    get?_canonical (by simp [entries, hwrite, writeBufferKey])
  have getCache : o.canonical.get? cacheKey = some (.int cache) :=
    get?_canonical (by simp [entries, ht, hcache, cacheKey])
  have getBlock : o.canonical.get? blockSizeKey = some (.int block) :=
    get?_canonical (by simp [entries, ht, hblock, blockSizeKey])
  have getManifest : o.canonical.get? manifestKey = some (.int manifest) :=
    get?_canonical (by simp [entries, hmanifest, manifestKey])
  -- Every read finds what was written under its key; what is left is to follow the results.
  unfold configure StoreTuning.writeBufferSize StoreTuning.blockCacheSize
  rw [Settings.getFlag_of_get? getWal, shareOf_one getWrite hwritew (h.writeBuffer _ hwrite),
    readChoice_compression_canonical hcodec, shareOf_one getCache hcachew hcache0,
    Settings.getInteger_of_get? getBlock hblockw,
    Settings.getInteger_of_get? getManifest hmanifestw]
  refine Attempt.outcome_bind_eq_ok_iff.2 ⟨_, rfl, ?_⟩
  refine Attempt.outcome_bind_eq_ok_iff.2 ⟨writeBuffer, rfl, ?_⟩
  refine Attempt.outcome_bind_eq_ok_iff.2 ⟨Choice.value codec, rfl, ?_⟩
  rw [resolveCompression_eq, Choice.ofText?_value_compression]
  refine Attempt.outcome_bind_eq_ok_iff.2 ⟨codec, rfl, ?_⟩
  refine Attempt.outcome_bind_eq_ok_iff.2 ⟨cache, rfl, ?_⟩
  refine Attempt.outcome_bind_eq_ok_iff.2 ⟨block, rfl, ?_⟩
  refine Attempt.outcome_bind_eq_ok_iff.2
    ⟨c, Attempt.outcome_mapError_eq_ok_iff.2 (resolveCompaction_canonical channel hc hcwf), ?_⟩
  refine Attempt.outcome_bind_eq_ok_iff.2
    ⟨_, Attempt.outcome_mapError_eq_ok_iff.2 (outcome_engineTable h ?_ hwrite.symm fun f hf => ?_),
      ?_⟩
  · -- What the table leaves alone is what the well-formed options hold.
    have hwal : (if decide (o.manualWalFlush = some true) = true then some true else none) =
          o.manualWalFlush ∧
        (if decide (o.manualWalFlush = some true) = true then some .absoluteConsistency else none) =
          o.walRecoveryMode := by
      obtain ⟨hflush, hmode⟩ | ⟨hflush, hmode⟩ := h.wal <;> simp [hflush, hmode]
    obtain ⟨hflush, hmode⟩ := hwal
    simp only [choices, hflush, hmode, hcodec, h.createIfMissing, h.errorIfExists,
      h.preparedForBulkLoad, hc, ht, ← hcache, ← hblock]
  · cases f <;> first | rfl | exact absurd rfl hf
  · refine Attempt.outcome_bind_eq_ok_iff.2 ⟨manifest, rfl, ?_⟩
    show Except.ok { o with maxManifestFileSize := some manifest } = Except.ok o
    rw [← hmanifest]

end EngineOptions

/-- A text that names a member is not substituted. -/
theorem substitution_eq_nil [Choice α] {m : α} {raw : String}
    (h : Choice.ofText? raw = some m) (channel : Channel) (key : String) (fallback : α) :
    substitution channel key fallback raw = [] := by
  unfold substitution
  rw [h]

/-- With choices that name members, the checks of the options leave notes for debugging only. -/
theorem Check.level_of_mem_records {j : Job ε} {codec style : String} {m : Compression}
    {n : CompactionStyle}
    (hcodec : j.settings.readChoice compressionKey Defaults.compression = .ok codec)
    (hm : Choice.ofText? codec = some m)
    (hstyle : j.settings.readChoice styleKey Defaults.compactionStyle = .ok style)
    (hn : Choice.ofText? style = some n) {c : Check} (hc : c ∈ j.optionChecks) {r : Record}
    (hr : r ∈ c.records j) : r.event.level = .debug := by
  cases c with
  | codec =>
    rw [records, hcodec] at hr
    simp only [substitution_eq_nil hm] at hr
    cases hr
  | style =>
    rw [records, hstyle] at hr
    simp only [substitution_eq_nil hn] at hr
    cases hr
  | row recordName field key w d? gated =>
    simp only [records] at hr
    split at hr
    · cases hr
    · split at hr
      · rw [List.mem_singleton.1 hr]
        rfl
      · cases hr
  | presence => exact absurd hc j.presence_notMem_optionChecks
  | _ => cases hr

/-- In normal mode a job whose choices name members leaves notes for debugging only. -/
theorem Job.level_of_mem_records {j : Job ε} {codec style : String} {m : Compression}
    {n : CompactionStyle} (hmode : j.mode = .normal)
    (hcodec : j.settings.readChoice compressionKey Defaults.compression = .ok codec)
    (hm : Choice.ofText? codec = some m)
    (hstyle : j.settings.readChoice styleKey Defaults.compactionStyle = .ok style)
    (hn : Choice.ofText? style = some n) {r : Record} (hr : r ∈ j.compile.records) :
    r.event.level = .debug := by
  rw [j.compile_follows.records, List.mem_flatMap] at hr
  obtain ⟨c, hc, hr⟩ := hr
  have hmem : c ∈ j.checks := (List.takeWhile_sublist _).subset hc
  rw [checks, hmode, if_neg (by decide), List.append_nil] at hmem
  exact Check.level_of_mem_records hcodec hm hstyle hn hmem hr

/-- Options that are well-formed compile from their canonical settings, as one task and in normal
mode, whatever the rest of the job; nothing is asked on the way, and there is no warning. No other
options come of a job in normal mode, so that each result comes back from its canonical
settings. -/
theorem EngineOptions.compile_canonical (o : EngineOptions) :
    (o.WellFormed → ∀ j : Job ε,
      let x := ({ j with settings := o.canonical, tasks := 1, mode := .normal } : Job ε).compile
      x.outcome = .ok o ∧ x.queries = [] ∧ ∀ r ∈ x.records, r.event.level = .debug) ∧
    ∀ j : Job ε, j.mode = .normal → j.compile.outcome = .ok o → o.WellFormed := by
  refine ⟨fun h j => ?_, fun j hmode h => ?_⟩
  · let k : Job ε := { j with settings := o.canonical, tasks := 1, mode := .normal }
    show k.compile.outcome = _ ∧ k.compile.queries = [] ∧ ∀ r ∈ k.compile.records, _
    have hconfigure := configure_canonical (ε := ε) j.channel j.manifestDefault h
    refine ⟨?_, ?_, fun r hr => ?_⟩
    · exact Attempt.outcome_bind_eq_ok_iff.2 ⟨o, hconfigure, rfl⟩
    · exact Attempt.queries_bind_eq_nil (configure_queries _ _ _ _) fun _ => rfl
    · obtain ⟨m, hm⟩ := Option.isSome_iff_exists.1 h.compression
      obtain ⟨c, hc, hcwf⟩ := h.compaction
      obtain ⟨n, hn⟩ := Option.isSome_iff_exists.1 hcwf.style
      exact Job.level_of_mem_records rfl (readChoice_compression_canonical hm _)
        (Choice.ofText?_value_compression m) (readChoice_style_canonical hc hn _)
        (Choice.ofText?_value_compactionStyle n) hr
  · obtain ⟨p, hp, hopen⟩ := Attempt.outcome_bind_eq_ok_iff.1 h
    rw [hmode, openFor_normal] at hopen
    cases hopen
    exact configure_wellFormed hp

/-- Options with every field set that settings can give. -/
def fullOptions : EngineOptions where
  manualWalFlush := some true
  walRecoveryMode := some .absoluteConsistency
  compressionType := some .lz4
  tableFormat := some { blockCacheSize := some 1048576, blockSize := some 16384 }
  compaction := some {
    style := some .universal
    numLevels := some 4
    level0FileNumCompactionTrigger := some (-1)
    maxBackgroundCompactions := some 2
    maxBackgroundJobs := some 8
    targetFileSizeBase := some 0x7FFFFFFFFFFFFFFF
    targetFileSizeMultiplier := some (-0x80000000)
    universal := some {
      maxSizeAmplificationPercent := some 200
      sizeRatio := some 1
      minMergeWidth := some 2
      maxMergeWidth := some 0x7FFFFFFF
      stopStyle := some .similarSize } }
  createIfMissing := some true
  errorIfExists := some false
  writeBufferSize := some 0
  maxWriteBufferNumber := some 5
  maxLogFileSize := some 4096
  keepLogFileNum := some 1
  deleteObsoleteFilesPeriodMicros := some 60000000
  maxOpenFiles := some (-1)
  maxFileOpeningThreads := some 4
  maxManifestFileSize := some (-0x8000000000000000)

/-- The full options can be given by settings, and so they come back. -/
theorem compile_canonical_fullOptions :
    fullOptions.WellFormed ∧
      (plainJob fullOptions.canonical).compile.outcome = .ok fullOptions := by
  have huniversal : ∀ u ∈ (fullOptions.compaction.getD {}).universal, u.WellFormed := by
    intro u hu f n hn
    cases hu
    cases f <;> cases hn <;> decide
  have hcompaction : (fullOptions.compaction.getD {}).WellFormed :=
    { style := rfl
      numbers := fun f n hn => by cases f <;> cases hn <;> exact ⟨_, rfl, by decide⟩
      switch := rfl
      universal_iff := by decide
      universal := huniversal }
  have hwf : fullOptions.WellFormed :=
    { wal := .inr ⟨rfl, rfl⟩
      compression := rfl
      format := ⟨_, rfl, ⟨_, rfl, by decide, by decide⟩, _, rfl, by decide⟩
      compaction := ⟨_, rfl, hcompaction⟩
      numbers := fun f w hw => by cases f <;> cases hw <;> exact ⟨_, rfl, by decide⟩
      others := fun f hf => by cases f <;> cases hf <;> rfl
      writeBuffer := fun n hn => by cases hn; decide
      createIfMissing := rfl
      errorIfExists := rfl
      preparedForBulkLoad := rfl }
  exact ⟨hwf, ((EngineOptions.compile_canonical fullOptions).1 hwf (plainJob .empty)).1⟩

end StoreTuning
