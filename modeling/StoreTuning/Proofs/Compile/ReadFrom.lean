import StoreTuning.Proofs.Compile.Choice
import StoreTuning.Proofs.Compile.WellFormed

/-!
# Where each field comes from

Options that compile in normal mode hold in each field what was read for it
(`configure_readFrom`): a single read gives its field its value, and a row of a table sets its field
exactly when it is read (`NumberFields.read?_of_outcome_apply`).
-/

namespace StoreTuning

variable {ε : Type} {s : Settings}

/-- Universal compaction as it is read from settings. -/
structure UniversalCompaction.ReadFrom (s : Settings) (u : UniversalCompaction) : Prop where
  /-- The numbers are what the rows of the table read. -/
  numbers : ∀ r ∈ universalTable, r.read? s = (u.number r.field).map .ok
  /-- The stop style is the one that is read. -/
  stopStyle : readStopStyle s = .ok u.stopStyle

/-- Compaction as it is read from settings. -/
structure Compaction.ReadFrom (s : Settings) (c : Compaction) : Prop where
  /-- The family is the one that the settings resolve to. -/
  style : c.style = some s.resolvedStyle
  /-- The numbers are what the rows of the table read. -/
  numbers : ∀ r ∈ compactionTable, r.read? s = (c.number r.field).map .ok
  /-- The parameters of universal compaction are those that are read for it. -/
  universal : ∀ u ∈ c.universal, u.ReadFrom s

/-- Options as they are read from settings in normal mode. -/
structure EngineOptions.ReadFrom (s : Settings) (tasks : Int) (manifestDefault : Value)
    (o : EngineOptions) : Prop where
  /-- The write-ahead log is flushed by hand if it is enabled. -/
  wal : ∃ b, s.getFlag walKey (some (.bool Defaults.walEnabled)) = .ok b ∧
    o.manualWalFlush = (if b then some true else none) ∧
    o.walRecoveryMode = if b then some .absoluteConsistency else none
  /-- The write buffers have their share. -/
  writeBuffer : ∃ n, StoreTuning.writeBufferSize s tasks = .ok n ∧ o.writeBufferSize = some n
  /-- The codec is the one that the settings resolve to. -/
  compression : o.compressionType = some s.resolvedCompression
  /-- The block cache has its share, and the block size is the one that is read. -/
  format : ∃ cache block, blockCacheSize s tasks = .ok cache ∧
    s.getInteger blockSizeKey .int (some (.int Defaults.blockSize)) = .ok block ∧
    o.tableFormat = some { blockCacheSize := some cache, blockSize := some block }
  /-- The compaction is the one that is read. -/
  compaction : ∃ c, o.compaction = some c ∧ c.ReadFrom s
  /-- The numbers of the table are what its rows read. -/
  numbers : ∀ r ∈ engineTable, r.read? s = (o.number r.field).map .ok
  /-- The manifest limit is the one that is read. -/
  manifest : ∃ n, s.getInteger manifestKey .long (some manifestDefault) = .ok n ∧
    o.maxManifestFileSize = some n

/-- Universal compaction is resolved to what is read for it. -/
theorem resolveUniversal_readFrom {u : UniversalCompaction}
    (h : (resolveUniversal s).outcome = .ok u) : u.ReadFrom s := by
  obtain ⟨v, hv, h⟩ := Attempt.outcome_bind_eq_ok_iff.1 h
  obtain ⟨stopStyle, hstop, h⟩ := Attempt.outcome_bind_eq_ok_iff.1 h
  cases h
  refine ⟨fun r hr => ?_, hstop⟩
  have hsame : ({ v with stopStyle } : UniversalCompaction).number r.field = v.number r.field := by
    cases r.field <;> rfl
  rw [hsame]
  exact UniversalCompaction.numberFields.read?_of_outcome_apply (by decide) (by decide) hv r hr

/-- Compaction is resolved to what is read for it. -/
theorem resolveCompaction_readFrom {channel : Channel} {c : Compaction}
    (h : (resolveCompaction channel s).outcome = .ok c) : c.ReadFrom s := by
  obtain ⟨d, hd, h⟩ := Attempt.outcome_bind_eq_ok_iff.1 h
  obtain ⟨raw, hraw, h⟩ := Attempt.outcome_bind_eq_ok_iff.1 h
  obtain ⟨m, hm, h⟩ := Attempt.outcome_bind_eq_ok_iff.1 h
  have hfamily := resolvedStyle_of_outcome (Attempt.outcome_bind_eq_ok_iff.2 ⟨raw, hraw, hm⟩)
  have hnumbers : ∀ r ∈ compactionTable, r.read? s = (d.number r.field).map .ok :=
    Compaction.numberFields.read?_of_outcome_apply (by decide) (by decide) hd
  have hnone : d.universal = none :=
    congrArg (·.2.2) (Compaction.numberFields.number_of_outcome_apply hd).1
  -- What comes after the table sets no number.
  have hsame : ∀ u? f, ({ d with style := some m, universal := u? } : Compaction).number f =
      d.number f := fun u? f => by cases f <;> rfl
  split at h
  · obtain ⟨u, hu, h⟩ := Attempt.outcome_bind_eq_ok_iff.1 h
    cases h
    exact
      { style := by rw [hfamily]
        numbers := fun r hr => by rw [hsame, hnumbers r hr]
        universal := fun v hv => by
          cases hv
          exact resolveUniversal_readFrom hu }
  · cases h
    exact
      { style := by rw [hfamily]
        numbers := fun r hr => by rw [hnumbers r hr, ← hsame d.universal]
        universal := fun v hv => by cases hnone.symm.trans hv }

/-- What compiles in normal mode holds in each field what was read for it. -/
theorem configure_readFrom {channel : Channel} {tasks : Int} {manifestDefault : Value}
    {o : EngineOptions}
    (h : (configure channel s tasks manifestDefault :
      Attempt (CompileError ε) EngineOptions).outcome = .ok o) :
    o.ReadFrom s tasks manifestDefault := by
  obtain ⟨wal, hwal, h⟩ := Attempt.outcome_bind_eq_ok_iff.1 h
  obtain ⟨writeBuffer, hwrite, h⟩ := Attempt.outcome_bind_eq_ok_iff.1 h
  obtain ⟨raw, hraw, h⟩ := Attempt.outcome_bind_eq_ok_iff.1 h
  obtain ⟨codec, hcodec, h⟩ := Attempt.outcome_bind_eq_ok_iff.1 h
  obtain ⟨cache, hcache, h⟩ := Attempt.outcome_bind_eq_ok_iff.1 h
  obtain ⟨block, hblock, h⟩ := Attempt.outcome_bind_eq_ok_iff.1 h
  obtain ⟨compaction, hcompaction, h⟩ := Attempt.outcome_bind_eq_ok_iff.1 h
  obtain ⟨table, htable, h⟩ := Attempt.outcome_bind_eq_ok_iff.1 h
  obtain ⟨manifest, hmanifest, h⟩ := Attempt.outcome_bind_eq_ok_iff.1 h
  cases h
  have hrows := Attempt.outcome_mapError_eq_ok_iff.1 htable
  -- Only the write buffers and the manifest limit are numbers from outside the table.
  obtain ⟨hrest, -, hothers⟩ := number_of_engineTable hrows
  obtain ⟨hflush, hmode, hchosen, hformat, hfamily, -⟩ := by
    simpa only [EngineOptions.choices, Prod.mk.injEq] using hrest
  have hnumbers : ∀ r ∈ engineTable, r.read? s = (table.number r.field).map .ok :=
    EngineOptions.numberFields.read?_of_outcome_apply (by decide)
      (by simp [engineTable, EngineOptions.numberFields, EngineOptions.number]) hrows
  have hbuffer : table.writeBufferSize = some writeBuffer := hothers .writeBufferSize (by decide)
  have hsame : ∀ r ∈ engineTable,
      ({ table with maxManifestFileSize := some manifest } : EngineOptions).number r.field =
        table.number r.field := by
    simp [engineTable, EngineOptions.number]
  have hcompression : s.resolvedCompression = codec :=
    resolvedCompression_of_outcome (Attempt.outcome_bind_eq_ok_iff.2 ⟨raw, hraw, hcodec⟩)
  exact
    { wal := ⟨wal, eq_ok_of_mapError hwal, hflush, hmode⟩
      writeBuffer := ⟨writeBuffer, eq_ok_of_mapError hwrite, hbuffer⟩
      compression := by rw [hcompression]; exact hchosen
      format := ⟨cache, block, eq_ok_of_mapError hcache, eq_ok_of_mapError hblock, hformat⟩
      compaction := ⟨compaction, hfamily,
        resolveCompaction_readFrom (Attempt.outcome_mapError_eq_ok_iff.1 hcompaction)⟩
      numbers := fun r hr => by rw [hnumbers r hr, hsame r hr]
      manifest := ⟨manifest, eq_ok_of_mapError hmanifest, rfl⟩ }

end StoreTuning
