import StoreTuning.Proofs.Compile.Canonical
import StoreTuning.Proofs.Compile.NumberFields

/-!
# What normal mode gives

Options that compile in normal mode are well-formed (`configure_wellFormed`), whatever the settings:
each number is in the width that its key is read with, and what no setting gives is left unset.
-/

namespace StoreTuning

variable {ε α : Type} {s : Settings}

/-- A row that is read gives a number of its width. -/
theorem OptionRow.fits_of_read? {r : OptionRow α Width} {n : Int} (h : r.read? s = some (.ok n)) :
    r.kind.fits n = true := by
  unfold read? at h
  split at h
  · cases h
  · exact Settings.fits_of_getInteger (Option.some.inj h)

/-- A row that is not gated is read. -/
theorem OptionRow.gated_of_read?_eq_none {r : OptionRow α Width} (h : r.read? s = none) :
    r.gated = true := by
  unfold read? at h
  split at h
  next hskip => exact (Bool.and_eq_true_iff.1 hskip).1
  next => cases h

/-- A share is of a budget that is read and not negative, among at least one task. -/
theorem exists_budget_of_shareOf {key : String} {default tasks n : Int}
    (h : shareOf s key default tasks = .ok n) :
    ∃ total, s.getInteger key .long (some (.int default)) = .ok total ∧ 0 ≤ total ∧ 1 ≤ tasks ∧
      n = total / tasks := by
  unfold shareOf at h
  cases htotal : s.getInteger key .long (some (.int default)) with
  | error e =>
    rw [htotal] at h
    cases h
  | ok total =>
    rw [htotal] at h
    have hshare : share total tasks = .ok n := eq_ok_of_mapError h
    unfold share at hshare
    split at hshare
    · cases hshare
    split at hshare
    · cases hshare
    next htasks hnegative =>
      cases hshare
      exact ⟨total, rfl, by omega, by omega, rfl⟩

/-- A share is a natural number of 64 bits. -/
theorem fits_of_shareOf {key : String} {default tasks n : Int}
    (h : shareOf s key default tasks = .ok n) : 0 ≤ n ∧ Width.long.fits n = true := by
  obtain ⟨total, htotal, hnonneg, htasks, rfl⟩ := exists_budget_of_shareOf h
  -- The share is rounded down, and so it stays within the bound of the budget.
  have hlow : 0 ≤ total / tasks := Int.ediv_nonneg hnonneg (by omega)
  have hhigh : total / tasks ≤ total := Int.ediv_le_self _ hnonneg
  have hmax := (Width.fits_iff.1 (Settings.fits_of_getInteger htotal)).2
  exact ⟨hlow, Width.fits_iff.2 ⟨Int.le_trans (by decide) hlow, Int.le_trans hhigh hmax⟩⟩

/-- Universal compaction is resolved to what is well-formed. -/
theorem resolveUniversal_wellFormed {u : UniversalCompaction}
    (h : (resolveUniversal s).outcome = .ok u) : u.WellFormed := by
  obtain ⟨v, hv, h⟩ := Attempt.outcome_bind_eq_ok_iff.1 h
  obtain ⟨stopStyle, -, h⟩ := Attempt.outcome_bind_eq_ok_iff.1 h
  cases h
  have hkind : ∀ r ∈ universalTable, r.kind = .int := by decide
  obtain ⟨-, hnumber⟩ := UniversalCompaction.numberFields.number_of_outcome_apply hv
  intro f n hn
  have hvn : v.number f = some n := by cases f <;> exact hn
  -- A number that is set comes from a row, since nothing is set at first.
  obtain ⟨hf, -⟩ | ⟨r, hr, rfl, m, hread, hf⟩ := hnumber f
  · have hunset : UniversalCompaction.number {} f = none := by cases f <;> rfl
    cases hvn.symm.trans (hf.trans hunset)
  · cases hvn.symm.trans hf
    exact hkind r hr ▸ OptionRow.fits_of_read? hread

/-- Compaction is resolved to what is well-formed. -/
theorem resolveCompaction_wellFormed {channel : Channel} {c : Compaction}
    (h : (resolveCompaction channel s).outcome = .ok c) : c.WellFormed := by
  obtain ⟨d, hd, h⟩ := Attempt.outcome_bind_eq_ok_iff.1 h
  obtain ⟨raw, -, h⟩ := Attempt.outcome_bind_eq_ok_iff.1 h
  obtain ⟨m, -, h⟩ := Attempt.outcome_bind_eq_ok_iff.1 h
  have hwidth : ∀ r ∈ compactionTable, r.field.width? = some r.kind := by decide
  obtain ⟨hrest, hnumber⟩ := Compaction.numberFields.number_of_outcome_apply hd
  have hswitch : d.disableAutoCompactions = none := congrArg (·.2.1) hrest
  have hnone : d.universal = none := congrArg (·.2.2) hrest
  have hnumbers : ∀ f, ∀ n ∈ d.number f, ∃ w, f.width? = some w ∧ w.fits n = true := by
    intro f n hn
    obtain ⟨hf, -⟩ | ⟨r, hr, rfl, k, hread, hf⟩ := hnumber f
    · have hunset : Compaction.number {} f = none := by cases f <;> rfl
      cases (show d.number f = some n from hn).symm.trans (hf.trans hunset)
    · cases (show d.number r.field = some n from hn).symm.trans hf
      exact ⟨r.kind, hwidth r hr, OptionRow.fits_of_read? hread⟩
  split at h
  next hm =>
    obtain ⟨u, hu, h⟩ := Attempt.outcome_bind_eq_ok_iff.1 h
    cases h
    exact
      { style := rfl
        numbers := fun f n hn => hnumbers f n (by cases f <;> exact hn)
        switch := hswitch
        universal_iff := by simp [hm]
        universal := fun v hv => by
          cases hv
          exact resolveUniversal_wellFormed hu }
  next hm =>
    cases h
    exact
      { style := rfl
        numbers := fun f n hn => hnumbers f n (by cases f <;> exact hn)
        switch := hswitch
        universal_iff := by simp [hm, hnone]
        universal := fun v hv => by cases hnone.symm.trans hv }

/-- The table of the options gives each of its fields a number of the width of its setting, and
leaves the other numbers and the rest. -/
theorem number_of_engineTable {recordName : String} {name : EngineNumber → String}
    {target o : EngineOptions}
    (h : (OptionTable.apply recordName name EngineOptions.put s engineTable target).outcome =
      .ok o) :
    o.choices = target.choices ∧
    (∀ f w, f ∈ engineTable.map OptionRow.field → f.width? = some w →
      ∃ n, o.number f = some n ∧ w.fits n = true) ∧
    ∀ f, f ∉ engineTable.map OptionRow.field → o.number f = target.number f := by
  have hrow : ∀ r ∈ engineTable, r.field.width? = some r.kind ∧ r.gated = false := by decide
  obtain ⟨hrest, hnumber⟩ := EngineOptions.numberFields.number_of_outcome_apply h
  refine ⟨hrest, fun f w hmem hw => ?_, fun f hmem => ?_⟩
  · obtain ⟨-, hskip⟩ | ⟨r, hr, rfl, n, hread, hf⟩ := hnumber f
    · -- No row of the table is gated, so that none is skipped.
      obtain ⟨r, hr, hfield⟩ := List.mem_map.1 hmem
      cases (OptionRow.gated_of_read?_eq_none (hskip r hr hfield)).symm.trans (hrow r hr).2
    · cases hw.symm.trans (hrow r hr).1
      exact ⟨n, hf, OptionRow.fits_of_read? hread⟩
  · obtain ⟨hf, -⟩ | ⟨r, hr, rfl, -⟩ := hnumber f
    · exact hf
    · exact absurd (List.mem_map_of_mem hr) hmem

/-- What compiles in normal mode is well-formed. -/
theorem configure_wellFormed {channel : Channel} {tasks : Int} {manifestDefault : Value}
    {o : EngineOptions}
    (h : (configure channel s tasks manifestDefault :
      Attempt (CompileError ε) EngineOptions).outcome = .ok o) : o.WellFormed := by
  obtain ⟨wal, -, h⟩ := Attempt.outcome_bind_eq_ok_iff.1 h
  obtain ⟨writeBuffer, hwrite, h⟩ := Attempt.outcome_bind_eq_ok_iff.1 h
  obtain ⟨codec, -, h⟩ := Attempt.outcome_bind_eq_ok_iff.1 h
  obtain ⟨compression, -, h⟩ := Attempt.outcome_bind_eq_ok_iff.1 h
  obtain ⟨cache, hcache, h⟩ := Attempt.outcome_bind_eq_ok_iff.1 h
  obtain ⟨blockSize, hblock, h⟩ := Attempt.outcome_bind_eq_ok_iff.1 h
  obtain ⟨compaction, hcompaction, h⟩ := Attempt.outcome_bind_eq_ok_iff.1 h
  obtain ⟨table, htable, h⟩ := Attempt.outcome_bind_eq_ok_iff.1 h
  obtain ⟨manifest, hmanifest, h⟩ := Attempt.outcome_bind_eq_ok_iff.1 h
  cases h
  -- Only the write buffers and the manifest limit are numbers from outside the table.
  obtain ⟨hrest, hrows, hothers⟩ :=
    number_of_engineTable (Attempt.outcome_mapError_eq_ok_iff.1 htable)
  obtain ⟨hflush, hmode, hcodec, hformat, hfamily, hcreate, hexists, hprepared⟩ := by
    simpa only [EngineOptions.choices, Prod.mk.injEq] using hrest
  have hbuffer : table.writeBufferSize = some writeBuffer := hothers .writeBufferSize (by decide)
  obtain ⟨hwrite0, hwritew⟩ := fits_of_shareOf (eq_ok_of_mapError hwrite)
  obtain ⟨hcache0, hcachew⟩ := fits_of_shareOf (eq_ok_of_mapError hcache)
  have hblockw := Settings.fits_of_getInteger (eq_ok_of_mapError hblock)
  have hmanifestw := Settings.fits_of_getInteger (eq_ok_of_mapError hmanifest)
  have hcompactionwf :=
    resolveCompaction_wellFormed (Attempt.outcome_mapError_eq_ok_iff.1 hcompaction)
  exact
    { wal := by cases wal <;> simp [hflush, hmode]
      compression := by simp [hcodec]
      format := ⟨_, hformat, ⟨cache, rfl, hcache0, hcachew⟩, blockSize, rfl, hblockw⟩
      compaction := ⟨compaction, hfamily, hcompactionwf⟩
      numbers := fun f w hw => by
        cases f with
        | writeBufferSize =>
          cases hw
          exact ⟨writeBuffer, hbuffer, hwritew⟩
        | maxManifestFileSize =>
          cases hw
          exact ⟨manifest, rfl, hmanifestw⟩
        | minWriteBufferNumberToMerge => cases hw
        | maxBackgroundFlushes => cases hw
        | _ => exact hrows _ w (by decide) hw
      others := fun f hf => by
        cases f with
        | minWriteBufferNumberToMerge => exact hothers .minWriteBufferNumberToMerge (by decide)
        | maxBackgroundFlushes => exact hothers .maxBackgroundFlushes (by decide)
        | _ => cases hf
      writeBuffer := fun n hn => by
        cases hbuffer.symm.trans hn
        exact hwrite0
      createIfMissing := hcreate
      errorIfExists := hexists
      preparedForBulkLoad := hprepared }

end StoreTuning
