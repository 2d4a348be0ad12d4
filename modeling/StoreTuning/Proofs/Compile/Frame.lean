import StoreTuning.Proofs.Compile.ReadFrom
import StoreTuning.Proofs.Compile.ReadSet

/-!
# Each key feeds its own fields

Every field of the options that settings give is fed by one key (`EngineNumber.key?` and its
siblings), and the parameters of universal compaction are there or not as the key of the family has
it. Settings that differ under one key only therefore compile to options that agree in every field
that the key does not feed (`Job.compile_frame`). Two records that agree so under a key that feeds
nothing are equal (`EngineOptions.AgreeExcept.eq`), so that no field is left out of the comparison.
-/

namespace StoreTuning

/-- The key that feeds the field. -/
def TableNumber.key : TableNumber → String
  | blockCacheSize => "container.cache.size.bytes"
  | blockSize => "block.size.bytes"

/-- The key that feeds the field. -/
def UniversalNumber.key : UniversalNumber → String
  | maxSizeAmplificationPercent => "compaction.universal.max.size.amplification.percent"
  | sizeRatio => "compaction.universal.size.ratio"
  | minMergeWidth => "compaction.universal.min.merge.width"
  | maxMergeWidth => "compaction.universal.max.merge.width"

/-- The key that feeds the field, if one does. -/
def CompactionNumber.key? : CompactionNumber → Option String
  | numLevels => some "compaction.num.levels"
  | level0FileNumCompactionTrigger => some "compaction.level0.file.num.compaction.trigger"
  | maxBackgroundCompactions => some "compaction.max.background.compactions"
  | maxBackgroundJobs => some "max.background.jobs"
  | targetFileSizeBase => some "compaction.target.file.size.base"
  | targetFileSizeMultiplier => some "compaction.target.file.size.multiplier"
  | level0SlowdownWritesTrigger | level0StopWritesTrigger | maxCompactionBytes
  | softPendingCompactionBytesLimit | hardPendingCompactionBytesLimit => none

/-- The key that feeds the field, if one does. -/
def EngineNumber.key? : EngineNumber → Option String
  | writeBufferSize => some "container.write.buffer.size.bytes"
  | maxWriteBufferNumber => some "num.write.buffers"
  | maxLogFileSize => some "max.log.file.size.bytes"
  | keepLogFileNum => some "keep.log.file.num"
  | deleteObsoleteFilesPeriodMicros => some "delete.obsolete.files.period.micros"
  | maxOpenFiles => some "max.open.files"
  | maxFileOpeningThreads => some "max.file.opening.threads"
  | maxManifestFileSize => some "max.manifest.file.size"
  | minWriteBufferNumberToMerge | maxBackgroundFlushes => none

/-- Two formats of table files agree in every field that the key does not feed. -/
def TableFormat.AgreeExcept (key : String) (x y : TableFormat) : Prop :=
  ∀ f : TableNumber, f.key ≠ key → x.number f = y.number f

/-- Two sets of parameters of universal compaction agree in every field that the key does not
feed. -/
structure UniversalCompaction.AgreeExcept (key : String) (u v : UniversalCompaction) : Prop where
  /-- The numbers agree. -/
  numbers : ∀ f : UniversalNumber, f.key ≠ key → u.number f = v.number f
  /-- The stop styles agree. -/
  stopStyle : key ≠ "compaction.universal.compaction.stop.style" → u.stopStyle = v.stopStyle

/-- Two compactions agree in every field that the key does not feed. -/
structure Compaction.AgreeExcept (key : String) (c d : Compaction) : Prop where
  /-- The families agree. -/
  style : key ≠ "compaction.style" → c.style = d.style
  /-- The numbers agree. -/
  numbers : ∀ f : CompactionNumber, f.key? ≠ some key → c.number f = d.number f
  /-- The switches agree, which no key feeds. -/
  switch : c.disableAutoCompactions = d.disableAutoCompactions
  /-- The parameters of universal compaction are there in both or in neither, and agree. -/
  universal : key ≠ "compaction.style" →
    Option.Rel (UniversalCompaction.AgreeExcept key) c.universal d.universal

/-- Two options agree in every field that the key does not feed. -/
structure EngineOptions.AgreeExcept (key : String) (o p : EngineOptions) : Prop where
  /-- What becomes of the write-ahead log agrees. -/
  wal : key ≠ "wal.enabled" →
    o.manualWalFlush = p.manualWalFlush ∧ o.walRecoveryMode = p.walRecoveryMode
  /-- The codecs agree. -/
  compression : key ≠ "compression" → o.compressionType = p.compressionType
  /-- The formats of table files are there in both or in neither, and agree. -/
  format : Option.Rel (TableFormat.AgreeExcept key) o.tableFormat p.tableFormat
  /-- The compactions are there in both or in neither, and agree. -/
  compaction : Option.Rel (Compaction.AgreeExcept key) o.compaction p.compaction
  /-- The numbers agree. -/
  numbers : ∀ f : EngineNumber, f.key? ≠ some key → o.number f = p.number f
  /-- What no key feeds agrees. -/
  constant : o.createIfMissing = p.createIfMissing ∧ o.errorIfExists = p.errorIfExists ∧
    o.preparedForBulkLoad = p.preparedForBulkLoad

/-! ## No field is left out -/

variable {ε α : Type} {s t : Settings} {key : String}

/-- Optional records that agree, where agreeing records are equal, are equal. -/
theorem eq_of_rel {r : α → α → Prop} {x y : Option α} (h : Option.Rel r x y)
    (heq : ∀ a b, r a b → a = b) : x = y := by
  cases h with
  | none => rfl
  | some hab => rw [heq _ _ hab]

theorem TableFormat.AgreeExcept.eq {x y : TableFormat} (h : x.AgreeExcept key y)
    (hkey : key ∉ compilerKeys) : x = y := by
  have hnumber : ∀ f : TableNumber, x.number f = y.number f := by
    intro f
    refine h f fun hf => hkey ?_
    rw [← hf]
    cases f <;> decide
  obtain ⟨cache, block⟩ := x
  obtain ⟨cache', block'⟩ := y
  have hcache : cache = cache' := hnumber .blockCacheSize
  have hblock : block = block' := hnumber .blockSize
  rw [hcache, hblock]

theorem UniversalCompaction.AgreeExcept.eq {u v : UniversalCompaction} (h : u.AgreeExcept key v)
    (hkey : key ∉ compilerKeys) : u = v := by
  refine numberFields.ext (fun f => h.numbers f fun hf => hkey ?_) (h.stopStyle fun hf => hkey ?_)
  · rw [← hf]
    cases f <;> decide
  · rw [hf]
    decide

theorem Compaction.AgreeExcept.eq {c d : Compaction} (h : c.AgreeExcept key d)
    (hkey : key ∉ compilerKeys) : c = d := by
  have hstyle : key ≠ "compaction.style" := by
    rintro rfl
    exact hkey (by decide)
  have hnumber : ∀ f : CompactionNumber, c.number f = d.number f := by
    intro f
    refine h.numbers f fun hf => hkey ?_
    have hmem : ∀ k ∈ f.key?, k ∈ compilerKeys := by cases f <;> decide
    exact hmem key hf
  have huniversal : c.universal = d.universal :=
    eq_of_rel (h.universal hstyle) fun u v huv => huv.eq hkey
  refine numberFields.ext hnumber ?_
  show (c.style, c.disableAutoCompactions, c.universal) =
    (d.style, d.disableAutoCompactions, d.universal)
  rw [h.style hstyle, h.switch, huniversal]

/-- Options that agree in every field that a key does not feed are equal when the key is none of a
compilation's. -/
theorem EngineOptions.AgreeExcept.eq {o p : EngineOptions} (h : o.AgreeExcept key p)
    (hkey : key ∉ compilerKeys) : o = p := by
  have hne : ∀ k ∈ compilerKeys, key ≠ k := fun k hk heq => hkey (heq ▸ hk)
  have hnumber : ∀ f : EngineNumber, o.number f = p.number f := by
    intro f
    refine h.numbers f fun hf => hkey ?_
    have hmem : ∀ k ∈ f.key?, k ∈ compilerKeys := by cases f <;> decide
    exact hmem key hf
  obtain ⟨hflush, hmode⟩ := h.wal (hne _ (by decide))
  obtain ⟨hcreate, hexists, hprepared⟩ := h.constant
  have hformat : o.tableFormat = p.tableFormat := eq_of_rel h.format fun x y hxy => hxy.eq hkey
  have hcompaction : o.compaction = p.compaction :=
    eq_of_rel h.compaction fun c d hcd => hcd.eq hkey
  refine numberFields.ext hnumber ?_
  show o.choices = p.choices
  rw [choices, choices, hflush, hmode, h.compression (hne _ (by decide)), hformat, hcompaction,
    hcreate, hexists, hprepared]

/-! ## What is read under one key -/

/-- Two results are equal when the outcomes that have them are. -/
theorem eq_of_ok {x y : Except ε α} {a b : α} (hx : x = .ok a) (hy : y = .ok b) (h : x = y) :
    a = b :=
  Except.ok.inj (hx.symm.trans (h.trans hy))

/-- Two fields that a row has read are equal when the settings hold the same under its key. -/
theorem OptionRow.eq_of_read? {r : OptionRow α Width} {x y : Option Int}
    (hs : r.read? s = x.map .ok) (ht : r.read? t = y.map .ok) (h : s.get? r.key = t.get? r.key) :
    x = y := by
  have hmap : x.map (Except.ok (ε := LookupError)) = y.map .ok := by
    rw [← hs, ← ht, read?_congr h]
  exact Option.map_injective (fun m n hmn => Except.ok.inj hmn) hmap

/-- What a choice resolves to depends on the entry of its key only. -/
theorem Settings.resolved_congr [Choice α] {k : String} (h : s.get? k = t.get? k) (default : String)
    (fallback : α) : s.resolved k default fallback = t.resolved k default fallback := by
  unfold resolved
  rw [readChoice_congr h]

/-- Universal compactions that are read from settings which differ under one key only agree in every
field that the key does not feed. -/
theorem UniversalCompaction.ReadFrom.agreeExcept {u v : UniversalCompaction} (hu : u.ReadFrom s)
    (hv : v.ReadFrom t) (h : ∀ k, k ≠ key → s.get? k = t.get? k) : u.AgreeExcept key v where
  numbers f hf := by
    have hrow : ∃ r ∈ universalTable, r.field = f ∧ r.key = f.key := by cases f <;> decide
    obtain ⟨r, hr, rfl, hkey⟩ := hrow
    refine OptionRow.eq_of_read? (hu.numbers r hr) (hv.numbers r hr) (h _ ?_)
    rw [hkey]
    exact hf
  stopStyle hne := eq_of_ok hu.stopStyle hv.stopStyle (readStopStyle_congr (h _ hne.symm))

/-- Compactions that are read from settings with the same entry for the family are of one family. -/
theorem Compaction.ReadFrom.style_eq {c d : Compaction} (hc : c.ReadFrom s) (hd : d.ReadFrom t)
    (h : s.get? styleKey = t.get? styleKey) : c.style = d.style := by
  rw [hc.style, hd.style, Settings.resolvedStyle_eq, Settings.resolvedStyle_eq,
    Settings.resolved_congr h]

/-- Compactions that are read from settings which differ under one key only agree in every field
that the key does not feed. -/
theorem Compaction.ReadFrom.agreeExcept {c d : Compaction} (hc : c.ReadFrom s) (hd : d.ReadFrom t)
    (hcwf : c.WellFormed) (hdwf : d.WellFormed) (h : ∀ k, k ≠ key → s.get? k = t.get? k) :
    c.AgreeExcept key d where
  style hne := hc.style_eq hd (h styleKey hne.symm)
  numbers f hf := by
    -- A field that no key feeds is not set on either side.
    cases hkey : f.key? with
    | none =>
      have hwidth : f.key? = none → f.width? = none := by cases f <;> decide
      rw [hcwf.number_eq_none (hwidth hkey), hdwf.number_eq_none (hwidth hkey)]
    | some k =>
      have hrow : f.key?.isSome → ∃ r ∈ compactionTable, r.field = f ∧ f.key? = some r.key := by
        cases f <;> decide
      obtain ⟨r, hr, rfl, hrkey⟩ := hrow (by rw [hkey]; rfl)
      refine OptionRow.eq_of_read? (hc.numbers r hr) (hd.numbers r hr) (h _ fun hne => hf ?_)
      rw [hrkey, hne]
  switch := by
    rw [hcwf.switch, hdwf.switch]
  universal hne := by
    have hstyle : c.style = d.style := hc.style_eq hd (h styleKey hne.symm)
    have hiff : c.universal.isSome ↔ d.universal.isSome := by
      rw [hcwf.universal_iff, hdwf.universal_iff, hstyle]
    cases hcu : c.universal with
    | none =>
      have hdu : d.universal = none := by
        rw [hcu] at hiff
        exact Option.not_isSome_iff_eq_none.1 fun hsome => Bool.false_ne_true (hiff.2 hsome)
      rw [hdu]
      exact .none
    | some u =>
      obtain ⟨v, hdu⟩ := Option.isSome_iff_exists.1 (hiff.1 (by rw [hcu]; rfl))
      rw [hdu]
      exact .some ((hc.universal u hcu).agreeExcept (hd.universal v hdu) h)

/-- Options that are read from settings which differ under one key only agree in every field that
the key does not feed. -/
theorem EngineOptions.ReadFrom.agreeExcept {tasks : Int} {manifestDefault : Value}
    {o p : EngineOptions} (ho : o.ReadFrom s tasks manifestDefault)
    (hp : p.ReadFrom t tasks manifestDefault) (howf : o.WellFormed) (hpwf : p.WellFormed)
    (h : ∀ k, k ≠ key → s.get? k = t.get? k) : o.AgreeExcept key p where
  wal hne := by
    obtain ⟨b, hb, hflush, hmode⟩ := ho.wal
    obtain ⟨b', hb', hflush', hmode'⟩ := hp.wal
    obtain rfl : b = b' := eq_of_ok hb hb' (Settings.getFlag_congr (h walKey hne.symm) _)
    exact ⟨hflush.trans hflush'.symm, hmode.trans hmode'.symm⟩
  compression hne := by
    rw [ho.compression, hp.compression, Settings.resolvedCompression, Settings.resolvedCompression,
      Settings.resolved_congr (h compressionKey hne.symm)]
  format := by
    obtain ⟨cache, block, hcache, hblock, hformat⟩ := ho.format
    obtain ⟨cache', block', hcache', hblock', hformat'⟩ := hp.format
    rw [hformat, hformat']
    refine .some fun f hf => ?_
    cases f with
    | blockCacheSize =>
      exact congrArg some (eq_of_ok hcache hcache' (shareOf_congr (h cacheKey hf) _ _))
    | blockSize =>
      exact congrArg some (eq_of_ok hblock hblock' (Settings.getInteger_congr (h _ hf) _ _))
  compaction := by
    obtain ⟨c, hc, hcread⟩ := ho.compaction
    obtain ⟨d, hd, hdread⟩ := hp.compaction
    obtain ⟨_, hc', hcwf⟩ := howf.compaction
    obtain ⟨_, hd', hdwf⟩ := hpwf.compaction
    cases hc.symm.trans hc'
    cases hd.symm.trans hd'
    rw [hc, hd]
    exact .some (hcread.agreeExcept hdread hcwf hdwf h)
  numbers f hf := by
    cases hkey : f.key? with
    | none =>
      have hwidth : f.key? = none → f.width? = none := by cases f <;> decide
      rw [howf.others f (hwidth hkey), hpwf.others f (hwidth hkey)]
    | some k =>
      have hk : s.get? k = t.get? k := h k fun hne => hf (hne ▸ hkey)
      -- Two of the fields are not in the table: they have steps of their own.
      have hsource : f.key?.isSome → f = .writeBufferSize ∨ f = .maxManifestFileSize ∨
          ∃ r ∈ engineTable, r.field = f ∧ f.key? = some r.key := by
        cases f <;> decide
      obtain rfl | rfl | ⟨r, hr, rfl, hrkey⟩ := hsource (by rw [hkey]; rfl)
      · obtain ⟨m, hm, hom⟩ := ho.writeBuffer
        obtain ⟨n, hn, hpn⟩ := hp.writeBuffer
        cases hkey
        obtain rfl : m = n := eq_of_ok hm hn (shareOf_congr hk _ _)
        exact hom.trans hpn.symm
      · obtain ⟨m, hm, hom⟩ := ho.manifest
        obtain ⟨n, hn, hpn⟩ := hp.manifest
        cases hkey
        obtain rfl : m = n := eq_of_ok hm hn (Settings.getInteger_congr hk _ _)
        exact hom.trans hpn.symm
      · cases hkey.symm.trans hrkey
        exact OptionRow.eq_of_read? (ho.numbers r hr) (hp.numbers r hr) hk
  constant := by
    rw [howf.createIfMissing, hpwf.createIfMissing, howf.errorIfExists, hpwf.errorIfExists,
      howf.preparedForBulkLoad, hpwf.preparedForBulkLoad]
    exact ⟨rfl, rfl, rfl⟩

/-! ## Two runs -/

/-- A value that is specified is read whatever the fallback. -/
theorem Settings.getInteger_fallback_congr {v : Value} (h : s.get? key = some v)
    (hv : v.unspecified = false) (w : Width) (fallback? fallback?' : Option Value) :
    s.getInteger key w fallback? = s.getInteger key w fallback?' := by
  rw [getInteger, getInteger, lookup_of_get? h hv, lookup_of_get? h hv]

/-- Where the settings have a manifest limit to read, the caller's does not matter. -/
theorem configure_manifestDefault_congr (channel : Channel) (tasks : Int) {v : Value}
    (h : s.get? manifestKey = some v) (hv : v.unspecified = false) (d d' : Value) :
    (configure channel s tasks d : Attempt (CompileError ε) EngineOptions) =
      configure channel s tasks d' := by
  unfold configure
  rw [Settings.getInteger_fallback_congr h hv .long (some d) (some d')]

/-- When two settings that differ under one key only both compile in normal mode, the options agree
in every field that the key does not feed, and are equal when it is no key of a compilation. The
caller's manifest limit does not matter in any mode where the settings have one to read: a job with
another has the same options or the same error, and leaves the same traces. -/
theorem Job.compile_frame (j : Job ε) :
    (j.mode = .normal → ∀ (s t : Settings) (key : String),
      (∀ k, k ≠ key → s.get? k = t.get? k) → ∀ o p : EngineOptions,
        ({ j with settings := s } : Job ε).compile.outcome = .ok o →
        ({ j with settings := t } : Job ε).compile.outcome = .ok p →
        o.AgreeExcept key p ∧ (key ∉ compilerKeys → o = p)) ∧
    ∀ (v d : Value), j.settings.get? "max.manifest.file.size" = some v → v.unspecified = false →
      ({ j with manifestDefault := d } : Job ε).compile = j.compile := by
  constructor
  · intro hmode s t key h o p ho hp
    -- In normal mode a compilation is the configuration.
    obtain ⟨o', ho', hopen⟩ := Attempt.outcome_bind_eq_ok_iff.1 ho
    obtain ⟨p', hp', hopen'⟩ := Attempt.outcome_bind_eq_ok_iff.1 hp
    simp only [hmode, openFor_normal] at hopen hopen'
    cases hopen
    cases hopen'
    have hagree : o.AgreeExcept key p :=
      (configure_readFrom ho').agreeExcept (configure_readFrom hp') (configure_wellFormed ho')
        (configure_wellFormed hp') h
    exact ⟨hagree, hagree.eq⟩
  · intro v d hget hv
    unfold compile StoreTuning.compile
    rw [configure_manifestDefault_congr j.channel j.tasks hget hv d j.manifestDefault]

/-- Settings with a parameter of universal compaction, a number of levels and a manifest limit. -/
def leveledSettings : Settings :=
  .ofPairs [("compaction.universal.size.ratio", .text "7"), ("compaction.num.levels", .int 4),
    ("max.manifest.file.size", .text "1")]

/-- Under two families the settings compile to options that agree but for the family and its
parameters, and a manifest limit of the caller's that is no number does no harm. -/
theorem compile_frame_leveledSettings :
    ∃ o p,
      (plainJob (leveledSettings.insert "compaction.style" (.text "universal"))).compile.outcome =
        .ok o ∧
      (plainJob (leveledSettings.insert "compaction.style" (.text "fifo"))).compile.outcome =
        .ok p ∧
      o.AgreeExcept "compaction.style" p ∧ o ≠ p ∧
      ({ plainJob leveledSettings with manifestDefault := .text "much" } : Job Empty).compile =
        (plainJob leveledSettings).compile := by
  obtain ⟨o, ho, hstyle⟩ := exists_ok_of_any (x := (plainJob (leveledSettings.insert
    "compaction.style" (.text "universal"))).compile.outcome)
    (p := fun o => o.compaction.bind Compaction.style == some .universal) (by decide +kernel)
  obtain ⟨p, hp, hstyle'⟩ := exists_ok_of_any (x := (plainJob (leveledSettings.insert
    "compaction.style" (.text "fifo"))).compile.outcome)
    (p := fun o => o.compaction.bind Compaction.style == some .fifo) (by decide +kernel)
  obtain ⟨hframe, hmanifest⟩ := Job.compile_frame (plainJob leveledSettings)
  have hget : ∀ k, k ≠ "compaction.style" →
      (leveledSettings.insert "compaction.style" (.text "universal")).get? k =
        (leveledSettings.insert "compaction.style" (.text "fifo")).get? k := by
    intro k hk
    rw [Settings.get?_insert_of_ne _ _ hk, Settings.get?_insert_of_ne _ _ hk]
  refine ⟨o, p, ho, hp, (hframe rfl _ _ _ hget o p ho hp).1, ?_, ?_⟩
  · rintro rfl
    cases (beq_iff_eq.1 hstyle).symm.trans (beq_iff_eq.1 hstyle')
  · exact hmanifest (.text "1") (.text "much") rfl (by decide +kernel)

end StoreTuning
