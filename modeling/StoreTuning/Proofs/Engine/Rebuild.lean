import StoreTuning.Proofs.Engine.Form
import StoreTuning.Proofs.Engine.JsonRoundTrip

/-!
# Options from their reports

The full report has everything that is known of the options: they are read back from it
(`EngineOptions.ofReport_report`), and the report is read back from its JSON text. The overrides
hide one kind of difference, between a record inside that is there without a field that is set and
one that is absent. It goes away when such records are taken out, from the inside outwards
(`EngineOptions.settle`), or when every absent record is replaced by a blank one
(`EngineOptions.filled`).

Comparing overrides as mappings hides no more (`Report.Same`): their order carries nothing, and
where a truth value equals a number, the fields tell them apart.
-/

namespace StoreTuning

open Content

namespace Report

/-! ## Reading fields -/

/-- The report under a name, which is null where there is none. -/
def field (r : Report) (name : String) : Report :=
  (r.parts.lookup name).getD null

/-- The truth value under a name. -/
def flag? (r : Report) (name : String) : Option Bool :=
  match r.field name with
  | flag b => some b
  | _ => none

/-- The number under a name. -/
def number? (r : Report) (name : String) : Option Int :=
  match r.field name with
  | number n => some n
  | _ => none

/-- The member of an enumeration whose value is under a name. -/
def choice? {α : Type} [Choice α] (r : Report) (name : String) : Option α :=
  match r.field name with
  | text s => Choice.ofText? s
  | _ => none

/-- What is read from the record under a name. -/
def record? {α : Type} (read : Report → α) (r : Report) (name : String) : Option α :=
  match r.field name with
  | record fs => some (read (record fs))
  | _ => none

section

variable {fs : List (String × Content)} {name : String}

theorem field_full {c : Content} (h : fs.lookup name = some c) :
    (Content.record fs).full.field name = c.full := by
  show ((fullFields fs).lookup name).getD null = _
  rw [lookup_fullFields, h]
  rfl

/-- A truth value is read as it was shown. -/
theorem flag?_full {x : Option Bool} (h : fs.lookup name = some (ofFlag x)) :
    (Content.record fs).full.flag? name = x := by
  rw [flag?, field_full h]
  cases x <;> rfl

/-- A number is read as it was shown. -/
theorem number?_full {x : Option Int} (h : fs.lookup name = some (ofNumber x)) :
    (Content.record fs).full.number? name = x := by
  rw [number?, field_full h]
  cases x <;> rfl

/-- A member is read as it was shown, if its value finds it again. -/
theorem choice?_full {α : Type} [Choice α]
    (hvalue : ∀ m : α, Choice.ofText? (Choice.value m) = some m) {x : Option α}
    (h : fs.lookup name = some (ofChoice x)) : (Content.record fs).full.choice? name = x := by
  rw [choice?, field_full h]
  cases x with
  | none => rfl
  | some m => exact hvalue m

/-- A record is read as it was shown, if its kind is. -/
theorem record?_full {α : Type} {read : Report → α} {fields : α → List (String × Content)}
    (hread : ∀ r, read (Content.record (fields r)).full = r) {x : Option α}
    (h : fs.lookup name = some (ofRecord fields x)) :
    (Content.record fs).full.record? read name = x := by
  rw [record?, field_full h]
  cases x with
  | none => rfl
  | some r => exact congrArg some (hread r)

end

end Report

/-! ## Reading records -/

/-- The table format that a report shows. -/
def TableFormat.ofReport (r : Report) : TableFormat where
  blockCacheSize := r.number? TableNumber.blockCacheSize.name
  blockSize := r.number? TableNumber.blockSize.name

/-- The universal compaction that a report shows. -/
def UniversalCompaction.ofReport (r : Report) : UniversalCompaction where
  maxSizeAmplificationPercent := r.number? UniversalNumber.maxSizeAmplificationPercent.name
  sizeRatio := r.number? UniversalNumber.sizeRatio.name
  minMergeWidth := r.number? UniversalNumber.minMergeWidth.name
  maxMergeWidth := r.number? UniversalNumber.maxMergeWidth.name
  stopStyle := r.choice? "stop_style"

/-- The compaction that a report shows. -/
def Compaction.ofReport (r : Report) : Compaction where
  style := r.choice? "style"
  numLevels := r.number? CompactionNumber.numLevels.name
  level0FileNumCompactionTrigger :=
    r.number? CompactionNumber.level0FileNumCompactionTrigger.name
  level0SlowdownWritesTrigger := r.number? CompactionNumber.level0SlowdownWritesTrigger.name
  level0StopWritesTrigger := r.number? CompactionNumber.level0StopWritesTrigger.name
  maxBackgroundCompactions := r.number? CompactionNumber.maxBackgroundCompactions.name
  maxBackgroundJobs := r.number? CompactionNumber.maxBackgroundJobs.name
  targetFileSizeBase := r.number? CompactionNumber.targetFileSizeBase.name
  targetFileSizeMultiplier := r.number? CompactionNumber.targetFileSizeMultiplier.name
  maxCompactionBytes := r.number? CompactionNumber.maxCompactionBytes.name
  softPendingCompactionBytesLimit :=
    r.number? CompactionNumber.softPendingCompactionBytesLimit.name
  hardPendingCompactionBytesLimit :=
    r.number? CompactionNumber.hardPendingCompactionBytesLimit.name
  disableAutoCompactions := r.flag? "disable_auto_compactions"
  universal := r.record? UniversalCompaction.ofReport "universal"

/-- The options that a report shows. -/
def EngineOptions.ofReport (r : Report) : EngineOptions where
  manualWalFlush := r.flag? "manual_wal_flush"
  walRecoveryMode := r.choice? "wal_recovery_mode"
  compressionType := r.choice? "compression_type"
  tableFormat := r.record? TableFormat.ofReport "table_format_config"
  compaction := r.record? Compaction.ofReport "compaction"
  createIfMissing := r.flag? "create_if_missing"
  errorIfExists := r.flag? "error_if_exists"
  writeBufferSize := r.number? EngineNumber.writeBufferSize.name
  maxWriteBufferNumber := r.number? EngineNumber.maxWriteBufferNumber.name
  minWriteBufferNumberToMerge := r.number? EngineNumber.minWriteBufferNumberToMerge.name
  maxBackgroundFlushes := r.number? EngineNumber.maxBackgroundFlushes.name
  maxLogFileSize := r.number? EngineNumber.maxLogFileSize.name
  keepLogFileNum := r.number? EngineNumber.keepLogFileNum.name
  deleteObsoleteFilesPeriodMicros := r.number? EngineNumber.deleteObsoleteFilesPeriodMicros.name
  maxOpenFiles := r.number? EngineNumber.maxOpenFiles.name
  maxFileOpeningThreads := r.number? EngineNumber.maxFileOpeningThreads.name
  maxManifestFileSize := r.number? EngineNumber.maxManifestFileSize.name
  preparedForBulkLoad := (r.flag? "prepared_for_bulk_load").getD false

theorem TableFormat.lookup_number (t : TableFormat) (f : TableNumber) :
    t.fields.lookup f.name = some (ofNumber (t.number f)) := by
  cases f <;> rfl

theorem UniversalCompaction.lookup_number (u : UniversalCompaction) (f : UniversalNumber) :
    u.fields.lookup f.name = some (ofNumber (u.number f)) := by
  cases f <;> rfl

theorem Compaction.lookup_number (c : Compaction) (f : CompactionNumber) :
    c.fields.lookup f.name = some (ofNumber (c.number f)) := by
  cases f <;> rfl

theorem EngineOptions.lookup_number (o : EngineOptions) (f : EngineNumber) :
    o.fields.lookup f.name = some (ofNumber (o.number f)) := by
  cases f <;> rfl

theorem TableFormat.ofReport_full (t : TableFormat) : ofReport (record t.fields).full = t := by
  have hnumber f := Report.number?_full (t.lookup_number f)
  simp only [ofReport, hnumber]
  rfl

theorem UniversalCompaction.ofReport_full (u : UniversalCompaction) :
    ofReport (record u.fields).full = u := by
  have hnumber f := Report.number?_full (u.lookup_number f)
  have hstop := Report.choice?_full Choice.ofText?_value_stopStyle
    (rfl : u.fields.lookup "stop_style" = some (ofChoice u.stopStyle))
  simp only [ofReport, hnumber, hstop]
  rfl

theorem Compaction.ofReport_full (c : Compaction) : ofReport (record c.fields).full = c := by
  have hnumber f := Report.number?_full (c.lookup_number f)
  have hstyle := Report.choice?_full Choice.ofText?_value_compactionStyle
    (rfl : c.fields.lookup "style" = some (ofChoice c.style))
  have hdisable := Report.flag?_full
    (rfl : c.fields.lookup "disable_auto_compactions" = some (ofFlag c.disableAutoCompactions))
  have huniversal := Report.record?_full UniversalCompaction.ofReport_full
    (rfl : c.fields.lookup "universal" = some (ofRecord UniversalCompaction.fields c.universal))
  simp only [ofReport, hnumber, hstyle, hdisable, huniversal]
  rfl

/-- The options are read back from their full report. -/
theorem EngineOptions.ofReport_report (o : EngineOptions) : ofReport o.report = o := by
  have hnumber f := Report.number?_full (o.lookup_number f)
  have hflush := Report.flag?_full
    (rfl : o.fields.lookup "manual_wal_flush" = some (ofFlag o.manualWalFlush))
  have hrecovery := Report.choice?_full Choice.ofText?_value_recoveryMode
    (rfl : o.fields.lookup "wal_recovery_mode" = some (ofChoice o.walRecoveryMode))
  have hcodec := Report.choice?_full Choice.ofText?_value_compression
    (rfl : o.fields.lookup "compression_type" = some (ofChoice o.compressionType))
  have htable := Report.record?_full TableFormat.ofReport_full
    (rfl : o.fields.lookup "table_format_config" = some (ofRecord TableFormat.fields o.tableFormat))
  have hcompaction := Report.record?_full Compaction.ofReport_full
    (rfl : o.fields.lookup "compaction" = some (ofRecord Compaction.fields o.compaction))
  have hcreate := Report.flag?_full
    (rfl : o.fields.lookup "create_if_missing" = some (ofFlag o.createIfMissing))
  have hexists := Report.flag?_full
    (rfl : o.fields.lookup "error_if_exists" = some (ofFlag o.errorIfExists))
  -- This field always has a value, but it is shown like one that may have none.
  have hlast : o.fields.lookup "prepared_for_bulk_load" =
    some (ofFlag (some o.preparedForBulkLoad)) := rfl
  have hprepared := Report.flag?_full hlast
  show ofReport (record o.fields).full = o
  simp only [ofReport, hnumber, hflush, hrecovery, hcodec, htable, hcompaction, hcreate, hexists,
    hprepared]
  rfl

/-! ## What the overrides hide -/

/-- A record inside, unless it is blank. -/
def unlessBlank {α : Type} [DecidableEq α] (blank x : α) : Option α :=
  if x = blank then none else some x

theorem bind_unlessBlank {α : Type} [DecidableEq α] (blank : α) (x? : Option α) :
    x?.bind (unlessBlank blank) = unlessBlank blank (x?.getD blank) := by
  cases x? with
  | none => exact (if_pos rfl).symm
  | some x => rfl

/-- Compaction without a blank record inside. -/
def Compaction.settle (c : Compaction) : Compaction :=
  { c with universal := c.universal.bind (unlessBlank {}) }

/-- The options without records inside that have no field that is set; these are taken out from the
inside outwards. -/
def EngineOptions.settle (o : EngineOptions) : EngineOptions :=
  { o with
    tableFormat := o.tableFormat.bind (unlessBlank {})
    compaction := (o.compaction.map Compaction.settle).bind (unlessBlank {}) }

/-- Compaction with every record that there can be inside. -/
def Compaction.filled (c : Compaction) : Compaction :=
  { c with universal := some (c.universal.getD {}) }

/-- The options with every record that there can be inside, blank ones for those that are absent. -/
def EngineOptions.filled (o : EngineOptions) : EngineOptions :=
  { o with
    tableFormat := some (o.tableFormat.getD {})
    compaction := some (o.compaction.getD {}).filled }

theorem Compaction.settle_filled (c : Compaction) : c.filled.settle = c.settle := by
  rw [settle, settle, bind_unlessBlank {} c.universal]
  rfl

/-- Options that differ by blank records settle to the same. -/
theorem EngineOptions.settle_filled (o : EngineOptions) : o.filled.settle = o.settle := by
  have hcompaction : ((some (o.compaction.getD {}).filled).map Compaction.settle).bind
      (unlessBlank {}) = (o.compaction.map Compaction.settle).bind (unlessBlank {}) := by
    rw [Option.map_some, Compaction.settle_filled]
    cases o.compaction <;> rfl
  rw [settle, settle, bind_unlessBlank {} o.tableFormat, ← hcompaction]
  rfl

namespace Content

theorem overrides_cons (name : String) (c : Content) (fs : List (String × Content)) :
    overrides ((name, c) :: fs) = (c.override?.map (name, ·)).toList ++ overrides fs := by
  rw [overrides]
  cases c.override? <;> rfl

theorem overrides_append (fs gs : List (String × Content)) :
    overrides (fs ++ gs) = overrides fs ++ overrides gs := by
  induction fs with
  | nil => rfl
  | cons f fs ih =>
    rw [List.cons_append, overrides_cons, overrides_cons, ih, List.append_assoc]

/-- A blank record shows as little as an absent one. -/
theorem override?_unlessBlank {α : Type} [DecidableEq α] {fields : α → List (String × Content)}
    {blank : α} (h : overrides (fields blank) = []) (x? : Option α) :
    (ofRecord fields (x?.bind (unlessBlank blank))).override? = (ofRecord fields x?).override? := by
  cases x? with
  | none => rfl
  | some x =>
    rw [Option.bind_some, unlessBlank]
    split
    · rename_i hx
      rw [hx, ofRecord, ofRecord, override?_record, h]
      rfl
    · rfl

end Content

theorem Compaction.overrides_settle (c : Compaction) :
    overrides c.settle.fields = overrides c.fields := by
  have hfields (u) : { c with universal := u }.fields =
      c.fields.dropLast ++ [("universal", ofRecord UniversalCompaction.fields u)] := rfl
  have huniversal : (ofRecord UniversalCompaction.fields
        (c.universal.bind (unlessBlank {}))).override? =
      (ofRecord UniversalCompaction.fields c.universal).override? :=
    override?_unlessBlank rfl c.universal
  rw [settle, hfields, overrides_append, overrides_cons, huniversal, ← overrides_cons,
    ← overrides_append, ← hfields]

/-- The overrides do not show which blank records are there. -/
theorem EngineOptions.overridesReport_settle (o : EngineOptions) :
    o.settle.overridesReport = o.overridesReport := by
  -- The records inside are the two fields that settling changes.
  have hfields (t c) : { o with tableFormat := t, compaction := c }.fields =
      o.fields.take 6 ++ ("table_format_config", ofRecord TableFormat.fields t) ::
        ("compaction", ofRecord Compaction.fields c) :: o.fields.drop 8 := rfl
  have htable : (ofRecord TableFormat.fields (o.tableFormat.bind (unlessBlank {}))).override? =
      (ofRecord TableFormat.fields o.tableFormat).override? :=
    override?_unlessBlank rfl o.tableFormat
  have hcompaction : (ofRecord Compaction.fields
        ((o.compaction.map Compaction.settle).bind (unlessBlank {}))).override? =
      (ofRecord Compaction.fields (o.compaction.map Compaction.settle)).override? :=
    override?_unlessBlank rfl (o.compaction.map Compaction.settle)
  have hinside : (ofRecord Compaction.fields (o.compaction.map Compaction.settle)).override? =
      (ofRecord Compaction.fields o.compaction).override? := by
    cases o.compaction with
    | none => rfl
    | some c =>
      rw [Option.map_some, ofRecord, ofRecord, override?_record, override?_record,
        Compaction.overrides_settle]
  rw [overridesReport, settle, hfields, overrides_append, overrides_cons, overrides_cons, htable,
    hcompaction, hinside, ← overrides_cons, ← overrides_cons, ← overrides_append, ← hfields]
  rfl

/-! ## Comparing overrides -/

/-- What comparison sees of the top of a report: a truth value is a number, and what a record holds
is seen further down. -/
def Report.top : Report → Report
  | .flag b => .number (if b then 1 else 0)
  | .record _ => .record []
  | r => r

/-- Two reports are equal as mappings: at every path both show the same, or neither has anything. -/
def Report.Same (r r' : Report) : Prop :=
  ∀ path, (r.at? path).map top = (r'.at? path).map top

/-- Comparison sees the same of what named contents say, wherever both have a field. -/
def AlikeFields (fs gs : List (String × Content)) : Prop :=
  ∀ path, path ≠ [] → ∀ c c', (record fs).at? path = some c → (record gs).at? path = some c' →
    c.override?.map Report.top = c'.override?.map Report.top

/-- Records whose overrides are equal as mappings are alike in their fields. -/
theorem alikeFields_of_same {fs gs : List (String × Content)}
    (hfs : (record fs).full.Distinct) (hgs : (record gs).full.Distinct)
    (h : (Report.record (overrides fs)).Same (.record (overrides gs))) : AlikeFields fs gs := by
  intro path hpath c c' hc hc'
  have htop := h path
  rw [at?_overrides hfs hpath, at?_overrides hgs hpath, hc, hc'] at htop
  exact htop

namespace AlikeFields

variable {fs gs : List (String × Content)} (h : AlikeFields fs gs) (name : String)

include h

theorem top {c c' : Content} (hc : fs.lookup name = some c) (hc' : gs.lookup name = some c') :
    c.override?.map Report.top = c'.override?.map Report.top := by
  refine h [name] (List.cons_ne_nil _ _) c c' ?_ ?_
  · rw [at?_cons, parts, hc]
    rfl
  · rw [at?_cons, parts, hc']
    rfl

/-- Records that are under one name in both are alike in their fields. -/
theorem inside {fs' gs' : List (String × Content)} (hfs : fs.lookup name = some (record fs'))
    (hgs : gs.lookup name = some (record gs')) : AlikeFields fs' gs' := by
  intro path _ c c' hc hc'
  refine h (name :: path) (List.cons_ne_nil _ _) c c' ?_ ?_
  · rw [at?_cons, parts, hfs]
    exact hc
  · rw [at?_cons, parts, hgs]
    exact hc'

/-- Numbers that comparison takes for the same are the same. -/
theorem number {x y : Option Int} (hx : fs.lookup name = some (ofNumber x))
    (hy : gs.lookup name = some (ofNumber y)) : x = y := by
  have htop := h.top name hx hy
  cases x <;> cases y <;> cases htop <;> rfl

/-- Truth values that comparison takes for the same are the same. -/
theorem flag {x y : Option Bool} (hx : fs.lookup name = some (ofFlag x))
    (hy : gs.lookup name = some (ofFlag y)) : x = y := by
  have htop := h.top name hx hy
  revert htop
  cases x with
  | none => cases y with
    | none => exact fun _ => rfl
    | some b => nofun
  | some a => cases y with
    | none => nofun
    | some b => cases a <;> cases b <;> simp [ofFlag, override?, Report.top]

/-- Members that comparison takes for the same are the same, if their values find them again. -/
theorem choice {α : Type} [Choice α]
    (hvalue : ∀ m : α, Choice.ofText? (Choice.value m) = some m) {x y : Option α}
    (hx : fs.lookup name = some (ofChoice x)) (hy : gs.lookup name = some (ofChoice y)) :
    x = y := by
  have htop := h.top name hx hy
  cases x with
  | none => cases y with
    | none => rfl
    | some b => cases htop
  | some a => cases y with
    | none => cases htop
    | some b =>
      have htext : Choice.value a = Choice.value b := by
        injection Option.some.inj htop
      rw [← Option.some_inj, ← hvalue a, htext, hvalue b]

end AlikeFields

theorem TableFormat.eq_of_alike {t t' : TableFormat} (h : AlikeFields t.fields t'.fields) :
    t = t' := by
  have hnumber f := h.number f.name (t.lookup_number f) (t'.lookup_number f)
  have hfields : t.fields = t'.fields := by simp only [fields, hnumber]
  rw [← t.ofReport_full, hfields, ofReport_full]

theorem UniversalCompaction.eq_of_alike {u u' : UniversalCompaction}
    (h : AlikeFields u.fields u'.fields) : u = u' := by
  have hnumber f := h.number f.name (u.lookup_number f) (u'.lookup_number f)
  have hstop : u.stopStyle = u'.stopStyle :=
    h.choice "stop_style" Choice.ofText?_value_stopStyle rfl rfl
  have hfields : u.fields = u'.fields := by simp only [fields, hnumber, hstop]
  rw [← u.ofReport_full, hfields, ofReport_full]

theorem Compaction.filled_eq_of_alike {c c' : Compaction}
    (h : AlikeFields c.filled.fields c'.filled.fields) : c.filled = c'.filled := by
  have hnumber f := h.number f.name (c.filled.lookup_number f) (c'.filled.lookup_number f)
  have hstyle : c.filled.style = c'.filled.style :=
    h.choice "style" Choice.ofText?_value_compactionStyle rfl rfl
  have hdisable : c.filled.disableAutoCompactions = c'.filled.disableAutoCompactions :=
    h.flag "disable_auto_compactions" rfl rfl
  have hinside : c.universal.getD {} = c'.universal.getD {} :=
    UniversalCompaction.eq_of_alike (h.inside "universal" rfl rfl)
  have huniversal : c.filled.universal = c'.filled.universal := congrArg some hinside
  have hfields : c.filled.fields = c'.filled.fields := by
    simp only [fields, hnumber, hstyle, hdisable, huniversal]
  rw [← c.filled.ofReport_full, hfields, ofReport_full]

theorem EngineOptions.filled_eq_of_alike {o o' : EngineOptions}
    (h : AlikeFields o.filled.fields o'.filled.fields) : o.filled = o'.filled := by
  have hnumber f := h.number f.name (o.filled.lookup_number f) (o'.filled.lookup_number f)
  have hflush : o.filled.manualWalFlush = o'.filled.manualWalFlush :=
    h.flag "manual_wal_flush" rfl rfl
  have hrecovery : o.filled.walRecoveryMode = o'.filled.walRecoveryMode :=
    h.choice "wal_recovery_mode" Choice.ofText?_value_recoveryMode rfl rfl
  have hcodec : o.filled.compressionType = o'.filled.compressionType :=
    h.choice "compression_type" Choice.ofText?_value_compression rfl rfl
  have htable : o.tableFormat.getD {} = o'.tableFormat.getD {} :=
    TableFormat.eq_of_alike (h.inside "table_format_config" rfl rfl)
  have hcompaction : (o.compaction.getD {}).filled = (o'.compaction.getD {}).filled :=
    Compaction.filled_eq_of_alike (h.inside "compaction" rfl rfl)
  have hcreate : o.filled.createIfMissing = o'.filled.createIfMissing :=
    h.flag "create_if_missing" rfl rfl
  have hexists : o.filled.errorIfExists = o'.filled.errorIfExists :=
    h.flag "error_if_exists" rfl rfl
  have hprepared : some o.filled.preparedForBulkLoad = some o'.filled.preparedForBulkLoad :=
    h.flag "prepared_for_bulk_load" rfl rfl
  have hrecords : o.filled.tableFormat = o'.filled.tableFormat ∧
      o.filled.compaction = o'.filled.compaction :=
    ⟨congrArg some htable, congrArg some hcompaction⟩
  have hfields : o.filled.fields = o'.filled.fields := by
    simp only [fields, numberField, hnumber, hflush, hrecovery, hcodec, hrecords.1, hrecords.2,
      hcreate, hexists, Option.some.inj hprepared]
  rw [← o.filled.ofReport_report, report, hfields]
  exact o'.filled.ofReport_report

/-- No record of options has two fields of one name. -/
theorem EngineOptions.distinct (o : EngineOptions) : (record o.fields).full.Distinct := by
  have hfit : (record o.fields).Fits (record blank.fields) := o.fieldsFit
  exact distinct_of_fits hfit distinct_blank

/-- The overrides are equal, also as mappings, exactly for options that settle to the same, and
these become equal when blank records take the place of absent ones. -/
theorem EngineOptions.overrides_iff (o o' : EngineOptions) :
    (o.overridesReport.Same o'.overridesReport ↔ o.settle = o'.settle) ∧
    (o.overridesReport = o'.overridesReport ↔ o.settle = o'.settle) ∧
    (o.settle = o'.settle ↔ o.filled = o'.filled) := by
  have hfilled (p : EngineOptions) : p.filled.overridesReport = p.overridesReport := by
    rw [← overridesReport_settle, settle_filled, overridesReport_settle]
  -- Each of the four says as much as the next, and the last as much as the first.
  have hsame : o.overridesReport.Same o'.overridesReport → o.filled = o'.filled := fun h =>
    filled_eq_of_alike (alikeFields_of_same o.filled.distinct o'.filled.distinct
      (by rwa [← hfilled o, ← hfilled o'] at h))
  have hsettle : o.filled = o'.filled → o.settle = o'.settle := fun h => by
    rw [← settle_filled, h, settle_filled]
  have hequal : o.settle = o'.settle → o.overridesReport = o'.overridesReport := fun h => by
    rw [← overridesReport_settle, h, overridesReport_settle]
  have hrefl : o.overridesReport = o'.overridesReport →
      o.overridesReport.Same o'.overridesReport := fun h path => by rw [h]
  exact ⟨⟨fun h => hsettle (hsame h), fun h => hrefl (hequal h)⟩,
    ⟨fun h => hsettle (hsame (hrefl h)), hequal⟩,
    ⟨fun h => hsame (hrefl (hequal h)), hsettle⟩⟩

/-- The options with a record for universal compaction wherever there is compaction, a blank one
where it is absent. -/
def EngineOptions.withUniversal (o : EngineOptions) : EngineOptions :=
  { o with compaction := o.compaction.map Compaction.filled }

/-- Where compaction is there, and a table format only with a field that is set, the one record that
filling changes is that for universal compaction. -/
theorem EngineOptions.filled_eq_iff {o o' : EngineOptions} (hc : o.compaction.isSome = true)
    (hc' : o'.compaction.isSome = true) (ht : o.tableFormat ≠ some {})
    (ht' : o'.tableFormat ≠ some {}) :
    o.filled = o'.filled ↔ o.withUniversal = o'.withUniversal := by
  have hwith {p : EngineOptions} (hp : p.compaction.isSome = true) :
      p.withUniversal = { p.filled with tableFormat := p.tableFormat } := by
    obtain ⟨c, hc⟩ := Option.isSome_iff_exists.1 hp
    rw [withUniversal, filled, hc]
    rfl
  have hfilled {p : EngineOptions} (hp : p.compaction.isSome = true) :
      p.withUniversal.filled = p.filled := by
    rw [hwith hp]
    rfl
  constructor
  · intro h
    have hgetD : o.tableFormat.getD {} = o'.tableFormat.getD {} :=
      Option.some.inj (congrArg tableFormat h)
    have htable : o.tableFormat = o'.tableFormat := by
      revert hgetD ht ht'
      rcases o.tableFormat with _ | t <;> rcases o'.tableFormat with _ | t'
      · exact fun _ _ _ => rfl
      · exact fun _ ht' h => absurd (congrArg some h.symm) ht'
      · exact fun ht _ h => absurd (congrArg some h) ht
      · exact fun _ _ h => congrArg some h
    rw [hwith hc, hwith hc', h, htable]
  · intro h
    rw [← hfilled hc, h, hfilled hc']

/-- The printed options determine the options. The full report is read back from its JSON text with
the line end after it, and the options from the report, so that the texts of different options
differ. The overrides are equal, also when they are compared as mappings, exactly for options that
settle to the same, and so for those that become equal when blank records take the place of absent
ones. Among options with compaction and without a blank table format, these differ by a blank record
for universal compaction alone. -/
theorem EngineOptions.printed_determine :
    (∀ o : EngineOptions, Report.ofJson? (o.report.toJson ++ "\n") = some o.report ∧
      ofReport o.report = o) ∧
    (∀ o o' : EngineOptions,
      o.report.toJson ++ "\n" = o'.report.toJson ++ "\n" ↔ o = o') ∧
    ∀ o o' : EngineOptions,
      (o.overridesReport.Same o'.overridesReport ↔ o.settle = o'.settle) ∧
      (o.overridesReport = o'.overridesReport ↔ o.settle = o'.settle) ∧
      (o.settle = o'.settle ↔ o.filled = o'.filled) ∧
      (o.compaction.isSome = true → o'.compaction.isSome = true →
        o.tableFormat ≠ some {} → o'.tableFormat ≠ some {} →
        (o.overridesReport = o'.overridesReport ↔ o.withUniversal = o'.withUniversal)) := by
  have hread (o : EngineOptions) : Report.ofJson? (o.report.toJson ++ "\n") = some o.report :=
    (Report.ofJson?_toJson o.distinct).2
  refine ⟨fun o => ⟨hread o, o.ofReport_report⟩, fun o o' => ⟨fun h => ?_, fun h => h ▸ rfl⟩,
    fun o o' => ?_⟩
  · have hreport : some o.report = some o'.report := by rw [← hread o, h, hread o']
    rw [← o.ofReport_report, Option.some.inj hreport, o'.ofReport_report]
  · obtain ⟨hsame, hequal, hfilled⟩ := overrides_iff o o'
    refine ⟨hsame, hequal, hfilled, fun hc hc' ht ht' => ?_⟩
    exact hequal.trans (hfilled.trans (filled_eq_iff hc hc' ht ht'))

/-- The overrides do not tell a blank record for universal compaction from an absent one. -/
theorem overrides_blankUniversal :
    let attached : EngineOptions := { compaction := some { universal := some {} } }
    attached ≠ {} ∧ attached.overridesReport = ({} : EngineOptions).overridesReport := by
  intro attached
  obtain ⟨-, -, -, huniversal⟩ := EngineOptions.printed_determine.2.2 attached {}
  exact ⟨by decide, (huniversal rfl rfl (by decide) (by decide)).2 rfl⟩

end StoreTuning
