import StoreTuning.Proofs.Compile.ReadFrom
import StoreTuning.Proofs.Compile.RoundTrip
import StoreTuning.Proofs.Engine.LeafPaths

/-!
# Where settings are silent

The overrides of options that compile in normal mode are told from the settings alone
(`Job.mem_leafPaths_overridesReport_iff`): some fields are always set, and each other one is set
exactly when its key is there, for the stop style with something to say. Elsewhere the engine's
default stands. The sets of paths are given record by record, as the fields are
(`Compaction.ReadFrom.mem_setFieldPaths_iff` and its siblings).
-/

namespace StoreTuning

variable {ε α : Type} {s : Settings} {path : List String}

/-- The paths of the overrides that are there whatever the settings. -/
def alwaysSet : List (List String) := [
  ["write_buffer_size"],
  ["compression_type"],
  ["table_format_config", "block_cache_size"],
  ["table_format_config", "block_size"],
  ["compaction", "style"],
  ["max_write_buffer_number"],
  ["create_if_missing"],
  ["error_if_exists"],
  ["max_log_file_size"],
  ["keep_log_file_num"],
  ["delete_obsolete_files_period_micros"],
  ["max_open_files"],
  ["max_file_opening_threads"],
  ["max_manifest_file_size"],
  ["prepared_for_bulk_load"]]

/-- The keys of compaction with the names of their fields. -/
def compactionFields : List (String × String) := [
  ("compaction.num.levels", "num_levels"),
  ("compaction.level0.file.num.compaction.trigger", "level0_file_num_compaction_trigger"),
  ("compaction.max.background.compactions", "max_background_compactions"),
  ("compaction.target.file.size.base", "target_file_size_base"),
  ("compaction.target.file.size.multiplier", "target_file_size_multiplier"),
  ("max.background.jobs", "max_background_jobs")]

/-- The numeric keys of universal compaction with the names of their fields. -/
def universalFields : List (String × String) := [
  ("compaction.universal.max.size.amplification.percent", "max_size_amplification_percent"),
  ("compaction.universal.size.ratio", "size_ratio"),
  ("compaction.universal.min.merge.width", "min_merge_width"),
  ("compaction.universal.max.merge.width", "max_merge_width")]

/-- Whether a value is there to be read and is not blank as text. -/
def Value.saysSomething (v : Value) : Bool :=
  !v.unspecified && !Text.blank v.toText

namespace Settings

/-- Whether the write-ahead log is enabled. -/
def walEnabled (s : Settings) : Bool :=
  (s.getFlag walKey (some (.bool Defaults.walEnabled))).toOption == some true

/-- The fields whose keys are present. -/
def fieldsPresent (s : Settings) (fields : List (String × String)) : List (List String) :=
  (fields.filter fun e => s.contains e.1).map fun e => [e.2]

/-- The paths within universal compaction that the settings set. -/
def universalPaths (s : Settings) : List (List String) :=
  s.fieldsPresent universalFields ++
    if (s.get? stopStyleKey).any Value.saysSomething then [["stop_style"]] else []

/-- The paths within compaction that the settings set, the family apart. -/
def compactionPaths (s : Settings) : List (List String) :=
  s.fieldsPresent compactionFields ++
    if s.resolvedStyle = .universal then s.universalPaths.map ("universal" :: ·) else []

/-- The paths of the overrides that settings give. -/
def overridePaths (s : Settings) : List (List String) :=
  alwaysSet ++ (if s.walEnabled then [["manual_wal_flush"], ["wal_recovery_mode"]] else []) ++
    s.compactionPaths.map ("compaction" :: ·)

end Settings

/-- A gated row is read exactly when its key is present. -/
theorem OptionRow.isSome_read?_of_gated {r : OptionRow α Width} (h : r.gated = true) :
    (r.read? s).isSome = s.contains r.key := by
  rw [read?_eq, h, Bool.true_and]
  cases s.contains r.key <;> rfl

/-- Among fields that a gated table has read, those are set whose keys are present. -/
theorem mem_fieldsPresent_iff {table : List (OptionRow α Width)} {number : α → Option Int}
    {name : α → String} (hread : ∀ r ∈ table, r.read? s = (number r.field).map .ok)
    (hgated : ∀ r ∈ table, r.gated = true)
    (hrow : ∀ f, (number f).isSome = true → f ∈ table.map OptionRow.field) :
    (∃ f, (number f).isSome = true ∧ path = [name f]) ↔
      path ∈ s.fieldsPresent (table.map fun r => (r.key, name r.field)) := by
  have hpresent : ∀ r ∈ table, s.contains r.key = (number r.field).isSome := by
    intro r hr
    rw [← OptionRow.isSome_read?_of_gated (hgated r hr), hread r hr, Option.isSome_map]
  simp only [Settings.fieldsPresent, List.mem_map, List.mem_filter]
  constructor
  · rintro ⟨f, hf, rfl⟩
    obtain ⟨r, hr, rfl⟩ := List.mem_map.1 (hrow f hf)
    exact ⟨_, ⟨⟨r, hr, rfl⟩, (hpresent r hr).trans hf⟩, rfl⟩
  · rintro ⟨_, ⟨⟨r, hr, rfl⟩, hkey⟩, rfl⟩
    exact ⟨r.field, (hpresent r hr).symm.trans hkey, rfl⟩

/-- A text names a stop style that is set only if it is not blank. -/
theorem isSome_of_parseStopStyle {raw key : String} {m? : Option StopStyle}
    (h : parseStopStyle raw key = .ok m?) : m?.isSome = !Text.blank raw := by
  unfold parseStopStyle at h
  dsimp only at h
  split at h
  next hempty =>
    cases h
    rw [Text.strip_eq_empty_iff.1 (String.isEmpty_iff.1 hempty)]
    rfl
  next hname =>
    have hblank : Text.blank raw = false := by
      rw [Bool.eq_false_iff]
      intro hblank
      exact hname (String.isEmpty_iff.2 (Text.strip_eq_empty_iff.2 hblank))
    rw [hblank]
    split at h
    · cases h
      rfl
    · cases h

/-- The stop style that is read is set exactly when its key has something to say. -/
theorem isSome_of_readStopStyle {m? : Option StopStyle} (h : readStopStyle s = .ok m?) :
    m?.isSome = (s.get? stopStyleKey).any Value.saysSomething := by
  unfold readStopStyle Settings.contains Settings.getText at h
  rw [Settings.lookup_default] at h
  cases hget : s.get? stopStyleKey with
  | none =>
    rw [hget] at h
    cases h
    rfl
  | some v =>
    rw [hget, Option.isSome_some, if_pos rfl] at h
    change (Value.readText _ >>= fun raw => parseStopStyle raw stopStyleKey) = _ at h
    -- What is read is the value, or empty text in its place.
    have hblank : m?.isSome =
        !Text.blank ((s.specified? stopStyleKey).getD (.text "")).toText := by
      cases hraw : ((s.specified? stopStyleKey).getD (.text "")).readText with
      | error e =>
        rw [hraw] at h
        cases h
      | ok raw =>
        simp only [hraw, bind, Except.bind] at h
        rw [← Value.eq_toText_of_readText hraw]
        exact isSome_of_parseStopStyle h
    rw [hblank, Option.any_some, Value.saysSomething]
    cases hv : v.unspecified with
    | true =>
      rw [Settings.specified?_eq_none_of_get? hget hv]
      rfl
    | false =>
      rw [Settings.specified?_of_get? hget hv, Option.getD_some, Bool.not_false, Bool.true_and]

/-- The fields of universal compaction that are set are those that its keys set. -/
theorem UniversalCompaction.ReadFrom.mem_setFieldPaths_iff {u : UniversalCompaction}
    (h : u.ReadFrom s) : path ∈ Content.setFieldPaths u.fields ↔ path ∈ s.universalPaths := by
  have hrow : ∀ f, f ∈ universalTable.map OptionRow.field := fun f => by cases f <;> decide
  have hfields : universalFields = universalTable.map fun r => (r.key, r.field.name) := rfl
  rw [UniversalCompaction.mem_setFieldPaths, mem_fieldsPresent_iff h.numbers (by decide)
    (fun f _ => hrow f), ← hfields, isSome_of_readStopStyle h.stopStyle, Settings.universalPaths,
    List.mem_append, List.mem_ite_nil_right, List.mem_singleton]

/-- The fields of compaction that are set are the family and those that its keys set. -/
theorem Compaction.ReadFrom.mem_setFieldPaths_iff {c : Compaction} (h : c.ReadFrom s)
    (hwf : c.WellFormed) :
    path ∈ Content.setFieldPaths c.fields ↔ path = ["style"] ∨ path ∈ s.compactionPaths := by
  have hrow : ∀ f, (c.number f).isSome = true → f ∈ compactionTable.map OptionRow.field := by
    intro f hf
    obtain ⟨n, hn⟩ := Option.isSome_iff_exists.1 hf
    obtain ⟨w, hw, -⟩ := hwf.numbers f n hn
    exact EngineOptions.mem_compactionTable (by rw [hw, Option.isSome_some])
  have hfields : compactionFields = compactionTable.map fun r => (r.key, r.field.name) := rfl
  have huniversal : (∃ u ∈ c.universal, ∃ p ∈ Content.setFieldPaths u.fields,
      path = "universal" :: p) ↔
      path ∈ if s.resolvedStyle = .universal then s.universalPaths.map ("universal" :: ·)
        else [] := by
    have hiff := hwf.universal_iff
    rw [h.style, Option.some_inj] at hiff
    rw [List.mem_ite_nil_right, ← hiff, List.mem_map]
    constructor
    · rintro ⟨u, hu, p, hp, rfl⟩
      exact ⟨Option.isSome_of_mem hu, p, (h.universal u hu).mem_setFieldPaths_iff.1 hp, rfl⟩
    · rintro ⟨hu, p, hp, rfl⟩
      obtain ⟨u, hu⟩ := Option.isSome_iff_exists.1 hu
      exact ⟨u, hu, p, (h.universal u hu).mem_setFieldPaths_iff.2 hp, rfl⟩
  rw [Compaction.mem_setFieldPaths, mem_fieldsPresent_iff h.numbers (by decide) hrow, ← hfields,
    huniversal, h.style, hwf.switch, Settings.compactionPaths, List.mem_append]
  simp

/-- A numeric field of well-formed options is set exactly when a setting gives it. -/
theorem EngineOptions.WellFormed.isSome_number {o : EngineOptions} (h : o.WellFormed)
    (f : EngineNumber) : (o.number f).isSome = f.width?.isSome := by
  cases hw : f.width? with
  | none =>
    rw [h.others f hw]
    rfl
  | some w =>
    obtain ⟨n, hn, -⟩ := h.numbers f w hw
    rw [hn]
    rfl

/-- The numbers of well-formed options. -/
theorem EngineOptions.WellFormed.exists_number_iff {o : EngineOptions} (h : o.WellFormed) :
    (∃ f, (o.number f).isSome = true ∧ path = [f.name]) ↔
      path ∈ [["write_buffer_size"], ["max_write_buffer_number"], ["max_log_file_size"],
        ["keep_log_file_num"], ["delete_obsolete_files_period_micros"], ["max_open_files"],
        ["max_file_opening_threads"], ["max_manifest_file_size"]] := by
  have hnames : (EngineNumber.all.filter fun f => f.width?.isSome).map (fun f => [f.name]) =
      [["write_buffer_size"], ["max_write_buffer_number"], ["max_log_file_size"],
        ["keep_log_file_num"], ["delete_obsolete_files_period_micros"], ["max_open_files"],
        ["max_file_opening_threads"], ["max_manifest_file_size"]] := rfl
  simp only [← hnames, List.mem_map, List.mem_filter, EngineNumber.mem_all, true_and,
    h.isSome_number, eq_comm]

/-- The numbers of a well-formed format of table files. -/
theorem TableFormat.WellFormed.mem_setFieldPaths_iff {t : TableFormat} (h : t.WellFormed) :
    path ∈ Content.setFieldPaths t.fields ↔ path ∈ [["block_cache_size"], ["block_size"]] := by
  obtain ⟨cache, hcache, -⟩ := h.cache
  obtain ⟨block, hblock, -⟩ := h.block
  have hnumber : ∀ f, (t.number f).isSome = true := by
    intro f
    cases f with
    | blockCacheSize => exact Option.isSome_of_eq_some hcache
    | blockSize => exact Option.isSome_of_eq_some hblock
  have hnames : TableNumber.all.map (fun f => [f.name]) = [["block_cache_size"], ["block_size"]] :=
    rfl
  simp only [TableFormat.mem_setFieldPaths, hnumber, true_and, ← hnames, List.mem_map,
    TableNumber.mem_all, eq_comm]

/-- The fields of well-formed options that are set are those that settings set. -/
theorem EngineOptions.ReadFrom.mem_setFieldPaths_iff {o : EngineOptions} {tasks : Int}
    {manifestDefault : Value} (h : o.ReadFrom s tasks manifestDefault) (hwf : o.WellFormed) :
    path ∈ Content.setFieldPaths o.fields ↔ path ∈ s.overridePaths := by
  obtain ⟨t, ht, htwf⟩ := hwf.format
  obtain ⟨c, hc, hread⟩ := h.compaction
  obtain ⟨c', hc', hcwf⟩ := hwf.compaction
  cases hc.symm.trans hc'
  have hwal : o.manualWalFlush.isSome = s.walEnabled ∧ o.walRecoveryMode.isSome = s.walEnabled := by
    obtain ⟨b, hb, hflush, hmode⟩ := h.wal
    rw [hflush, hmode, Settings.walEnabled, hb]
    cases b <;> exact ⟨rfl, rfl⟩
  rw [EngineOptions.mem_setFieldPaths, hwf.exists_number_iff, hwal.1, hwal.2, h.compression, ht,
    hc, hwf.createIfMissing, hwf.errorIfExists]
  simp only [Option.isSome_some, true_and, Option.mem_some_iff, exists_eq_left',
    htwf.mem_setFieldPaths_iff, hread.mem_setFieldPaths_iff hcwf, Settings.overridePaths, alwaysSet,
    List.mem_append, List.mem_map, List.mem_ite_nil_right, List.mem_cons, List.not_mem_nil,
    or_false, or_and_right, and_or_left, exists_or, exists_eq_left, eq_comm (b := path)]
  -- The same paths on both sides, here record by record and there in one list.
  exact iff_of_eq (by ac_rfl)

/-- The overrides of options that compile in normal mode have a leaf at each path that the settings
set, and at no other path. -/
theorem Job.mem_leafPaths_overridesReport_iff (j : Job ε) (hmode : j.mode = .normal)
    {o : EngineOptions} (h : j.compile.outcome = .ok o) (path : List String) :
    path ∈ o.overridesReport.leafPaths ↔ path ∈ j.settings.overridePaths := by
  obtain ⟨p, hp, hopen⟩ := Attempt.outcome_bind_eq_ok_iff.1 h
  rw [hmode, openFor_normal] at hopen
  cases hopen
  rw [EngineOptions.leafPaths_overridesReport]
  exact (configure_readFrom hp).mem_setFieldPaths_iff (configure_wellFormed hp)

/-- A job with keys of compaction that are present without a value. -/
def valuelessJob : Job Empty :=
  plainJob (.ofPairs [("wal.enabled", .text "true"), ("max.background.jobs", .null),
    ("compaction.universal.size.ratio", .int 0),
    ("compaction.universal.compaction.stop.style", .text " ")])

/-- Without values, a key with a default still sets its field, and the stop style stays unset. -/
theorem mem_leafPaths_valuelessJob :
    ∃ o, valuelessJob.compile.outcome = .ok o ∧
      ["compaction", "max_background_jobs"] ∈ o.overridesReport.leafPaths ∧
      ["compaction", "universal", "size_ratio"] ∈ o.overridesReport.leafPaths ∧
      ["compaction", "universal", "stop_style"] ∉ o.overridesReport.leafPaths ∧
      ["compaction", "num_levels"] ∉ o.overridesReport.leafPaths := by
  obtain ⟨o, ho, -⟩ := exists_ok_of_any (x := valuelessJob.compile.outcome) (p := fun _ => true)
    (by decide +kernel)
  have hpaths := Job.mem_leafPaths_overridesReport_iff valuelessJob rfl ho
  refine ⟨o, ho, (hpaths _).2 ?_, (hpaths _).2 ?_, fun h => ?_, fun h => ?_⟩
  · decide +kernel
  · decide +kernel
  · exact absurd ((hpaths _).1 h) (by decide +kernel)
  · exact absurd ((hpaths _).1 h) (by decide +kernel)

end StoreTuning
