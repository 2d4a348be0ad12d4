import StoreTuning.Proofs.Compile.Choice
import StoreTuning.Proofs.Compile.Order
import StoreTuning.Proofs.Compile.ReadSet

/-!
# Unknown choices are substituted

Whatever stands under the keys of the codec and of the compaction family, settings compile as they
do with names there: a value that is no name counts as the default one, and the key might as well be
absent (`Job.compile_substitute`). Only the journal tells them apart, by a warning for each value
that is present and no name. The outcome of a compilation depends on the two choices only through
what they resolve to (`configure_outcome_congr`).
-/

namespace StoreTuning

variable {ε α β : Type}

/-- The names of the codecs. -/
def codecNames : List String := ["none", "snappy", "zlib", "bzip2", "lz4", "lz4hc"]

/-- The names of the compaction families. -/
def styleNames : List String := ["level", "universal", "fifo"]

theorem wordlike_compression : Choice.Wordlike Compression := by
  unfold Choice.Wordlike
  decide

theorem wordlike_compactionStyle : Choice.Wordlike CompactionStyle := by
  unfold Choice.Wordlike
  decide

/-- The outcome of a computation in two parts depends on the outcomes of the parts. -/
theorem Attempt.outcome_bind_congr {x y : Attempt ε α} {f g : α → Attempt ε β}
    (h : x.outcome = y.outcome) (hfg : ∀ a, (f a).outcome = (g a).outcome) :
    (x >>= f).outcome = (y >>= g).outcome := by
  obtain ⟨rs, qs, o⟩ := x
  obtain ⟨rs', qs', o'⟩ := y
  obtain rfl : o = o' := h
  cases o with
  | error e => rfl
  | ok a => exact hfg a

/-- Two settings hold the same but for two choices, which can be read and resolve alike. -/
structure Settings.SameChoices (s t : Settings) : Prop where
  /-- Under every other key there is the same. -/
  entries : ∀ key, key ≠ compressionKey ∧ key ≠ styleKey → s.get? key = t.get? key
  /-- The codec can be read of both. -/
  readable_codec : s.printable compressionKey = true ∧ t.printable compressionKey = true
  /-- The compaction family can be read of both. -/
  readable_style : s.printable styleKey = true ∧ t.printable styleKey = true
  /-- Both resolve to the same codec. -/
  codec : s.resolvedCompression = t.resolvedCompression
  /-- Both resolve to the same compaction family. -/
  style : s.resolvedStyle = t.resolvedStyle

section

variable {s t : Settings}

/-- A codec that can be read is resolved. -/
theorem outcome_resolveCompression (channel : Channel) (h : s.printable compressionKey = true) :
    (reading (s.readChoice compressionKey Defaults.compression) >>= fun raw =>
      resolveCompression channel compressionKey (.text raw) :
        Attempt (CompileError ε) Compression).outcome = .ok s.resolvedCompression := by
  obtain ⟨raw, hraw⟩ := Settings.readChoice_of_printable h Defaults.compression
  rw [Settings.resolvedCompression, Settings.resolved_of_readChoice hraw, hraw]
  refine Attempt.outcome_bind_eq_ok_iff.2 ⟨raw, rfl, ?_⟩
  rw [resolveCompression_eq]

/-- A compaction family that can be read is resolved. -/
theorem outcome_resolveStyle (channel : Channel) (h : s.printable styleKey = true) :
    (Attempt.ofExcept (s.readChoice styleKey Defaults.compactionStyle) >>= fun raw =>
      resolveStyle channel styleKey (.text raw)).outcome = .ok s.resolvedStyle := by
  obtain ⟨raw, hraw⟩ := Settings.readChoice_of_printable h Defaults.compactionStyle
  rw [Settings.resolvedStyle_eq, Settings.resolved_of_readChoice hraw, hraw]
  refine Attempt.outcome_bind_eq_ok_iff.2 ⟨raw, rfl, ?_⟩
  rw [resolveStyle_eq]

/-- Compaction is resolved alike. -/
theorem resolveCompaction_outcome_congr (channel : Channel) (h : s.SameChoices t) :
    (resolveCompaction channel s).outcome = (resolveCompaction channel t).outcome := by
  have htable : ∀ key ∈ compactionTable.map OptionRow.key,
      key ≠ compressionKey ∧ key ≠ styleKey := by decide
  have huniversal : ∀ key ∈ universalKeys, key ≠ compressionKey ∧ key ≠ styleKey := by decide
  unfold resolveCompaction
  rw [OptionTable.apply_congr _ _ _ fun key hkey => h.entries key (htable key hkey)]
  refine Attempt.outcome_bind_congr rfl fun c => ?_
  rw [← bind_assoc, ← bind_assoc]
  refine Attempt.outcome_bind_congr ?_ fun style => ?_
  · rw [outcome_resolveStyle channel h.readable_style.1,
      outcome_resolveStyle channel h.readable_style.2, h.style]
  · rw [resolveUniversal_congr fun key hkey => h.entries key (huniversal key hkey)]

/-- The options of normal mode are configured alike. -/
theorem configure_outcome_congr (channel : Channel) (tasks : Int) (manifestDefault : Value)
    (h : s.SameChoices t) :
    (configure channel s tasks manifestDefault :
        Attempt (CompileError ε) EngineOptions).outcome =
      (configure channel t tasks manifestDefault :
        Attempt (CompileError ε) EngineOptions).outcome := by
  have htable : ∀ key ∈ engineTable.map OptionRow.key,
      key ≠ compressionKey ∧ key ≠ styleKey := by decide
  unfold configure writeBufferSize blockCacheSize
  -- All but the two choices is read alike; what is left is to go past the choices.
  rw [Settings.getFlag_congr (h.entries walKey (by decide)),
    shareOf_congr (h.entries writeBufferKey (by decide)),
    shareOf_congr (h.entries cacheKey (by decide)),
    Settings.getInteger_congr (h.entries blockSizeKey (by decide)),
    OptionTable.apply_congr _ _ _ fun key hkey => h.entries key (htable key hkey),
    Settings.getInteger_congr (h.entries manifestKey (by decide))]
  refine Attempt.outcome_bind_congr rfl fun wal => ?_
  refine Attempt.outcome_bind_congr rfl fun writeBuffer => ?_
  rw [← bind_assoc, ← bind_assoc]
  refine Attempt.outcome_bind_congr ?_ fun compression => ?_
  · rw [outcome_resolveCompression channel h.readable_codec.1,
      outcome_resolveCompression channel h.readable_codec.2, h.codec]
  refine Attempt.outcome_bind_congr rfl fun cache => ?_
  refine Attempt.outcome_bind_congr rfl fun blockSize => ?_
  refine Attempt.outcome_bind_congr ?_ fun compaction => rfl
  exact congrArg (Except.mapError CompileError.lookup) (resolveCompaction_outcome_congr channel h)

end

/-- The job with values put under the keys of the codec and of the compaction family. -/
def Job.withChoices (j : Job ε) (codec? style? : Option Value) : Job ε :=
  { j with settings := (j.settings.put compressionKey codec?).put styleKey style? }

section

variable (j : Job ε) (codec? style? : Option Value)

theorem Job.get?_compression_withChoices :
    (j.withChoices codec? style?).settings.get? compressionKey = codec? := by
  rw [withChoices, Settings.get?_put_of_ne _ _ (by decide), Settings.get?_put_self]

theorem Job.get?_style_withChoices :
    (j.withChoices codec? style?).settings.get? styleKey = style? := by
  rw [withChoices, Settings.get?_put_self]

variable {codec? style?} {codec'? style'? : Option Value}

/-- Jobs with plain choices that name the same, or nothing alike, have the same outcome. -/
theorem Job.outcome_withChoices (hcodec : ∀ v ∈ codec?, v.Plain) (hstyle : ∀ v ∈ style?, v.Plain)
    (hcodec' : ∀ v ∈ codec'?, v.Plain) (hstyle' : ∀ v ∈ style'?, v.Plain)
    (hc : (Choice.named? codec?).getD fallbackCompression =
      (Choice.named? codec'?).getD fallbackCompression)
    (hs : (Choice.named? style?).getD fallbackStyle = (Choice.named? style'?).getD fallbackStyle) :
    (j.withChoices codec? style?).compile.outcome =
      (j.withChoices codec'? style'?).compile.outcome := by
  refine Attempt.outcome_bind_congr ?_ fun o => rfl
  refine configure_outcome_congr _ _ _
    { entries := fun key ⟨hkc, hks⟩ => ?_
      readable_codec := ⟨?_, ?_⟩
      readable_style := ⟨?_, ?_⟩
      codec := ?_
      style := ?_ }
  · simp only [withChoices, Settings.get?_put_of_ne _ _ hkc, Settings.get?_put_of_ne _ _ hks]
  · exact Settings.printable_of_plain (j.get?_compression_withChoices _ _) hcodec
  · exact Settings.printable_of_plain (j.get?_compression_withChoices _ _) hcodec'
  · exact Settings.printable_of_plain (j.get?_style_withChoices _ _) hstyle
  · exact Settings.printable_of_plain (j.get?_style_withChoices _ _) hstyle'
  · unfold Settings.resolvedCompression
    rw [Settings.resolved_of_get? wordlike_compression ofText?_default_compression
        (j.get?_compression_withChoices _ _) hcodec, hc,
      Settings.resolved_of_get? wordlike_compression ofText?_default_compression
        (j.get?_compression_withChoices _ _) hcodec']
  · rw [Settings.resolvedStyle_eq, Settings.resolvedStyle_eq,
      Settings.resolved_of_get? wordlike_compactionStyle ofText?_default_compactionStyle
        (j.get?_style_withChoices _ _) hstyle, hs,
      Settings.resolved_of_get? wordlike_compactionStyle ofText?_default_compactionStyle
        (j.get?_style_withChoices _ _) hstyle']

end

/-- The warnings among records. -/
def warnings (rs : List Record) : List Record :=
  rs.filter fun r => r.event.level = .warning

@[simp]
theorem warnings_append (rs rs' : List Record) :
    warnings (rs ++ rs') = warnings rs ++ warnings rs' := by
  rw [warnings, List.filter_append, warnings, warnings]

/-- What is left of a choice in the journal is a warning. -/
@[simp]
theorem warnings_choiceWarning (channel : Channel) (key : String) (names : List String)
    (member : String) (v? : Option Value) :
    warnings (choiceWarning channel key names member v?) =
      choiceWarning channel key names member v? := by
  unfold choiceWarning
  split
  · split <;> rfl
  · rfl

/-- Only a choice leaves a warning. -/
theorem Check.warnings_records {j : Job ε} {c : Check} (h : c.isChoice = false) :
    warnings (c.records j) = [] := by
  refine List.filter_eq_nil_iff.2 fun r hr => ?_
  cases c with
  | codec => cases h
  | style => cases h
  | row recordName field key w d? gated =>
    simp only [records] at hr
    split at hr
    · cases hr
    · split at hr
      · rw [List.mem_singleton.1 hr]
        simp [Event.level]
      · cases hr
  | presence =>
    simp only [records] at hr
    split at hr
    · rw [List.mem_singleton.1 hr]
      simp [Event.level]
    · rw [List.mem_singleton.1 hr]
      simp [Event.level]
    · cases hr
  | _ => cases hr

/-- No row of a table is a choice. -/
theorem Check.filter_isChoice_ofRow (recordName : String) (name : α → String)
    (table : List (OptionRow α Width)) :
    (table.map (ofRow recordName name)).filter isChoice = [] := by
  refine List.filter_eq_nil_iff.2 fun c hc => ?_
  obtain ⟨r, -, rfl⟩ := List.mem_map.1 hc
  exact Bool.false_ne_true

/-- A job has two choices, the codec and then the compaction family. -/
theorem Job.filter_isChoice_checks (j : Job ε) :
    j.checks.filter Check.isChoice = [.codec, .style] := by
  unfold checks optionChecks Settings.compactionChecks
  split <;> split
  all_goals
    simp only [List.filter_append, List.filter_cons, List.filter_nil, Check.filter_isChoice_ofRow]
    rfl

/-- The warnings of checks are those of the choices among them. -/
theorem warnings_flatMap_records (j : Job ε) (l : List Check) :
    warnings (l.flatMap (Check.records j)) =
      warnings ((l.filter Check.isChoice).flatMap (Check.records j)) := by
  induction l with
  | nil => rfl
  | cons c l ih =>
    rw [List.flatMap_cons, warnings_append, ih, List.filter_cons]
    cases hc : c.isChoice with
    | true => rw [if_pos rfl, List.flatMap_cons, warnings_append]
    | false => rw [Check.warnings_records hc, List.nil_append, if_neg Bool.false_ne_true]

/-- The warnings of a job that compiles are those about its choices. -/
theorem Job.warnings_of_outcome {j : Job ε} {o : EngineOptions} (h : j.compile.outcome = .ok o) :
    warnings j.compile.records =
      warnings (Check.codec.records j) ++ warnings (Check.style.records j) := by
  -- No check fails, so that the records are those of all checks.
  have hpass : ∀ c ∈ j.checks, c.passes j = true := fun c hc =>
    Check.passes_of_failure?_eq_none (j.compile_follows.failure?_eq_none h c hc)
  rw [j.compile_follows.records, List.takeWhile_eq_self_iff.2 hpass, warnings_flatMap_records,
    filter_isChoice_checks, List.flatMap_cons, List.flatMap_cons, List.flatMap_nil, List.append_nil,
    warnings_append]

/-- Whatever plain values the codec and the compaction family are given as, or whether they are
given at all, a job has the outcome that it has with the names which stand in for them: each value
that is a name as it stands, and otherwise the default one. A value that is no name might as well
be absent. When there are options, the warnings are one about the codec, if it is present and no
name, and then one about the family, if that is present and no name. A warning says which key it is
about, what is there, and which member stands in for it. -/
theorem Job.compile_substitute (j : Job ε) (codec? style? : Option Value)
    (hcodec : ∀ v ∈ codec?, v.Plain) (hstyle : ∀ v ∈ style?, v.Plain) :
    let x := (j.withChoices codec? style?).compile
    x.outcome = (j.withChoices (some (Value.nameOr codecNames "snappy" codec?))
      (some (Value.nameOr styleNames "universal" style?))).compile.outcome ∧
    (Value.unknown codecNames codec? = true →
      x.outcome = (j.withChoices none style?).compile.outcome) ∧
    (Value.unknown styleNames style? = true →
      x.outcome = (j.withChoices codec? none).compile.outcome) ∧
    (∀ o, x.outcome = .ok o → warnings x.records =
      choiceWarning j.channel "compression" codecNames "SNAPPY_COMPRESSION" codec? ++
        choiceWarning j.channel "compaction.style" styleNames "UNIVERSAL" style?) ∧
    ∀ key raw member, (Event.substituted key raw member).level = .warning ∧
      (Event.substituted key raw member).message =
        "Unknown " ++ key ++ " " ++ raw ++ ", overwriting to " ++ member := by
  intro x
  have hcodecs : codecNames = (Choice.members : List Compression).map Choice.value := rfl
  have hstyles : styleNames = (Choice.members : List CompactionStyle).map Choice.value := rfl
  have hnothing : ∀ v ∈ (none : Option Value), v.Plain := nofun
  refine ⟨?_, fun hunknown => ?_, fun hunknown => ?_, fun o ho => ?_,
    fun key raw member => ⟨rfl, rfl⟩⟩
  · refine j.outcome_withChoices hcodec hstyle (Value.plain_nameOr hcodec _ _)
      (Value.plain_nameOr hstyle _ _) ?_ ?_
    · exact (Choice.named?_nameOr hcodecs ofText?_default_compression codec?).symm
    · exact (Choice.named?_nameOr hstyles ofText?_default_compactionStyle style?).symm
  · refine j.outcome_withChoices hcodec hstyle hnothing hstyle ?_ rfl
    rw [Choice.named?_of_unknown hcodecs hunknown]
    rfl
  · refine j.outcome_withChoices hcodec hstyle hcodec hnothing rfl ?_
    rw [Choice.named?_of_unknown hstyles hunknown]
    rfl
  · have hc : Check.codec.records (j.withChoices codec? style?) =
        choiceWarning j.channel "compression" codecNames "SNAPPY_COMPRESSION" codec? :=
      Settings.substitution_of_get? wordlike_compression ofText?_default_compression hcodecs
        (j.get?_compression_withChoices codec? style?) hcodec j.channel
    have hs : Check.style.records (j.withChoices codec? style?) =
        choiceWarning j.channel "compaction.style" styleNames "UNIVERSAL" style? :=
      Settings.substitution_of_get? wordlike_compactionStyle ofText?_default_compactionStyle hstyles
        (j.get?_style_withChoices codec? style?) hstyle j.channel
    rw [Job.warnings_of_outcome ho, hc, hs, warnings_choiceWarning, warnings_choiceWarning]

/-- A list names no codec, and a name in capitals no compaction family: a job with both has options
all the same, those without the two keys, and one warning about each. -/
theorem compile_substitute_unknown :
    let codec : Value := .list [.int 5, .null]
    let style : Value := .text "LEVEL"
    let x := ((plainJob .empty).withChoices (some codec) (some style)).compile
    codec.Plain ∧ style.Plain ∧
    (∃ o, x.outcome = .ok o ∧
      ((plainJob .empty).withChoices none (some style)).compile.outcome = .ok o) ∧
    warnings x.records =
      [⟨.compiler, .substituted "compression" "[5, None]" "SNAPPY_COMPRESSION"⟩,
        ⟨.compiler, .substituted "compaction.style" "LEVEL" "UNIVERSAL"⟩] ∧
    (Event.substituted "compaction.style" "LEVEL" "UNIVERSAL").message =
      "Unknown compaction.style LEVEL, overwriting to UNIVERSAL" := by
  intro codec style x
  have hcodec : codec.Plain := ⟨by decide +kernel, nofun⟩
  have hstyle : style.Plain := Value.plain_text "LEVEL"
  obtain ⟨-, hremove, -, hwarnings, htext⟩ := Job.compile_substitute (plainJob .empty) (some codec)
    (some style) (fun v hv => by cases hv; exact hcodec) (fun v hv => by cases hv; exact hstyle)
  obtain ⟨o, ho, -⟩ := exists_ok_of_any (x := x.outcome) (p := fun _ => true) (by decide +kernel)
  refine ⟨hcodec, hstyle, ⟨o, ho, (hremove rfl).symm.trans ho⟩, (hwarnings o ho).trans ?_,
    (htext _ _ _).2.trans ?_⟩
  all_goals decide +kernel

end StoreTuning
