import StoreTuning.Proofs.Compile.Job
import StoreTuning.Proofs.Compile.Keys

/-!
# What a compilation reads

A compilation depends on its settings through the entries of its keys only: whatever else two
settings hold, and in whatever order, they compile to the same options or the same error with the
same traces when they agree there (`Job.compile_congr`). The keys of universal compaction matter for
that family alone.
-/

namespace StoreTuning

variable {ε α β κ τ : Type}

/-- Two settings agree on keys when each key is absent from both, or has the same value in both. -/
def Settings.AgreeOn (keys : List String) (s t : Settings) : Prop :=
  ∀ key ∈ keys, s.get? key = t.get? key

section

variable [Reader κ β] {s t : Settings}

/-- A row reads its own key. -/
theorem OptionRow.read?_congr {r : OptionRow α κ} (h : s.get? r.key = t.get? r.key) :
    r.read? s = r.read? t := by
  unfold read?
  rw [Settings.contains_congr h, Settings.lookup_congr h]

/-- A table reads the keys of its rows. -/
theorem OptionTable.assignments_congr {table : List (OptionRow α κ)}
    (h : s.AgreeOn (table.map OptionRow.key) t) : assignments s table = assignments t table := by
  induction table with
  | nil => rfl
  | cons r rs ih =>
    obtain ⟨hr, hrs⟩ := List.forall_mem_cons.1 h
    unfold assignments
    rw [OptionRow.read?_congr hr, ih hrs]

/-- A table is applied alike when its keys hold the same. -/
theorem OptionTable.apply_congr (recordName : String) (name : α → String) (set : τ → α → β → τ)
    {table : List (OptionRow α κ)} (h : s.AgreeOn (table.map OptionRow.key) t) :
    apply recordName name set s table = apply recordName name set t table := by
  funext target
  unfold apply
  rw [assignments_congr h]

end

namespace Settings

variable {s t : Settings} {key : String}

/-- A text depends on the entry of its key only. -/
theorem getText_congr (h : s.get? key = t.get? key) (fallback? : Option Value) :
    s.getText key fallback? = t.getText key fallback? := by
  rw [getText, getText, lookup_congr h]

/-- A truth value depends on the entry of its key only. -/
theorem getFlag_congr (h : s.get? key = t.get? key) (fallback? : Option Value) :
    s.getFlag key fallback? = t.getFlag key fallback? := by
  rw [getFlag, getFlag, lookup_congr h]

/-- An integer depends on the entry of its key only. -/
theorem getInteger_congr (h : s.get? key = t.get? key) (w : Width) (fallback? : Option Value) :
    s.getInteger key w fallback? = t.getInteger key w fallback? := by
  rw [getInteger, getInteger, lookup_congr h]

/-- A choice depends on the entry of its key only. -/
theorem readChoice_congr (h : s.get? key = t.get? key) (default : String) :
    s.readChoice key default = t.readChoice key default := by
  rw [readChoice, readChoice, contains_congr h, getText_congr h]

end Settings

variable {s t : Settings}

/-- A share depends on the entry of the budget's key only. -/
theorem shareOf_congr {key : String} (h : s.get? key = t.get? key) (default tasks : Int) :
    shareOf s key default tasks = shareOf t key default tasks := by
  rw [shareOf, shareOf, Settings.getInteger_congr h]

/-- The stop style depends on the entry of its key only. -/
theorem readStopStyle_congr (h : s.get? stopStyleKey = t.get? stopStyleKey) :
    readStopStyle s = readStopStyle t := by
  rw [readStopStyle, readStopStyle, Settings.contains_congr h, Settings.getText_congr h]

/-- Universal compaction depends on its own keys only. -/
theorem resolveUniversal_congr (h : s.AgreeOn universalKeys t) :
    resolveUniversal s = resolveUniversal t := by
  have htable : ∀ key ∈ universalTable.map OptionRow.key, key ∈ universalKeys := by decide
  have hstop : stopStyleKey ∈ universalKeys := by decide
  unfold resolveUniversal
  rw [OptionTable.apply_congr _ _ _ fun key hkey => h key (htable key hkey),
    readStopStyle_congr (h stopStyleKey hstop)]

/-- Compaction depends on the common keys, and on those of the universal family only if that is the
family to use. -/
theorem resolveCompaction_congr (channel : Channel) (h : s.AgreeOn commonKeys t)
    (huniversal : s.resolvedStyle = .universal → s.AgreeOn universalKeys t) :
    resolveCompaction channel s = resolveCompaction channel t := by
  have htable : ∀ key ∈ compactionTable.map OptionRow.key, key ∈ commonKeys := by decide
  have hstyle : s.get? styleKey = t.get? styleKey := h styleKey (by decide)
  unfold resolveCompaction
  rw [OptionTable.apply_congr _ _ _ fun key hkey => h key (htable key hkey),
    ← Settings.readChoice_congr hstyle]
  refine bind_congr fun c => ?_
  rw [← bind_assoc, ← bind_assoc]
  refine Attempt.bind_congr_of_outcome fun style hok => ?_
  -- The family is known by now, and only the universal one reads on.
  by_cases hfamily : style = .universal
  · rw [if_pos hfamily, if_pos hfamily,
      resolveUniversal_congr (huniversal ((resolvedStyle_of_outcome hok).trans hfamily))]
  · rw [if_neg hfamily, if_neg hfamily]

/-- The options of normal mode depend on the keys of a compilation only. -/
theorem configure_congr (channel : Channel) (tasks : Int) (manifestDefault : Value)
    (h : s.AgreeOn commonKeys t)
    (huniversal : s.resolvedStyle = .universal → s.AgreeOn universalKeys t) :
    (configure channel s tasks manifestDefault : Attempt (CompileError ε) EngineOptions) =
      configure channel t tasks manifestDefault := by
  have htable : ∀ key ∈ engineTable.map OptionRow.key, key ∈ commonKeys := by decide
  unfold configure writeBufferSize blockCacheSize
  rw [Settings.getFlag_congr (h walKey (by decide)), shareOf_congr (h writeBufferKey (by decide)),
    Settings.readChoice_congr (h compressionKey (by decide)),
    shareOf_congr (h cacheKey (by decide)),
    Settings.getInteger_congr (h blockSizeKey (by decide)),
    resolveCompaction_congr channel h huniversal,
    OptionTable.apply_congr _ _ _ fun key hkey => h key (htable key hkey),
    Settings.getInteger_congr (h manifestKey (by decide))]

/-- Two settings compile alike, in outcome, questions and records, when they agree on the keys of a
compilation. When they resolve to another family than universal compaction, they need not agree on
the keys of that one. -/
theorem Job.compile_congr (j : Job ε) (s t : Settings) :
    (s.AgreeOn compilerKeys t →
      ({ j with settings := s } : Job ε).compile = ({ j with settings := t } : Job ε).compile) ∧
    (s.AgreeOn commonKeys t → s.resolvedStyle ≠ .universal →
      ({ j with settings := s } : Job ε).compile = ({ j with settings := t } : Job ε).compile) := by
  have hcompile : s.AgreeOn commonKeys t →
      (s.resolvedStyle = .universal → s.AgreeOn universalKeys t) →
      ({ j with settings := s } : Job ε).compile = ({ j with settings := t } : Job ε).compile := by
    -- The decision about a bulk load does not look at the settings.
    intro h huniversal
    unfold compile StoreTuning.compile
    rw [configure_congr _ _ _ h huniversal]
  refine ⟨fun h => hcompile ?_ fun _ => ?_, fun h hfamily => hcompile h (absurd · hfamily)⟩
  · exact fun key hkey => h key (List.mem_append_left universalKeys hkey)
  · exact fun key hkey => h key (List.mem_append_right commonKeys hkey)

/-- A size ratio that is no number does no harm to leveled compaction, and neither do keys that are
not known. -/
theorem compile_congr_leveled :
    (plainJob (.ofPairs [("owner", .text "a"), ("compaction.style", .text "level"),
        ("compaction.universal.size.ratio", .text "much")])).compile =
      (plainJob (.ofPairs [("compaction.style", .text "level"),
        ("Compaction.Style", .null)])).compile := by
  refine (Job.compile_congr (plainJob .empty) _ _).2 ?_ ?_
  · unfold Settings.AgreeOn commonKeys
    repeat refine List.forall_mem_cons.2 ⟨rfl, ?_⟩
    exact List.forall_mem_nil _
  · decide +kernel

end StoreTuning
