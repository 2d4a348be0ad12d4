import StoreTuning.Proofs.Compile.Order

/-!
# The first failure decides

What becomes of a compilation is decided by the first of its checks that fails
(`Job.compile_first_failure`): that one says what goes wrong, and the journal ends there. A key is
reported missing only for a row that has no fallback, is gated, and finds its key without a value.

The choices of a codec and of a compaction family are meant to go through whatever they hold. They
do so exactly as long as the first failure is not that of an integer in them which is too long to
print (`longCodec`).
-/

namespace StoreTuning

variable {ε α β : Type} {j : Job ε}

/-- A computation of two parts does not fail in a way in which neither part does. -/
theorem bind_ne_error {x : Except ε α} {f : α → Except ε β} {e : ε} (hx : x ≠ .error e)
    (hf : ∀ a, f a ≠ .error e) : (x >>= f) ≠ .error e := by
  cases x with
  | error e' =>
    intro h
    cases h
    exact hx rfl
  | ok a => exact hf a

/-- A name that is no stop style is refused rather than missing. -/
theorem parseStopStyle_ne_missing (raw key key' : String) :
    parseStopStyle raw key ≠ .error (.missing key') := by
  unfold parseStopStyle
  dsimp only
  split
  · intro h
    cases h
  · split
    · intro h
      cases h
    · exact fun h => LookupError.reject_ne_missing _ _ _ _ (Except.error.inj h)

/-- Nothing of a stop style is ever missing: without its key there is none to read. -/
theorem readStopStyle_ne_missing (s : Settings) (key : String) :
    readStopStyle s ≠ .error (.missing key) := by
  unfold readStopStyle
  split
  · refine bind_ne_error ?_ fun raw => parseStopStyle_ne_missing raw stopStyleKey key
    rw [Settings.getText, Settings.lookup_default]
    exact Value.readText_ne_missing ((s.specified? stopStyleKey).getD (.text "")) key
  · intro h
    cases h

/-- A read that goes wrong for want of a key is a lookup that does. -/
theorem eq_missing_of_map {x : Except LookupError α} {key : String}
    (h : (errorOf? x).map (CompileError.lookup (ε := ε)) = some (.lookup (.missing key))) :
    x = .error (.missing key) := by
  obtain ⟨e, he, heq⟩ := Option.map_eq_some_iff.1 h
  cases heq
  exact errorOf?_eq_some_iff.1 he

namespace Check

/-- Only the key of a row can be missing: one without a fallback, which is not skipped. -/
theorem eq_row_of_missing {c : Check} {key : String}
    (h : c.failure? j = some (.lookup (.missing key))) :
    ∃ recordName field w gated, c = .row recordName field key w none gated ∧
      (gated = true → j.settings.contains key = true) ∧ j.settings.specified? key = none := by
  cases c with
  | flag k d => exact absurd (eq_missing_of_map h) (Settings.getFlag_default_ne_missing _ _ _ _)
  | integer k w d => cases (Settings.getInteger_eq_missing (eq_missing_of_map h)).1
  | stopStyle => exact absurd (eq_missing_of_map h) (readStopStyle_ne_missing _ _)
  | row recordName field k w d? gated =>
    rw [failure?] at h
    split at h
    · cases h
    next hg =>
      obtain ⟨rfl, rfl, hs⟩ := Settings.getInteger_eq_missing (eq_missing_of_map h)
      refine ⟨recordName, field, w, gated, rfl, fun hgated => ?_, hs⟩
      simpa [hgated] using hg
  | tasks =>
    rw [failure?] at h
    split at h <;> cases h
  | budget k d =>
    simp only [failure?] at h
    split at h
    · split at h <;> cases h
    · cases h
  | codec =>
    rw [failure?] at h
    split at h <;> cases h
  | style =>
    rw [failure?] at h
    split at h <;> cases h
  | presence =>
    obtain ⟨e, -, heq⟩ := Option.map_eq_some_iff.1 h
    cases heq

/-- The failure of a choice is that its value cannot be printed. -/
theorem eq_unprintable_of_isChoice {c : Check} {e : CompileError ε} (hc : c.isChoice = true)
    (h : c.failure? j = some e) : e = .lookup .unprintable := by
  cases c with
  | codec =>
    rw [failure?] at h
    split at h <;> cases h
    rfl
  | style =>
    rw [failure?] at h
    split at h <;> cases h
    rfl
  | _ => cases hc

/-- The check of a row among those of a table is the check of one of the table's rows. -/
theorem exists_row_of_mem {recordName field key tableName : String} {w : Width}
    {fallback? : Option Value} {gated : Bool} {name : α → String}
    {table : List (OptionRow α Width)}
    (h : .row recordName field key w fallback? gated ∈ table.map (ofRow tableName name)) :
    ∃ r ∈ table, r.fallback? = fallback? ∧ r.gated = gated := by
  obtain ⟨r, hr, heq⟩ := List.mem_map.1 h
  cases heq
  exact ⟨r, hr, rfl, rfl⟩

end Check

/-- A row among the checks is that of a table. -/
theorem Job.row_mem_tables {recordName field key : String} {w : Width} {fallback? : Option Value}
    {gated : Bool} (h : .row recordName field key w fallback? gated ∈ j.checks) :
    .row recordName field key w fallback? gated ∈
        compactionTable.map (Check.ofRow "CompactionSpec" CompactionNumber.name) ∨
      .row recordName field key w fallback? gated ∈
        universalTable.map (Check.ofRow "UniversalCompactionOptions" UniversalNumber.name) ∨
      .row recordName field key w fallback? gated ∈
        engineTable.map (Check.ofRow "EngineOptions" EngineNumber.name) := by
  unfold checks optionChecks Settings.compactionChecks at h
  simp only [List.mem_append, List.mem_cons, reduceCtorEq, false_or, List.not_mem_nil,
    or_false] at h
  -- The conditional parts hold rows of the universal table and no others.
  obtain (h | h) | h := h
  · obtain h | h := h
    · exact .inl h
    · split at h
      · simp only [List.mem_append, List.mem_singleton, reduceCtorEq, or_false] at h
        exact .inr (.inl h)
      · cases h
  · exact .inr (.inr h)
  · split at h <;> simp at h

/-- A row without a fallback is gated. -/
theorem Job.gated_of_mem_checks {recordName field key : String} {w : Width} {gated : Bool}
    (h : .row recordName field key w none gated ∈ j.checks) : gated = true := by
  have hcompaction : ∀ r ∈ compactionTable, r.gated := by decide
  have huniversal : ∀ r ∈ universalTable, r.gated := by decide
  have hengine : ∀ r ∈ engineTable, r.fallback?.isSome := by decide
  obtain h | h | h := Job.row_mem_tables h
  · obtain ⟨r, hr, -, rfl⟩ := Check.exists_row_of_mem h
    exact hcompaction r hr
  · obtain ⟨r, hr, -, rfl⟩ := Check.exists_row_of_mem h
    exact huniversal r hr
  · obtain ⟨r, hr, hnone, -⟩ := Check.exists_row_of_mem h
    have hsome := hengine r hr
    rw [hnone] at hsome
    cases hsome

/-- The directory is asked about for a bulk load, once every other check is passed. -/
theorem Job.compile_queries (j : Job ε) :
    j.compile.queries =
      if j.mode = .bulkLoad ∧ j.optionChecks.all (Check.passes j) = true then [j.directory]
      else [] := by
  have hqueries := configure_queries (ε := ε) j.channel j.settings j.tasks j.manifestDefault
  have hpass := (configure_follows (j := j)).exists_ok_iff.trans Check.all_passes_iff.symm
  unfold compile StoreTuning.compile
  generalize configure j.channel j.settings j.tasks j.manifestDefault = x at hqueries hpass ⊢
  obtain ⟨rs, qs, o⟩ := x
  obtain rfl : qs = [] := hqueries
  -- There are options exactly when their checks are passed, and only then is there a question.
  cases o with
  | error e =>
    have hfails : ¬ j.optionChecks.all (Check.passes j) = true := fun h => by
      obtain ⟨o, ho⟩ := hpass.2 h
      cases ho
    rw [if_neg (not_and_of_not_right _ hfails), Attempt.bind_error]
  | ok o =>
    have hpasses : j.optionChecks.all (Check.passes j) = true := hpass.1 ⟨o, rfl⟩
    rw [Attempt.bind_ok, List.nil_append, hpasses]
    cases hm : j.mode with
    | normal => rfl
    | bulkLoad =>
      rw [openFor_bulkLoad, if_pos ⟨rfl, rfl⟩]
      rcases j.holdsStore j.directory with e | present
      · rfl
      · cases present <;> rfl

/-- The first failure is still the first among the elements kept exactly when it is not lost: when
its element is kept, or an element that is kept fails first in the same way. -/
theorem findSome?_filter_iff {f : α → Option β} {p : α → Bool} (l : List α) :
    l.findSome? f = (l.filter p).findSome? f ↔
      ∀ a, l.find? (fun a => (f a).isSome) = some a → p a = false →
        (l.filter p).findSome? f = f a := by
  induction l with
  | nil => simp
  | cons a l ih =>
    cases hf : f a with
    | none => cases hp : p a <;> simpa [hf, hp] using ih
    | some b =>
      cases hp : p a with
      | true => simp [hf, hp]
      | false =>
        -- The element is the first to fail and is left out.
        rw [List.findSome?_cons_of_isSome (by simp [hf]), List.find?_cons_of_pos (by simp [hf]),
          List.filter_cons_of_neg (by simp [hp]), hf]
        constructor
        · rintro h _ ⟨⟩ -
          rw [← h, hf]
        · intro h
          rw [h a rfl hp, hf]

/-- The first check that fails decides: a compilation goes wrong as that check does, gives options
when there is none, writes the records of the checks before it, and asks about the directory only
when no other check is left. A key is missing only for a gated row without a fallback that finds its
key without a value. The choices make a difference exactly when one of them fails first, because of
an integer that is too long to print, and the checks that are meant to be fatal fail otherwise or
not at all. -/
theorem Job.compile_first_failure (j : Job ε) :
    (∀ e, j.compile.outcome = .error e ↔ j.checks.findSome? (Check.failure? j) = some e) ∧
    ((∃ o, j.compile.outcome = .ok o) ↔ ∀ c ∈ j.checks, c.failure? j = none) ∧
    j.compile.records = (j.checks.takeWhile (Check.passes j)).flatMap (Check.records j) ∧
    (j.compile.queries =
      if j.mode = .bulkLoad ∧ j.optionChecks.all (Check.passes j) = true then [j.directory]
      else []) ∧
    (∀ key, j.compile.outcome = .error (.lookup (.missing key)) →
      ∃ recordName field w v, .row recordName field key w none true ∈ j.checks ∧
        j.settings.get? key = some v ∧ v.unspecified = true) ∧
    (errorOf? j.compile.outcome = j.fatalChecks.findSome? (Check.failure? j) ↔
      ∀ c, j.checks.find? (fun c => (c.failure? j).isSome) = some c → c.isChoice = true →
        j.fatalChecks.findSome? (Check.failure? j) = some (.lookup .unprintable)) := by
  obtain ⟨hfail, hrec⟩ := j.compile_follows
  refine ⟨fun e => ?_, j.compile_follows.exists_ok_iff, hrec, j.compile_queries,
    fun key hmissing => ?_, ?_⟩
  · rw [← hfail, errorOf?_eq_some_iff]
  · rw [hmissing] at hfail
    obtain ⟨c, hc, hcfail⟩ := List.exists_of_findSome?_eq_some hfail.symm
    obtain ⟨recordName, field, w, gated, rfl, hcontains, hspec⟩ := Check.eq_row_of_missing hcfail
    obtain rfl := Job.gated_of_mem_checks hc
    obtain ⟨v, hv, hun⟩ := Settings.unspecified_of_contains (hcontains rfl) hspec
    exact ⟨recordName, field, w, v, hc, hv, hun⟩
  · rw [hfail, Job.fatalChecks_eq_filter, findSome?_filter_iff]
    refine forall_congr' fun c => forall_congr' fun hfind => ?_
    rw [Bool.not_eq_false']
    refine forall_congr' fun hchoice => ?_
    -- A choice that fails does so because its value cannot be printed.
    have hsome := List.find?_some (p := fun c => (Check.failure? j c).isSome) hfind
    obtain ⟨e, he⟩ := Option.isSome_iff_exists.1 hsome
    rw [he, Check.eq_unprintable_of_isChoice hchoice he]

/-- A job with one setting: a codec that is an integer of 4335 digits. -/
def longCodec : Job Empty :=
  plainJob (.ofPairs [(compressionKey, .int (.ofNat (Nat.pow 16 3600)))])

/-- Nothing that is meant to be fatal fails for the long codec, and still its settings do not
compile. -/
theorem longCodec_fails :
    longCodec.fatalChecks.findSome? (Check.failure? longCodec) = none ∧
      longCodec.compile.outcome = .error (.lookup .unprintable) := by
  refine ⟨?_, ?_⟩
  · exact Option.isNone_iff_eq_none.1 (by decide +kernel)
  · rw [← errorOf?_eq_some_iff, longCodec.compile_follows.failure, Job.checks, Job.optionChecks]
    simp only [List.cons_append]
    -- What comes before the codec is read without a failure.
    rw [List.findSome?_cons_of_isNone (by decide +kernel),
      List.findSome?_cons_of_isNone (by decide +kernel),
      List.findSome?_cons_of_isNone (by decide +kernel),
      List.findSome?_cons_of_isNone (by decide +kernel), List.findSome?_cons, Check.failure?,
      if_neg (by decide +kernel)]

end StoreTuning
