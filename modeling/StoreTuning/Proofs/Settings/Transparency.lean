import StoreTuning.Proofs.Settings.Conversion
import StoreTuning.Proofs.Settings.Overlay

/-!
# Lookups through views

A view shows nothing of its own. It holds the entries whose keys start with the stem, by what
follows it, and no two of them become one (`Settings.view_eq_ofPairs`, `Settings.size_view`). What
is looked up in it is what is looked up in the settings under the stem and the key, and an error is
the same but for the key that it names (`SameButKey`), so that a view of a view, or of what was kept
under the whole keys, is a view as well (`Settings.view_transparent`).

Readers are given the key for their errors only (`Value.read_sameButKey`), and a lookup depends on
the entry of its key only, wherever that is found (`Settings.lookup_sameButKey`).
-/

namespace StoreTuning

variable {α β : Type} {key key' : String}

/-- Two outcomes, each of what was looked up under a key of its own, that are the same but for the
key that an error names. -/
inductive SameButKey (key key' : String) : Except LookupError α → Except LookupError α → Prop where
  | ok (a : α) : SameButKey key key' (.ok a) (.ok a)
  | missing : SameButKey key key' (.error (.missing key)) (.error (.missing key'))
  | invalid (v : Value) (expected : Expectation) :
    SameButKey key key' (.error (.invalid key v expected)) (.error (.invalid key' v expected))
  /-- This error names no key. -/
  | unprintable : SameButKey key key' (.error .unprintable) (.error .unprintable)

namespace SameButKey

/-- A refused value is refused with the same words under any key. -/
theorem reject (v : Value) (expected : Expectation) :
    SameButKey key key' (.error (.reject key v expected) : Except LookupError α)
      (.error (.reject key' v expected)) := by
  unfold LookupError.reject
  split
  · exact .invalid v expected
  · exact .unprintable

/-- Outcomes that are the same but for the key stay so when the same is made of their results. -/
theorem bind {x y : Except LookupError α} {f g : α → Except LookupError β}
    (h : SameButKey key key' x y) (hf : ∀ a, SameButKey key key' (f a) (g a)) :
    SameButKey key key' (x >>= f) (y >>= g) := by
  cases h with
  | ok a => exact hf a
  | missing => exact .missing
  | invalid v expected => exact .invalid v expected
  | unprintable => exact .unprintable

theorem map {x y : Except LookupError α} (h : SameButKey key key' x y) (f : α → β) :
    SameButKey key key' (x.map f) (y.map f) := by
  cases h with
  | ok a => exact .ok (f a)
  | missing => exact .missing
  | invalid v expected => exact .invalid v expected
  | unprintable => exact .unprintable

end SameButKey

namespace Value

theorem readText_sameButKey (v : Value) : SameButKey key key' v.readText v.readText := by
  unfold readText
  split
  · exact .ok _
  · split
    · exact .ok _
    · exact .unprintable

theorem readFlag_sameButKey (v : Value) :
    SameButKey key key' (v.readFlag key) (v.readFlag key') := by
  unfold readFlag
  split
  · exact .ok _
  · split
    · exact .ok _
    · exact .reject _ _
  · exact .reject _ _

theorem checkWidth_sameButKey (w : Width) (n : Int) :
    SameButKey key key' (checkWidth key w n) (checkWidth key' w n) := by
  unfold checkWidth
  split
  · exact .ok n
  · exact .reject _ _

theorem readInteger_sameButKey (w : Width) (v : Value) :
    SameButKey key key' (v.readInteger key w) (v.readInteger key' w) := by
  unfold readInteger
  split
  · exact checkWidth_sameButKey w _
  · split
    · exact checkWidth_sameButKey w _
    · exact .reject _ _
  · exact .reject _ _

/-- The key is for the error only, whatever a value is asked for as. -/
theorem read_sameButKey (kind : SettingKind) (v : Value) :
    SameButKey key key' (Reader.read kind key v) (Reader.read kind key' v) :=
  match kind with
  | .text => (readText_sameButKey v).map Scalar.text
  | .flag => (readFlag_sameButKey v).map Scalar.bool
  | .integer w => (readInteger_sameButKey w v).map Scalar.int

end Value

namespace Settings

variable {s t : Settings}

/-- The same entry under two keys gives the same lookup. -/
theorem lookup_sameButKey (h : s.get? key = t.get? key') (fallback? : Option Value) :
    SameButKey key key' (s.lookup key fallback?) (t.lookup key' fallback?) := by
  have hsame : s.specified? key = t.specified? key' := by rw [specified?, specified?, h]
  unfold lookup
  rw [hsame]
  split
  · exact .ok _
  · exact .ok _
  · exact .missing

/-- The same entry under two keys gives the same setting of any kind. -/
theorem getAs_sameButKey (h : s.get? key = t.get? key') (fallback? : Option Value)
    (kind : SettingKind) :
    SameButKey key key' (s.getAs key fallback? kind) (t.getAs key' fallback? kind) := by
  rw [getAs_eq, getAs_eq]
  exact (lookup_sameButKey h fallback?).bind (Value.read_sameButKey kind)

/-! ## What a view holds -/

/-- Dropping a stem cuts its characters off, from a key that starts with them. -/
theorem dropStem?_eq (stem key : String) :
    dropStem? stem key =
      if stem.toList.isPrefixOf key.toList then
        some (String.ofList (key.toList.drop stem.length))
      else none := by
  split
  next h =>
    obtain ⟨rest, rfl⟩ := isPrefixOf_iff.1 h
    have hrest : String.ofList ((stem ++ rest).toList.drop stem.length) = rest := by
      rw [String.toList_append, ← String.length_toList, List.drop_left, String.ofList_toList]
    rw [hrest]
    exact dropStem?_eq_some_iff.2 rfl
  next h =>
    refine Option.eq_none_iff_forall_ne_some.2 fun rest hrest => h ?_
    exact isPrefixOf_iff.2 ⟨rest, dropStem?_eq_some_iff.1 hrest⟩

/-- A view is what the entries leave whose keys start with the stem, when they are put one after
the other under what follows it. -/
theorem view_eq_ofPairs (s : Settings) (stem : String) :
    s.view stem =
      .ofPairs ((s.entries.filter fun e => stem.toList.isPrefixOf e.1.toList).map
        fun e => (String.ofList (e.1.toList.drop stem.length), e.2)) := by
  have hpairs : (s.entries.filter fun e => stem.toList.isPrefixOf e.1.toList).map
      (fun e => (String.ofList (e.1.toList.drop stem.length), e.2)) = (s.view stem).entries := by
    rw [← List.filterMap_eq_map, List.filterMap_filter]
    refine List.filterMap_congr fun e _ => ?_
    rw [dropStem?_eq]
    split <;> rfl
  rw [hpairs]
  -- The stem was dropped from distinct keys, so that no pair is put in the place of another.
  exact ext_entries (Entries.ofList_eq_self (s.view stem).nodup).symm

/-- A view has a key for each key under the stem. -/
theorem size_view (s : Settings) (stem : String) :
    (s.view stem).size = (s.keysUnder stem).length := by
  rw [← map_keys_view, List.length_map, keys, Entries.keys, List.length_map, size]

/-- What was kept under the whole keys is viewed like the settings, under the stem and more. -/
theorem view_keep (s : Settings) (stem stem' : String) :
    (s.keep stem).view (stem ++ stem') = s.view (stem ++ stem') := by
  refine ext_entries ?_
  show (s.entries.filter fun e => startsWith stem e.1).filterMap _ = s.entries.filterMap _
  rw [List.filterMap_filter]
  refine List.filterMap_congr fun e _ => ?_
  split
  next => rfl
  next h =>
    -- A key that starts with both stems starts with the first.
    have hnone : dropStem? (stem ++ stem') e.1 = none := by
      refine Option.eq_none_iff_forall_ne_some.2 fun rest hrest => h ?_
      rw [startsWith_iff, dropStem?_eq_some_iff.1 hrest]
      exact ⟨stem' ++ rest, String.append_assoc⟩
    rw [hnone, Option.map_none]

/-- Views under stems compose, and lookups do not notice them. A view under one stem and then
another is the view under both, entry by entry, and so it is when the whole keys were kept under the
first. A view holds the entries whose keys start with its stem, in their order, each under a key of
its own. A key is there when the stem and the key are in the settings, and a setting of any kind,
with any fallback, is the same, or fails in the same way with the key in place of the stem and the
key. -/
theorem view_transparent (s : Settings) (stem stem' : String) :
    (s.view stem).view stem' = s.view (stem ++ stem') ∧
    (s.keep stem).view (stem ++ stem') = s.view (stem ++ stem') ∧
    s.view stem = .ofPairs ((s.entries.filter fun e => stem.toList.isPrefixOf e.1.toList).map
      fun e => (String.ofList (e.1.toList.drop stem.length), e.2)) ∧
    (s.view stem).size = (s.keysUnder stem).length ∧
    ∀ key, (s.view stem).contains key = s.contains (stem ++ key) ∧
      ∀ fallback? kind, SameButKey key (stem ++ key) ((s.view stem).getAs key fallback? kind)
        (s.getAs (stem ++ key) fallback? kind) := by
  refine ⟨view_view s stem stem', view_keep s stem stem', view_eq_ofPairs s stem, size_view s stem,
    fun key => ⟨?_, fun fallback? kind => ?_⟩⟩
  · rw [contains, contains, get?_view]
  · exact getAs_sameButKey (get?_view s stem key) fallback? kind

end Settings

end StoreTuning
