import Mathlib.Data.List.Basic
import StoreTuning.Proofs.Settings.View

/-!
# The layers of a view

The view of a store has two layers, what the container has and over it what the store has, and the
two can share a key. What the layers are decides the view, down to the order of its keys
(`Settings.layered_iff`): a key of both layers keeps the container's place and takes the store's
value.
-/

namespace StoreTuning.Settings

variable {s t : Settings} {stem key : String}

/-! ## Keys in order -/

/-- The keys that start with a stem, in order. -/
def keysUnder (s : Settings) (stem : String) : List String :=
  s.keys.filter fun key => stem.toList.isPrefixOf key.toList

/-- A key starts with a stem when its characters do. -/
theorem isPrefixOf_iff : stem.toList.isPrefixOf key.toList = true ↔ ∃ rest, key = stem ++ rest := by
  rw [List.isPrefixOf_iff_prefix]
  constructor
  · rintro ⟨rest, hrest⟩
    exact ⟨String.ofList rest, String.toList_inj.1 (by simp [hrest])⟩
  · rintro ⟨rest, rfl⟩
    exact ⟨rest.toList, String.toList_append.symm⟩

theorem startsWith_eq (stem key : String) :
    startsWith stem key = stem.toList.isPrefixOf key.toList := by
  rw [Bool.eq_iff_iff, startsWith_iff, isPrefixOf_iff]

/-- A key is there when something is under it. -/
theorem mem_keys_iff : key ∈ s.keys ↔ ∃ v, s.get? key = some v := by
  rw [keys, Entries.keys, List.mem_map]
  constructor
  · rintro ⟨⟨k, v⟩, hmem, rfl⟩
    exact ⟨v, get?_eq_some_iff.2 hmem⟩
  · rintro ⟨v, hv⟩
    exact ⟨(key, v), get?_eq_some_iff.1 hv, rfl⟩

/-- The keys that are kept are those under the stem. -/
theorem keys_keep (s : Settings) (stem : String) : (s.keep stem).keys = s.keysUnder stem := by
  show (s.entries.filter fun e => startsWith stem e.1).map Prod.fst = _
  rw [keysUnder, keys, Entries.keys, List.filter_map]
  simp only [Function.comp_def, startsWith_eq]

/-- The keys of a view, with the stem put back, are those under the stem. -/
theorem map_keys_view (s : Settings) (stem : String) :
    (s.view stem).keys.map (stem ++ ·) = s.keysUnder stem := by
  have hkey : ∀ key : String, (dropStem? stem key).map (stem ++ ·) =
      Option.guard (fun key => stem.toList.isPrefixOf key.toList) key := by
    intro key
    simp only [Option.guard, ← startsWith_eq, startsWith]
    cases h : dropStem? stem key with
    | none => rfl
    | some rest =>
      rw [Option.map_some, ← dropStem?_eq_some_iff.1 h]
      rfl
  show (Entries.keys (stripEntries stem s.entries)).map (stem ++ ·) = _
  rw [keys_stripEntries, List.map_filterMap, keysUnder, ← List.filterMap_eq_filter]
  exact List.filterMap_congr fun key _ => hkey key

/-- What is put over settings adds its new keys after theirs, in its order. -/
theorem keys_overlay (s t : Settings) :
    (s.overlay t).keys = s.keys ++ t.keys.filter (· ∉ s.keys) := by
  obtain ⟨es, hnodup⟩ := t
  show (es.foldl (fun u e => u.insert e.1 e.2) s).keys =
    s.keys ++ (Entries.keys es).filter (· ∉ s.keys)
  induction es generalizing s with
  | nil => rw [Entries.keys_nil, List.filter_nil, List.append_nil]; rfl
  | cons e es ih =>
    obtain ⟨k, v⟩ := e
    obtain ⟨hk, hes⟩ := List.nodup_cons.1 hnodup
    rw [List.foldl_cons, ih _ hes, Entries.keys_cons]
    by_cases hmem : k ∈ s.keys
    · have hkeys : (s.insert k v).keys = s.keys := Entries.keys_insert_of_mem hmem
      rw [hkeys, List.filter_cons_of_neg (by simpa using hmem)]
    · have hkeys : (s.insert k v).keys = s.keys ++ [k] := Entries.keys_insert_of_not_mem hmem
      -- The new key is not among the later ones, so that it is no matter to them.
      have hlater : (Entries.keys es).filter (· ∉ s.keys ++ [k]) =
          (Entries.keys es).filter (· ∉ s.keys) := by
        refine List.filter_congr fun k' hk' => ?_
        have hne : k' ≠ k := fun heq => hk (heq ▸ hk')
        simp [hne]
      rw [hkeys, hlater, List.filter_cons_of_pos (by simpa using hmem), List.append_assoc,
        List.singleton_append]

/-! ## The two layers -/

/-- Settings in which what a store has lies over what its container has. -/
structure Layered (s : Settings) (name : String) (t : Settings) : Prop where
  /-- A key that the store has shows the store's value. -/
  own : ∀ key v, s.get? ("stores." ++ name ++ "." ++ key) = some v → t.get? key = some v
  /-- A key of the container that the store does not have shows the container's value. -/
  shared : ∀ key, s.get? ("stores." ++ name ++ "." ++ key) = none →
    key ∈ s.keysUnder "container." → t.get? key = s.get? key
  /-- No other key shows. -/
  absent : ∀ key, s.get? ("stores." ++ name ++ "." ++ key) = none →
    key ∉ s.keysUnder "container." → t.get? key = none
  /-- The container's keys come first, and after them those of the store's that are not among them.
  The store's keys are still distinct without the stem. -/
  keys : ∃ stripped : List String,
    stripped.map ("stores." ++ name ++ "." ++ ·) = s.keysUnder ("stores." ++ name ++ ".") ∧
    stripped.Nodup ∧
    t.keys = s.keysUnder "container." ++ stripped.filter (· ∉ s.keysUnder "container.")
  /-- No key occurs twice. -/
  nodup : t.keys.Nodup

/-- The view of a store has its two layers. -/
theorem layered_storeView (s : Settings) (name : String) : Layered s name (s.storeView name) where
  own key v hown := by
    rw [get?_storeView]
    show (s.get? ("stores." ++ name ++ "." ++ key)).or _ = _
    rw [hown, Option.some_or]
  shared key hown hkey := by
    obtain ⟨-, hstarts⟩ := List.mem_filter.1 hkey
    rw [get?_storeView, startsWith_eq, containerStem, if_pos hstarts]
    show (s.get? ("stores." ++ name ++ "." ++ key)).or _ = _
    rw [hown, Option.none_or]
  absent key hown hkey := by
    rw [get?_storeView, startsWith_eq, containerStem]
    show (s.get? ("stores." ++ name ++ "." ++ key)).or _ = _
    rw [hown, Option.none_or]
    split
    next hstarts =>
      have hmem : key ∉ s.keys := fun hmem => hkey (List.mem_filter.2 ⟨hmem, hstarts⟩)
      refine Option.eq_none_iff_forall_ne_some.2 fun v hv => hmem (mem_keys_iff.2 ⟨v, hv⟩)
    next => rfl
  keys := by
    refine ⟨(s.view (storeStem name)).keys, map_keys_view s _, (s.view (storeStem name)).nodup, ?_⟩
    rw [storeView, keys_overlay, keys_keep, containerStem]
  nodup := (s.storeView name).nodup

/-- The two layers decide the settings. -/
theorem Layered.unique {name : String} {u : Settings} (ht : Layered s name t)
    (hu : Layered s name u) : t = u := by
  refine ext_keys ?_ fun key => ?_
  · obtain ⟨ks, hks, -, htkeys⟩ := ht.keys
    obtain ⟨ks', hks', -, hukeys⟩ := hu.keys
    have hinj : Function.Injective ("stores." ++ name ++ "." ++ ·) := fun x y hxy => by
      simpa using hxy
    rw [htkeys, hukeys, List.map_injective_iff.2 hinj (hks.trans hks'.symm)]
  · cases hown : s.get? ("stores." ++ name ++ "." ++ key) with
    | some v => rw [ht.own key v hown, hu.own key v hown]
    | none =>
      by_cases hkey : key ∈ s.keysUnder "container."
      · rw [ht.shared key hown hkey, hu.shared key hown hkey]
      · rw [ht.absent key hown hkey, hu.absent key hown hkey]

/-- The view of a store is all that has the two layers. -/
theorem layered_iff {name : String} : Layered s name t ↔ t = s.storeView name :=
  ⟨fun h => h.unique (layered_storeView s name), fun h => h ▸ layered_storeView s name⟩

/-! ## The store's own value of a key of the container -/

variable {name : String} {v : Value}

/-- No key of a store is one of the container's. -/
theorem storeStem_append_ne (hkey : startsWith containerStem key = true) (name key' : String) :
    storeStem name ++ key' ≠ key := by
  rintro rfl
  have hstore : startsWith (storeStem name) (storeStem name ++ key') = true :=
    startsWith_iff.2 ⟨key', rfl⟩
  exact Bool.false_ne_true ((not_startsWith_containerStem hstore).symm.trans hkey)

/-- What the container has under a key does not show where the store has its own. -/
theorem get?_storeView_put_shared (hkey : startsWith containerStem key = true)
    (hown : s.get? (storeStem name ++ key) = some v) (v? : Option Value) (key' : String) :
    ((s.put key v?).storeView name).get? key' = (s.storeView name).get? key' := by
  rw [get?_storeView, get?_storeView, get?_put_of_ne s v? (storeStem_append_ne hkey name key')]
  by_cases heq : key' = key
  · rw [heq, hown, Option.some_or, Option.some_or]
  · rw [get?_put_of_ne s v? heq]

/-- What the store has of its own under a key shows as if the container had it. -/
theorem get?_storeView_move (hkey : startsWith containerStem key = true)
    (hown : s.get? (storeStem name ++ key) = some v) (key' : String) :
    (((s.put (storeStem name ++ key) none).put key (some v)).storeView name).get? key' =
      (s.storeView name).get? key' := by
  rw [get?_storeView, get?_storeView, get?_put_of_ne _ _ (storeStem_append_ne hkey name key')]
  by_cases heq : key' = key
  · rw [heq, get?_put_self, get?_put_self, if_pos hkey, hown]
    rfl
  · have hne : storeStem name ++ key' ≠ storeStem name ++ key := by simpa using heq
    rw [get?_put_of_ne s none hne]
    split
    next hcontainer =>
      have hne' : key' ≠ storeStem name ++ key := (storeStem_append_ne hcontainer name key).symm
      rw [get?_put_of_ne _ _ heq, get?_put_of_ne s none hne']
    next => rfl

end StoreTuning.Settings
