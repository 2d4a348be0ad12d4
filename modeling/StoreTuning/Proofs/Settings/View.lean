import StoreTuning.Proofs.Entries
import StoreTuning.Proofs.Settings.Lookup
import StoreTuning.Settings.View

/-!
# What a view shows

A view under a stem shows under each key what the settings hold under the stem and the key
(`Settings.get?_view`), and the view of a store shows the store's own settings before those of the
container (`Settings.get?_storeView`). A change of a key that is neither the container's nor the
store's does not show at all (`Settings.storeView_put`), and so neither do any number of them
(`Settings.storeView_edited`). Among names without a dot, no key is of two stores
(`Settings.name_eq_of_startsWith`).
-/

namespace StoreTuning.Settings

variable {s t : Settings} {stem key : String}

/-- A key starts with a stem when it is the stem and something after it. -/
theorem startsWith_iff : startsWith stem key = true ↔ ∃ rest, key = stem ++ rest := by
  rw [startsWith, Option.isSome_iff_exists]
  simp only [dropStem?_eq_some_iff]

/-- A view shows what is under the stem. -/
theorem get?_view (s : Settings) (stem key : String) :
    (s.view stem).get? key = s.get? (stem ++ key) := by
  refine Option.ext fun v => ?_
  rw [get?_eq_some_iff, get?_eq_some_iff]
  show (key, v) ∈ s.entries.filterMap _ ↔ _
  rw [List.mem_filterMap]
  constructor
  · rintro ⟨⟨k, w⟩, hmem, hv⟩
    obtain ⟨rest, hrest, heq⟩ := Option.map_eq_some_iff.1 hv
    cases heq
    rwa [← dropStem?_eq_some_iff.1 hrest]
  · intro hmem
    refine ⟨(stem ++ key, v), hmem, ?_⟩
    rw [dropStem?_eq_some_iff.2 rfl, Option.map_some]

/-- A view of a view is a view under both stems, one after the other. -/
theorem view_view (s : Settings) (stem stem' : String) :
    (s.view stem).view stem' = s.view (stem ++ stem') := by
  have hdrop : ∀ key, dropStem? (stem ++ stem') key =
      (dropStem? stem key).bind (dropStem? stem') := by
    intro key
    refine Option.ext fun rest => ?_
    simp only [Option.bind_eq_some_iff, dropStem?_eq_some_iff, exists_eq_right, String.append_assoc]
  refine ext_entries ?_
  show (s.entries.filterMap _).filterMap _ = s.entries.filterMap _
  rw [List.filterMap_filterMap]
  refine congrArg (s.entries.filterMap ·) (funext fun e => ?_)
  rw [hdrop]
  cases dropStem? stem e.1 <;> rfl

/-- A view under nothing shows everything. -/
theorem view_empty (s : Settings) : s.view "" = s := by
  refine ext_entries ?_
  have hdrop : ∀ key, dropStem? "" key = some key :=
    fun key => dropStem?_eq_some_iff.2 (String.empty_append).symm
  show s.entries.filterMap _ = s.entries
  simp only [hdrop, Option.map_some]
  exact List.filterMap_some

/-- The settings kept are those whose keys start with the stem. -/
theorem get?_keep (s : Settings) (stem key : String) :
    (s.keep stem).get? key = if startsWith stem key then s.get? key else none := by
  have hiff : ∀ v, (s.keep stem).get? key = some v ↔
      s.get? key = some v ∧ startsWith stem key = true := by
    intro v
    rw [get?_eq_some_iff, get?_eq_some_iff, keep, List.mem_filter]
  refine Option.ext fun v => (hiff v).trans ?_
  split
  next h => exact and_iff_left h
  next h => simp [h]

/-- What settings put over others hold comes before what was there. -/
theorem get?_overlay (s t : Settings) (key : String) :
    (s.overlay t).get? key = (t.get? key).or (s.get? key) := by
  obtain ⟨es, hnodup⟩ := t
  show (es.foldl (fun u e => u.insert e.1 e.2) s).get? key = (es.lookup key).or (s.get? key)
  induction es generalizing s with
  | nil => rfl
  | cons e es ih =>
    obtain ⟨k, v⟩ := e
    obtain ⟨hk, hes⟩ := List.nodup_cons.1 hnodup
    rw [List.foldl_cons, ih _ hes]
    by_cases h : key = k
    · -- No later entry has the key, so that this one stands.
      subst h
      have hnone : es.lookup key = none := by
        refine List.lookup_eq_none_iff.2 fun p hp => bne_iff_ne.2 fun heq => hk ?_
        exact List.mem_map.2 ⟨p, hp, heq.symm⟩
      rw [hnone, List.lookup_cons_self, get?_insert_self]
      rfl
    · rw [get?_insert_of_ne _ _ h, List.lookup_cons, beq_false_of_ne h]

/-- The view of a store shows what the store has under a key, and else what the container has. -/
theorem get?_storeView (s : Settings) (name key : String) :
    (s.storeView name).get? key = (s.get? (storeStem name ++ key)).or
      (if startsWith containerStem key then s.get? key else none) := by
  rw [storeView, get?_overlay, get?_view, get?_keep]

/-! ## Changes that do not show -/

/-- A change under a key that is filtered out is not noticed. -/
theorem filterMap_put {γ : Type} {f : String × Value → Option γ} (h : ∀ v, f (key, v) = none)
    (s : Settings) (v? : Option Value) :
    (s.put key v?).entries.filterMap f = s.entries.filterMap f := by
  cases v? with
  | some v => exact Entries.filterMap_insert h v s.entries
  | none =>
    have hf : ∀ e : String × Value, (if e.1 != key then f e else none) = f e := by
      rintro ⟨k, v⟩
      split
      next => rfl
      next hk => rw [show k = key by simpa using hk, h v]
    show (s.entries.filter fun e => e.1 != key).filterMap f = _
    rw [List.filterMap_filter, funext hf]

/-- A change under a key that does not start with the stem does not show in the view. -/
theorem view_put (h : startsWith stem key = false) (s : Settings) (v? : Option Value) :
    (s.put key v?).view stem = s.view stem := by
  have hdrop : dropStem? stem key = none := by simpa [startsWith] using h
  refine ext_entries (filterMap_put (fun v => ?_) s v?)
  rw [hdrop, Option.map_none]

/-- A change under a key that does not start with the stem does not show in what is kept. -/
theorem keep_put (h : startsWith stem key = false) (s : Settings) (v? : Option Value) :
    (s.put key v?).keep stem = s.keep stem := by
  refine ext_entries ?_
  show (s.put key v?).entries.filter _ = s.entries.filter _
  rw [← List.filterMap_eq_filter]
  refine filterMap_put (fun v => ?_) s v?
  rw [Option.guard_eq_none_iff, h]

/-- A key that the view of a store does not show: it is neither the container's nor the store's. -/
def Outside (name key : String) : Prop :=
  startsWith containerStem key = false ∧ startsWith (storeStem name) key = false

/-- A change outside of the view of a store does not show in it. -/
theorem storeView_put {name : String} (h : Outside name key) (s : Settings) (v? : Option Value) :
    (s.put key v?).storeView name = s.storeView name := by
  obtain ⟨hcontainer, hstore⟩ := h
  rw [storeView, keep_put hcontainer, view_put hstore, storeView]

/-- The settings after changes, each of which puts a value under a key or removes the key. -/
def edited (s : Settings) (changes : List (String × Option Value)) : Settings :=
  changes.foldl (fun u c => u.put c.1 c.2) s

/-- No number of changes outside of the view of a store shows in it. -/
theorem storeView_edited {name : String} {changes : List (String × Option Value)}
    (h : ∀ c ∈ changes, Outside name c.1) (s : Settings) :
    (s.edited changes).storeView name = s.storeView name := by
  induction changes generalizing s with
  | nil => rfl
  | cons c cs ih =>
    obtain ⟨hc, hcs⟩ := List.forall_mem_cons.1 h
    calc ((s.put c.1 c.2).edited cs).storeView name
        = (s.put c.1 c.2).storeView name := ih hcs _
      _ = s.storeView name := storeView_put hc s c.2

/-! ## Names without a dot -/

/-- A key of a store is none of the container's. -/
theorem not_startsWith_containerStem {name : String} (h : startsWith (storeStem name) key = true) :
    startsWith containerStem key = false := by
  obtain ⟨rest, rfl⟩ := startsWith_iff.1 h
  rw [← Bool.not_eq_true, startsWith_iff]
  rintro ⟨rest', heq⟩
  -- The two stems differ in their first letter.
  have hhead := congrArg (·.toList.head?) heq
  simp [storeStem, containerStem] at hhead

/-- Before the first dot of two equal texts there is the same. -/
theorem eq_of_append_dot {as bs cs ds : List Char} (ha : '.' ∉ as) (hb : '.' ∉ bs)
    (h : as ++ '.' :: cs = bs ++ '.' :: ds) : as = bs := by
  have htake : ∀ xs ys : List Char, '.' ∉ xs → (xs ++ '.' :: ys).takeWhile (· ≠ '.') = xs := by
    intro xs ys hx
    have hall : ∀ x ∈ xs, decide (x ≠ '.') = true := by
      intro x hmem
      exact decide_eq_true fun heq => hx (heq ▸ hmem)
    rw [List.takeWhile_append_of_pos hall]
    simp
  rw [← htake as cs ha, h, htake bs ds hb]

/-- No key is of two stores whose names have no dot. -/
theorem name_eq_of_startsWith {m n : String} (hm : '.' ∉ m.toList) (hn : '.' ∉ n.toList)
    (hmkey : startsWith (storeStem m) key = true) (hnkey : startsWith (storeStem n) key = true) :
    m = n := by
  obtain ⟨rest, hrest⟩ := startsWith_iff.1 hmkey
  obtain ⟨rest', hrest'⟩ := startsWith_iff.1 hnkey
  have hkey : storeStem m ++ rest = storeStem n ++ rest' := hrest.symm.trans hrest'
  have hchars := congrArg String.toList hkey
  simp only [storeStem, String.toList_append, List.append_assoc] at hchars
  exact String.toList_inj.1 (eq_of_append_dot hm hn (List.append_cancel_left hchars))

/-- A key of one store is outside of the view of another, when their names have no dot. -/
theorem outside_of_startsWith {m n : String} (hne : n ≠ m) (hn : '.' ∉ n.toList)
    (hm : '.' ∉ m.toList) (h : startsWith (storeStem m) key = true) : Outside n key := by
  refine ⟨not_startsWith_containerStem h, ?_⟩
  rw [← Bool.not_eq_true]
  exact fun hnkey => hne (name_eq_of_startsWith hn hm hnkey h)

/-! ## Settings that agree where the view looks -/

/-- The view of a store depends on the entries of the container's keys and the store's only. -/
theorem get?_storeView_congr {name : String}
    (h : ∀ key, ¬ Outside name key → s.get? key = t.get? key) (key : String) :
    (s.storeView name).get? key = (t.storeView name).get? key := by
  have hstore : startsWith (storeStem name) (storeStem name ++ key) = true :=
    startsWith_iff.2 ⟨key, rfl⟩
  rw [get?_storeView, get?_storeView, h (storeStem name ++ key) (fun hout => ?_)]
  · split
    next hcontainer =>
      rw [h key fun hout => Bool.false_ne_true (hout.1.symm.trans hcontainer)]
    next => rfl
  · exact Bool.false_ne_true (hout.2.symm.trans hstore)

end StoreTuning.Settings
