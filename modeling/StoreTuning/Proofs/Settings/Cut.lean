import StoreTuning.Proofs.Settings.Unflatten
import StoreTuning.Proofs.Settings.View

/-!
# Cutting a table out

A table in a nested table can be cut out before the flattening, by following the names that lead to
it, or after it, by a view under those names. It comes to the same when every key is a plain name,
to the order of the keys (`Settings.view_ofNested`): a name that is the beginning of another, and
what is no table though a table is looked for, leave nothing behind. So the view of a store shows
what its own table holds, and for the rest what the container's holds
(`Settings.storeView_ofTop`).

The leaves of a table below one of its keys are found by their paths (`Settings.filterMap_below?`),
and the paths by the stem of their flat keys (`Settings.dropStem?_flatKey`).
-/

namespace StoreTuning.Settings

variable {name : String} {table sub : List (Scalar × Value)} {path : List String}

/-- The table that is reached from a table by names, if there is one under each of them. -/
def tableAt? : List String → List (Scalar × Value) → Option (List (Scalar × Value))
  | [], table => some table
  | name :: path, table =>
    match table.lookup (.text name) with
    | some (.map sub) => tableAt? path sub
    | _ => none

/-- The stem of the flat keys below some names. -/
def stemOf : List String → String
  | [] => ""
  | name :: path => name ++ "." ++ stemOf path

/-! ## Tables with plain keys -/

/-- What stands under a key of a table with plain keys has plain keys too. -/
theorem plainValue_of_lookup {v : Value} (h : PlainTable table)
    (hv : table.lookup (.text name) = some v) : NamedValue PlainName v := by
  induction table with
  | nil => cases hv
  | cons e table ih =>
    obtain ⟨k, w⟩ := e
    obtain ⟨-, -, hw, htable⟩ := h
    rw [List.lookup_cons] at hv
    split at hv
    · cases hv
      exact hw
    · exact ih htable hv

theorem tableUnder_cons_self (name : String) (v : Value) (table : List (Scalar × Value)) :
    tableUnder name ((.text name, v) :: table) =
      match v with
      | .map sub => sub
      | _ => [] := by
  rw [tableUnder, List.lookup_cons, Scalar.text_beq, decide_eq_true rfl]
  cases v <;> rfl

theorem tableUnder_cons_of_ne {first : String} (h : first ≠ name) (v : Value)
    (table : List (Scalar × Value)) :
    tableUnder name ((.text first, v) :: table) = tableUnder name table := by
  have hkey : Scalar.text first ≠ .text name := fun heq => h (Scalar.text.inj heq)
  rw [tableUnder, List.lookup_cons, Scalar.text_beq, decide_eq_false hkey, tableUnder]

/-- A table with plain keys under a plain name makes a table with plain keys. -/
theorem plainTable_around (hname : PlainName name) (h : PlainTable sub) :
    PlainTable [(.text name, .map sub)] :=
  ⟨⟨name, rfl, hname⟩, nofun, h, trivial⟩

/-- The table under a name has plain keys if the table around it has. -/
theorem plainTable_tableUnder (h : PlainTable table) (name : String) :
    PlainTable (tableUnder name table) := by
  unfold tableUnder
  split
  next sub hsub => exact plainValue_of_lookup h hsub
  next => trivial

/-- What is reached below a name is reached from the table under it. -/
theorem getD_tableAt?_cons (name : String) (path : List String) (table : List (Scalar × Value)) :
    (tableAt? (name :: path) table).getD [] = (tableAt? path (tableUnder name table)).getD [] := by
  rw [tableAt?, tableUnder]
  cases table.lookup (.text name) with
  | none => cases path <;> rfl
  | some v =>
    cases v with
    | map sub => rfl
    | scalar s => cases path <;> rfl
    | list xs => cases path <;> rfl

/-- A table that is reached has plain keys. -/
theorem plainTable_of_tableAt? (h : PlainTable table) (hsub : tableAt? path table = some sub) :
    PlainTable sub := by
  induction path generalizing table with
  | nil =>
    cases hsub
    exact h
  | cons name path ih =>
    rw [tableAt?] at hsub
    split at hsub
    next table' hlookup => exact ih (plainValue_of_lookup h hlookup) hsub
    next => cases hsub

/-! ## Leaves below a name -/

/-- What is left of a path below a name, if it goes on below it. -/
def below? (name : String) : List String → Option (List String)
  | first :: next :: path => if first = name then some (next :: path) else none
  | _ => none

theorem below?_cons_self (h : path ≠ []) : below? name (name :: path) = some path := by
  cases path with
  | nil => exact absurd rfl h
  | cons next path => rw [below?, if_pos rfl]

theorem below?_cons_of_ne {first : String} (h : first ≠ name) (path : List String) :
    below? name (first :: path) = none := by
  cases path with
  | nil => rfl
  | cons next path => rw [below?, if_neg h]

/-- The leaves of a table below a name are those of the table under it. -/
theorem filterMap_below? (name : String) (h : PlainTable table) :
    (leafPaths table).filterMap (fun l => (below? name l.1).map (·, l.2)) =
      leafPaths (tableUnder name table) := by
  induction table with
  | nil => rfl
  | cons e table ih =>
    obtain ⟨k, v⟩ := e
    obtain ⟨⟨first, rfl, -⟩, hdistinct, -, htable⟩ := h
    rw [leafPaths, List.filterMap_append, ih htable, List.filterMap_map]
    by_cases hfirst : first = name
    · subst hfirst
      -- The name is not a key once more, so that nothing else is below it.
      have hnone : tableUnder first table = [] := by
        rw [tableUnder, lookup_text_of_fresh hdistinct]
      rw [hnone, tableUnder_cons_self]
      cases v with
      | map sub =>
        have hall : ∀ l ∈ leafPaths sub, (below? first (first :: l.1)).map (·, l.2) = some l :=
          fun l hl => by rw [below?_cons_self (ne_nil_of_mem_leafPaths hl), Option.map_some]
        calc (leafPaths sub).filterMap _ ++ leafPaths []
            = (leafPaths sub).filterMap some ++ [] := by rw [← List.filterMap_congr hall]; rfl
          _ = leafPaths sub := by rw [List.filterMap_some, List.append_nil]
      | scalar s => rfl
      | list xs => rfl
    · have hskip : ∀ l ∈ leafPathsOf v, (below? name (first :: l.1)).map (·, l.2) = none :=
        fun l _ => by rw [below?_cons_of_ne hfirst, Option.map_none]
      rw [tableUnder_cons_of_ne hfirst]
      exact congrArg (· ++ _) (List.filterMap_eq_nil_iff.2 hskip)

/-! ## Flat keys below a name -/

/-- What has no dot is below no name. -/
theorem dropStem?_of_not_mem {key : String} (h : '.' ∉ key.toList) (name : String) :
    dropStem? (name ++ ".") key = none := by
  refine Option.eq_none_iff_forall_ne_some.2 fun rest hrest => h ?_
  rw [dropStem?_eq_some_iff.1 hrest]
  simp

/-- The flat key of two names and more is the first of them, a dot, and the flat key of the rest. -/
theorem flatKey_cons_cons {first next : String} (hfirst : first ≠ "") (hnext : next ≠ "")
    (path : List String) :
    flatKey (first :: next :: path) = first ++ "." ++ flatKey (next :: path) := by
  rw [flatKey, flatKey, List.dropWhile_cons_of_neg (by simpa using hfirst),
    List.dropWhile_cons_of_neg (by simpa using hnext), String.intercalate_cons_cons]

/-- The flat key of plain names has the stem of a name exactly when the names go on below it. -/
theorem dropStem?_flatKey (hname : PlainName name) (h : ∀ part ∈ path, PlainName part) :
    dropStem? (name ++ ".") (flatKey path) = (below? name path).map flatKey := by
  match path with
  | [] => exact dropStem?_of_not_mem (by simp [flatKey]) name
  | [first] =>
    obtain ⟨hfirst, hdot⟩ := h first List.mem_cons_self
    have hkey : flatKey [first] = first := by
      rw [flatKey, List.dropWhile_cons_of_neg (by simpa using hfirst)]
      simp
    rw [hkey, dropStem?_of_not_mem hdot]
    rfl
  | first :: next :: path =>
    obtain ⟨⟨hfirst, hdot⟩, hrest⟩ := List.forall_mem_cons.1 h
    obtain ⟨hnext, -⟩ := hrest next List.mem_cons_self
    rw [flatKey_cons_cons hfirst hnext]
    by_cases heq : first = name
    · rw [heq, dropStem?_eq_some_iff.2 rfl, below?_cons_self (List.cons_ne_nil _ _),
        Option.map_some]
    · rw [below?_cons_of_ne heq, Option.map_none]
      refine Option.eq_none_iff_forall_ne_some.2 fun rest hdrop => heq ?_
      have hchars := congrArg String.toList (dropStem?_eq_some_iff.1 hdrop)
      simp only [String.toList_append, List.append_assoc] at hchars
      exact String.toList_inj.1 (eq_of_append_dot hdot hname.2 hchars)

/-! ## Cutting before and after the flattening -/

/-- The settings below a name are those of the table under it. -/
theorem view_ofNested_name (h : PlainTable table) (hname : PlainName name) :
    (ofNested table).view (name ++ ".") = ofNested (tableUnder name table) := by
  have hleaf : ∀ l ∈ leafPaths table,
      (dropStem? (name ++ ".") (flatKey l.1)).map (·, l.2) =
        ((below? name l.1).map (·, l.2)).map fun l => (flatKey l.1, l.2) := by
    intro l hl
    rw [dropStem?_flatKey hname (h.rule_of_mem_leafPaths l hl), Option.map_map,
      Option.map_map]
    rfl
  refine ext_entries ?_
  calc ((ofNested table).view (name ++ ".")).entries
      = stripEntries (name ++ ".") (flatLeaves table) := by
        rw [← entries_ofNested_of_plain h]
        rfl
    _ = (leafPaths table).filterMap fun l =>
          (dropStem? (name ++ ".") (flatKey l.1)).map (·, l.2) := by
        rw [stripEntries, flatLeaves, List.filterMap_map]
        rfl
    _ = flatLeaves (tableUnder name table) := by
        rw [List.filterMap_congr hleaf, ← List.map_filterMap, filterMap_below? name h, flatLeaves]
    _ = (ofNested (tableUnder name table)).entries :=
        (entries_ofNested_of_plain (plainTable_tableUnder h name)).symm

/-- The settings below some names are those of the table that the names lead to, and there are none
where they lead to no table. -/
theorem view_ofNested (h : PlainTable table) (hpath : ∀ part ∈ path, PlainName part) :
    (ofNested table).view (stemOf path) = ofNested ((tableAt? path table).getD []) := by
  induction path generalizing table with
  | nil => exact view_empty _
  | cons name path ih =>
    obtain ⟨hname, hrest⟩ := List.forall_mem_cons.1 hpath
    rw [stemOf, ← view_view, view_ofNested_name h hname, ih (plainTable_tableUnder h name) hrest,
      getD_tableAt?_cons]

/-! ## The view of a store -/

/-- A table with plain keys is flattened to what it holds, and to nothing else. -/
theorem ofTop_eq_ok_iff (p : Path) (h : PlainTable table) {t : Settings} :
    ofTop p (.map table) = .ok t ↔ t = ofNested table := by
  rw [ofTop_of_within (h.keysWithinDigitLimit), Except.ok.injEq, eq_comm]

/-- Below a name there is under a key what the table under the name holds under the rest of it. -/
theorem get?_ofNested_below (h : PlainTable table) (hname : PlainName name) (rest : String) :
    (ofNested table).get? (name ++ "." ++ rest) =
      (ofNested (tableUnder name table)).get? rest := by
  rw [← get?_view, view_ofNested_name h hname]

/-- A table in a table that has nothing else leaves only keys that start with its name. -/
theorem startsWith_of_get?_singleton (hname : PlainName name) (h : PlainTable sub) {key : String}
    {v : Value} (hv : (ofNested [(.text name, .map sub)]).get? key = some v) :
    startsWith (name ++ ".") key = true := by
  rw [get?_eq_some_iff, entries_ofNested_of_plain (plainTable_around hname h)] at hv
  obtain ⟨l, hl, heq⟩ := List.mem_map.1 hv
  obtain ⟨m, hm, rfl⟩ : ∃ m ∈ leafPaths sub, (name :: m.1, m.2) = l := by
    rw [leafPaths, leafPaths, List.append_nil] at hl
    exact List.mem_map.1 hl
  have hdrop : dropStem? (name ++ ".") (flatKey (name :: m.1)) = some (flatKey m.1) := by
    have hnames := h.rule_of_mem_leafPaths m hm
    rw [dropStem?_flatKey hname (List.forall_mem_cons.2 ⟨hname, hnames⟩),
      below?_cons_self (ne_nil_of_mem_leafPaths hm), Option.map_some]
  cases heq
  rw [startsWith, hdrop, Option.isSome_some]

/-- The settings that are kept under a name are those of the table under it, with nothing around it
but the name. -/
theorem get?_keep_ofNested (h : PlainTable table) (hname : PlainName name) (key : String) :
    ((ofNested table).keep (name ++ ".")).get? key =
      (tableAt? [name] table).bind fun sub => (ofNested [(.text name, .map sub)]).get? key := by
  have hunder : tableUnder name table = (tableAt? [name] table).getD [] :=
    (getD_tableAt?_cons name [] table).symm
  rw [get?_keep]
  cases hsub : tableAt? [name] table with
  | none =>
    rw [hsub, Option.getD_none] at hunder
    split
    next hstarts =>
      obtain ⟨rest, rfl⟩ := startsWith_iff.1 hstarts
      rw [get?_ofNested_below h hname, hunder]
      rfl
    next => rfl
  | some sub =>
    rw [hsub, Option.getD_some] at hunder
    have hplain : PlainTable sub := plainTable_of_tableAt? h hsub
    rw [Option.bind_some]
    split
    next hstarts =>
      obtain ⟨rest, rfl⟩ := startsWith_iff.1 hstarts
      rw [get?_ofNested_below h hname, get?_ofNested_below (plainTable_around hname hplain) hname,
        hunder, tableUnder_cons_self]
    next hstarts =>
      refine (Option.eq_none_iff_forall_ne_some.2 fun v hv => hstarts ?_).symm
      exact startsWith_of_get?_singleton hname hplain hv

/-- A key of the view of a store shows what the table of the store holds, and else what the table of
the container holds. -/
theorem get?_storeView_ofNested (h : PlainTable table) (hname : PlainName name) (key : String) :
    ((ofNested table).storeView name).get? key =
      ((tableAt? ["stores", name] table).bind fun sub => (ofNested sub).get? key).or
        ((tableAt? ["container"] table).bind fun sub =>
          (ofNested [(.text "container", .map sub)]).get? key) := by
  have hpath : ∀ part ∈ ["stores", name], PlainName part := by
    simpa [PlainName] using hname
  have hstem : storeStem name = stemOf ["stores", name] := by
    simp [storeStem, stemOf, String.append_assoc]
  have hcontainer : containerStem = "container" ++ "." := rfl
  rw [storeView, get?_overlay, hstem, view_ofNested h hpath, hcontainer,
    get?_keep_ofNested h ⟨by decide, by decide⟩]
  cases tableAt? ["stores", name] table <;> rfl

/-- What a key shows in the view of a store that is cut out of a nested table. -/
inductive Shows (p : Path) (table : List (Scalar × Value)) (name key : String) :
    Option Value → Prop where
  /-- It shows what the table of the store has under it. -/
  | own {sub : List (Scalar × Value)} {t : Settings} {v : Value}
    (hsub : tableAt? ["stores", name] table = some sub) (ht : ofTop p (.map sub) = .ok t)
    (hv : t.get? key = some v) : Shows p table name key (some v)
  /-- If the store has no table, or one without the key, it shows what the table of the container
  has under the key when nothing is around it. -/
  | shared {sub : List (Scalar × Value)} {t : Settings}
    (hown : ∀ sub t, tableAt? ["stores", name] table = some sub → ofTop p (.map sub) = .ok t →
      t.get? key = none)
    (hsub : tableAt? ["container"] table = some sub)
    (ht : ofTop p (.map [(.text "container", .map sub)]) = .ok t) :
    Shows p table name key (t.get? key)
  /-- If there is no table of the container either, it shows nothing. -/
  | nothing
    (hown : ∀ sub t, tableAt? ["stores", name] table = some sub → ofTop p (.map sub) = .ok t →
      t.get? key = none)
    (hsub : tableAt? ["container"] table = none) : Shows p table name key none

/-- What a key shows is what the store's table has under it, or else what the container's has. -/
theorem shows_iff (p : Path) (h : PlainTable table) {key : String} {x : Option Value} :
    Shows p table name key x ↔
      ((tableAt? ["stores", name] table).bind fun sub => (ofNested sub).get? key).or
        ((tableAt? ["container"] table).bind fun sub =>
          (ofNested [(.text "container", .map sub)]).get? key) = x := by
  have hplain : ∀ {path sub}, tableAt? path table = some sub → PlainTable sub :=
    plainTable_of_tableAt? h
  have haround : ∀ {sub}, tableAt? ["container"] table = some sub →
      PlainTable [(.text "container", .map sub)] :=
    fun hsub => plainTable_around ⟨by decide, by decide⟩ (hplain hsub)
  have hown : (∀ sub t, tableAt? ["stores", name] table = some sub → ofTop p (.map sub) = .ok t →
      t.get? key = none) ↔
        ((tableAt? ["stores", name] table).bind fun sub => (ofNested sub).get? key) = none := by
    rw [Option.bind_eq_none_iff]
    constructor
    · exact fun hnone sub hsub => hnone sub _ hsub ((ofTop_eq_ok_iff p (hplain hsub)).2 rfl)
    · intro hnone sub t hsub ht
      obtain rfl := (ofTop_eq_ok_iff p (hplain hsub)).1 ht
      exact hnone sub hsub
  constructor
  · intro hshows
    cases hshows with
    | own hsub ht hv =>
      obtain rfl := (ofTop_eq_ok_iff p (hplain hsub)).1 ht
      rw [hsub, Option.bind_some, hv, Option.some_or]
    | shared hnone hsub ht =>
      obtain rfl := (ofTop_eq_ok_iff p (haround hsub)).1 ht
      rw [hown.1 hnone, Option.none_or, hsub, Option.bind_some]
    | nothing hnone hsub => rw [hown.1 hnone, hsub, Option.bind_none, Option.none_or]
  · rintro rfl
    cases hv : (tableAt? ["stores", name] table).bind fun sub => (ofNested sub).get? key with
    | some v =>
      obtain ⟨sub, hsub, hget⟩ := Option.bind_eq_some_iff.1 hv
      exact .own hsub ((ofTop_eq_ok_iff p (hplain hsub)).2 rfl) hget
    | none =>
      cases hsub : tableAt? ["container"] table with
      | none => exact .nothing (hown.2 hv) hsub
      | some sub => exact .shared (hown.2 hv) hsub ((ofTop_eq_ok_iff p (haround hsub)).2 rfl)

/-- To cut a store out of a nested table with plain keys, and to flatten the table, come to the same
in either order. The view under the store's name is the flattening of the store's table, to the
order of the keys, and it is empty where there is no such table. A key of the view of the store
shows what is in the store's table, or else what is in the container's, or else nothing. -/
theorem storeView_ofTop (p : Path) (h : PlainTable table) (hname : PlainName name) :
    ∃ s, ofTop p (.map table) = .ok s ∧
      (∀ sub, tableAt? ["stores", name] table = some sub →
        ofTop p (.map sub) = .ok (s.view ("stores." ++ name ++ "."))) ∧
      (tableAt? ["stores", name] table = none →
        (s.view ("stores." ++ name ++ ".")).entries = []) ∧
      ∀ key x, Shows p table name key x ↔ (s.storeView name).get? key = x := by
  have hpath : ∀ part ∈ ["stores", name], PlainName part := by
    simpa [PlainName] using hname
  have hstem : "stores." ++ name ++ "." = stemOf ["stores", name] := by
    simp [stemOf, String.append_assoc]
  have hview := view_ofNested h hpath
  refine ⟨ofNested table, (ofTop_eq_ok_iff p h).2 rfl, fun sub hsub => ?_, fun hsub => ?_,
    fun key x => ?_⟩
  · rw [hstem, hview, hsub, ofTop_eq_ok_iff p (plainTable_of_tableAt? h hsub)]
    rfl
  · rw [hstem, hview, hsub]
    rfl
  · rw [shows_iff p h, get?_storeView_ofNested h hname]

/-- A nested table with two stores, where the name of one begins with that of the other, and with a
text where a store's table is looked for. -/
def nestedStores : List (Scalar × Value) := [
  (.text "stores", .map [
    (.text "ab", .map [(.text "x", .int 1)]),
    (.text "a", .map [(.text "wal", .map [(.text "enabled", .bool true)]), (.text "none", .map []),
      (.text "container", .map [(.text "size", .int 2)])]),
    (.text "abc", .text "x")]),
  (.text "a", .map [(.text "x", .int 3)]),
  (.text "container", .map [(.text "size", .int 4), (.text "cache", .map [(.text "size", .null)])])]

/-- The store with the shorter name has its own keys only, and the one that is a text has none. The
store's own key of the container comes before the container's. -/
theorem storeView_ofTop_nestedStores :
    PlainTable nestedStores ∧
    ∃ s, ofTop (.ofText "c.toml") (.map nestedStores) = .ok s ∧
      (s.view "stores.a.").entries = [("wal.enabled", .bool true), ("container.size", .int 2)] ∧
      (s.view "stores.abc.").entries = [] ∧
      (s.storeView "a").get? "container.size" = some (.int 2) ∧
      (s.storeView "a").get? "container.cache.size" = some .null ∧
      (s.storeView "a").get? "x" = none := by
  have hplain : PlainTable nestedStores := by
    simp [nestedStores, NamedTable, NamedValue, PlainName]
  have hname : PlainName "a" ∧ PlainName "abc" ∧ PlainName "container" := by simp [PlainName]
  obtain ⟨s, hs, hview, -, hshows⟩ := storeView_ofTop (.ofText "c.toml") hplain hname.1
  obtain ⟨s', hs', -, hempty, -⟩ := storeView_ofTop (.ofText "c.toml") hplain hname.2.1
  cases hs.symm.trans hs'
  have hreached : ∀ path sub, tableAt? path nestedStores = some sub → PlainTable sub :=
    fun _ _ => plainTable_of_tableAt? hplain
  have hown : ofTop (.ofText "c.toml") (.map _) = .ok (s.view "stores.a.") := hview _ rfl
  have hsame := (ofTop_eq_ok_iff _ (hreached ["stores", "a"] _ rfl)).1 hown
  -- The store's own table has neither of the last two keys.
  have hlacks : ∀ key, (s.view "stores.a.").get? key = none → ∀ sub t,
      tableAt? ["stores", "a"] nestedStores = some sub →
        ofTop (.ofText "c.toml") (.map sub) = .ok t → t.get? key = none := by
    intro key hkey sub t hsub ht
    cases hsub
    cases hown.symm.trans ht
    exact hkey
  have haround := (ofTop_eq_ok_iff (.ofText "c.toml")
    (plainTable_around hname.2.2 (hreached ["container"] _ rfl))).2 rfl
  refine ⟨hplain, s, hs, ?_, hempty rfl, ?_, ?_, ?_⟩
  · rw [hsame]
    rfl
  · exact (hshows _ _).1 (.own rfl hown (by rw [hsame]; rfl))
  · exact (hshows _ _).1 (.shared (hlacks _ (by rw [hsame]; rfl)) rfl haround)
  · exact (hshows _ _).1 (.shared (hlacks _ (by rw [hsame]; rfl)) rfl haround)

end StoreTuning.Settings
