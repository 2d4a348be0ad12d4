import StoreTuning.Proofs.Entries
import StoreTuning.Proofs.Settings.Lookup
import StoreTuning.Settings.File

/-!
# Flattening by paths

The leaves of a nested table are listed with the texts of all the keys above them
(`Settings.leafPaths`), and the flat key of a leaf joins those texts with dots, the empty ones at
the start left out (`Settings.flatKey`). Joining key by key on the way down comes to the same
(`Settings.leaves_eq`), so that a nested table is flattened to what its leaves give under their flat
keys, inserted one after the other (`Settings.ofTop_flattening`): a flat key that comes again keeps
its first place and takes the last value.

Flattening needs the text of every key, and an integer of more than 4300 digits has none: a table
with such a key is refused, even where there is no leaf below it (`Settings.longKey_fails`).
-/

namespace StoreTuning

/-- Whether a value is a table. -/
def Value.isTable : Value → Bool
  | .map _ => true
  | _ => false

namespace Settings

mutual

/-- The leaves of a nested table in depth-first order, each with the texts of the keys above it. A
leaf is any value but a table, so that a list is one leaf and an empty table has none. -/
def leafPaths : List (Scalar × Value) → List (List String × Value)
  | [] => []
  | (k, v) :: es => (leafPathsOf v).map (fun l => (k.toText :: l.1, l.2)) ++ leafPaths es

/-- The leaves of a value, each with the texts of the keys above it within the value. -/
def leafPathsOf : Value → List (List String × Value)
  | .map es => leafPaths es
  | .scalar s => [([], .scalar s)]
  | .list xs => [([], .list xs)]

end

/-- The flat key of a path: its texts joined by dots, without the empty ones at its start. -/
def flatKey (path : List String) : String :=
  ".".intercalate (path.dropWhile String.isEmpty)

/-- The leaves of a nested table in depth-first order, each with its flat key. -/
def flatLeaves (table : List (Scalar × Value)) : List (String × Value) :=
  (leafPaths table).map fun l => (flatKey l.1, l.2)

/-! ## Joining on the way down -/

theorem joinPath_of_ne {path : String} (h : path ≠ "") (key : String) :
    joinPath path key = path ++ "." ++ key := by
  rw [joinPath, if_neg (by simpa using h)]

/-- Below a path that is not empty, each further key comes after a dot. -/
theorem foldl_joinPath_of_ne {path : String} (h : path ≠ "") (keys : List String) :
    keys.foldl joinPath path = ".".intercalate (path :: keys) := by
  induction keys generalizing path with
  | nil => simp
  | cons key keys ih =>
    have hne : path ++ "." ++ key ≠ "" := by simp
    calc (key :: keys).foldl joinPath path
        = keys.foldl joinPath (path ++ "." ++ key) := by rw [List.foldl_cons, joinPath_of_ne h]
      _ = ".".intercalate ((path ++ "." ++ key) :: keys) := ih hne
      _ = ".".intercalate (path :: key :: keys) := by
        rw [String.intercalate_cons_append, String.intercalate_cons_cons]

/-- The keys on the way down from the top are joined to the flat key. -/
theorem foldl_joinPath_empty (keys : List String) : keys.foldl joinPath "" = flatKey keys := by
  induction keys with
  | nil => rfl
  | cons key keys ih =>
    have hjoin : joinPath "" key = key := rfl
    rw [List.foldl_cons, hjoin, flatKey]
    by_cases hkey : key = ""
    · -- An empty key leaves the path empty, as if still at the top.
      rw [hkey, ih, List.dropWhile_cons_of_pos rfl, flatKey]
    · rw [foldl_joinPath_of_ne hkey, List.dropWhile_cons_of_neg (by simpa using hkey)]

mutual

/-- The leaves below a path are those of the table, with the keys above each joined to the path. -/
theorem leaves_eq_map (path : String) : ∀ es : List (Scalar × Value),
    leaves path es = (leafPaths es).map fun l => (l.1.foldl joinPath path, l.2)
  | [] => rfl
  | (k, v) :: es => by
    have hv := leavesOf_eq_map (joinPath path k.toText) v
    have hes := leaves_eq_map path es
    rw [leaves, leafPaths, List.map_append, List.map_map, hv, hes]
    rfl

/-- The leaves of a value at a path, with the keys above each joined to the path. -/
theorem leavesOf_eq_map (path : String) : ∀ v : Value,
    leavesOf path v = (leafPathsOf v).map fun l => (l.1.foldl joinPath path, l.2)
  | .map es => leaves_eq_map path es
  | .scalar _ => rfl
  | .list _ => rfl

end

/-- The leaves of a nested table are those of its paths, each under its flat key. -/
theorem leaves_eq (table : List (Scalar × Value)) : leaves "" table = flatLeaves table := by
  rw [leaves_eq_map, flatLeaves]
  simp only [foldl_joinPath_empty]

mutual

/-- A leaf of a table is no table. -/
theorem isTable_of_mem_leafPaths : ∀ es : List (Scalar × Value), ∀ l ∈ leafPaths es,
    l.2.isTable = false
  | [], l, h => by cases h
  | (k, v) :: es, l, h => by
    rw [leafPaths, List.mem_append, List.mem_map] at h
    obtain ⟨m, hm, rfl⟩ | h := h
    · exact isTable_of_mem_leafPathsOf v m hm
    · exact isTable_of_mem_leafPaths es l h

/-- A leaf of a value is no table. -/
theorem isTable_of_mem_leafPathsOf : ∀ v : Value, ∀ l ∈ leafPathsOf v, l.2.isTable = false
  | .map es, l, h => isTable_of_mem_leafPaths es l h
  | .scalar s, l, h => by
    cases List.mem_singleton.1 h
    rfl
  | .list xs, l, h => by
    cases List.mem_singleton.1 h
    rfl

end

/-! ## The flattened table -/

/-- Settings are the flattening of a nested table: its leaves in depth-first order, inserted one
after the other under their flat keys. -/
structure Flattening (table : List (Scalar × Value)) (s : Settings) : Prop where
  /-- Each flat key has the place where it comes first. -/
  keys : s.keys = ((flatLeaves table).map Prod.fst).eraseDups
  /-- Each flat key has the value that it comes with last, and no other key has a value. -/
  get? : ∀ key, s.get? key = (flatLeaves table).reverse.lookup key
  /-- No table is stored. -/
  leaf : ∀ e ∈ s.entries, e.2.isTable = false

/-- A nested table has one flattening. -/
theorem Flattening.eq {table : List (Scalar × Value)} {s t : Settings} (hs : Flattening table s)
    (ht : Flattening table t) : s = t :=
  ext_keys (hs.keys.trans ht.keys.symm) fun key => (hs.get? key).trans (ht.get? key).symm

/-- What a nested table holds is its flattening. -/
theorem ofNested_flattening (table : List (Scalar × Value)) :
    Flattening table (ofNested table) := by
  have hentries : (ofNested table).entries = Entries.ofList (flatLeaves table) := by
    rw [← leaves_eq]
    rfl
  have hget : ∀ key, (ofNested table).get? key = (flatLeaves table).reverse.lookup key := by
    intro key
    rw [get?, hentries, Entries.lookup_ofList]
  refine ⟨?_, hget, fun e he => ?_⟩
  · rw [Settings.keys, hentries, Entries.keys_ofList]
    rfl
  · -- What is stored is the value of some leaf.
    have hlookup : (flatLeaves table).reverse.lookup e.1 = some e.2 := by
      rw [← hget, get?_eq_some_iff]
      exact he
    have hmem : e ∈ flatLeaves table := by
      obtain ⟨before, after, heq, -⟩ := List.lookup_eq_some_iff.1 hlookup
      rw [← List.mem_reverse, heq]
      exact List.mem_append_right before List.mem_cons_self
    obtain ⟨l, hl, rfl⟩ := List.mem_map.1 hmem
    exact isTable_of_mem_leafPaths table l hl

/-- A table at the top whose keys all have a text gives what it holds. -/
theorem ofTop_of_within {table : List (Scalar × Value)} (h : keysWithinDigitLimit table = true)
    (p : Path) : ofTop p (.map table) = .ok (ofNested table) := by
  rw [ofTop, if_pos h]

/-- A table at the top with a key that has no text is refused. -/
theorem ofTop_of_not_within {table : List (Scalar × Value)}
    (h : keysWithinDigitLimit table = false) (p : Path) :
    ofTop p (.map table) = .error .unprintable := by
  rw [ofTop, if_neg (Bool.eq_false_iff.1 h)]

/-- A nested table gives its flattening, and only that, if each of its keys, and of those of the
tables in it, has a text. An integer of more than 4300 digits has none, and a table with such a key
is refused. -/
theorem ofTop_flattening (p : Path) (table : List (Scalar × Value)) :
    (keysWithinDigitLimit table = true →
      ∃ s, ofTop p (.map table) = .ok s ∧ ∀ t, Flattening table t ↔ t = s) ∧
    (keysWithinDigitLimit table = false → ofTop p (.map table) = .error .unprintable) := by
  constructor
  · intro h
    refine ⟨ofNested table, ofTop_of_within h p, fun t => ⟨fun ht => ?_, fun ht => ?_⟩⟩
    · exact ht.eq (ofNested_flattening table)
    · exact ht ▸ ofNested_flattening table
  · exact fun h => ofTop_of_not_within h p

/-- A nested table in which two leaves have one flat key, and one leaf is below an empty key. -/
def spelledTable : List (Scalar × Value) := [
  (.int 1, .map [(.text "a.b", .int 5)]),
  (.text "", .map [(.bool true, .list [.map [(.text "c", .null)]])]),
  (.text "1", .map [(.text "a", .map [(.text "b", .text "x")]), (.null, .map [])])]

/-- A nested table without leaves, with a key that is an integer of 4817 digits. -/
def longKey : List (Scalar × Value) :=
  [(.text "a", .map [(.int (.ofNat (Nat.pow 16 4000 - 1)), .map [])])]

/-- The two leaves leave the place of the first with the value of the second, and the empty key is
left out. The long key is refused. -/
theorem ofTop_flattening_spelledTable :
    ∃ s, ofTop (.ofText "c.yaml") (.map spelledTable) = .ok s ∧ Flattening spelledTable s ∧
      s.entries = [("1.a.b", .text "x"), ("True", .list [.map [(.text "c", .null)]])] ∧
      ofTop (.ofText "c.yaml") (.map longKey) = .error .unprintable := by
  obtain ⟨hflattening, -⟩ := ofTop_flattening (.ofText "c.yaml") spelledTable
  obtain ⟨-, hrefused⟩ := ofTop_flattening (.ofText "c.yaml") longKey
  have hlimit : keysWithinDigitLimit spelledTable = true := by decide +kernel
  obtain ⟨s, hs, hflat⟩ := hflattening hlimit
  obtain rfl : s = ofNested spelledTable :=
    Except.ok.inj (hs.symm.trans (ofTop_of_within hlimit _))
  exact ⟨_, hs, (hflat _).2 rfl, rfl, hrefused (by decide +kernel)⟩

/-- The long key has no leaf below it, so that the table's leaves would give settings without keys,
and still nothing comes of the table. -/
theorem longKey_fails :
    leafPaths longKey = [] ∧ Flattening longKey .empty ∧
      ¬ ∃ s, ofTop (.ofText "c.yaml") (.map longKey) = .ok s ∧ Flattening longKey s := by
  refine ⟨rfl, ?_, ?_⟩
  · exact ⟨rfl, fun key => rfl, nofun⟩
  · rintro ⟨s, hs, -⟩
    have hlimit : keysWithinDigitLimit longKey = false := by decide +kernel
    cases hs.symm.trans (ofTop_of_not_within hlimit _)

end Settings

end StoreTuning
