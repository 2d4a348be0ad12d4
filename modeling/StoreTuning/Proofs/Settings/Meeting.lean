import Mathlib.Data.List.DropRight
import Mathlib.Data.List.Perm.Subperm
import StoreTuning.Proofs.Settings.Overlay
import StoreTuning.Proofs.Settings.Unflatten

/-!
# Leaves under one flat key

Where no key has a dot, a flat key tells the path of its leaf but for one thing: an empty key at the
top leaves the path empty, as if nothing had been gone down at all. So two leaves come under one
flat key exactly when their paths meet, which is to say that they differ in the number of empty keys
at their start (`Settings.flatKey_eq_iff`), and one of the two values is lost. A table whose leaves
do not meet has a key for each of them, and any other has fewer (`Settings.ofTop_apart`). No leaves
meet if there is no table under an empty key at the top, wherever else there are empty keys
(`Settings.apart_of_no_nameless_table`).
-/

namespace StoreTuning.Settings

variable {path path' : List String} {table : List (Scalar × Value)}

/-- A name without a dot. It may be empty. -/
def DotFree (name : String) : Prop :=
  '.' ∉ name.toList

/-- Two paths meet when they are the same but for the number of empty names at their start. -/
def Meet (path path' : List String) : Prop :=
  ∃ m n rest, path = List.replicate m "" ++ rest ∧ path' = List.replicate n "" ++ rest

/-- No two leaves of a table meet. -/
def Apart (table : List (Scalar × Value)) : Prop :=
  (leafPaths table).Pairwise fun l l' => ¬ Meet l.1 l'.1

/-! ## Paths that meet -/

/-- Paths meet when the same is left of them without the empty names at their start. -/
theorem meet_iff :
    Meet path path' ↔ path.dropWhile String.isEmpty = path'.dropWhile String.isEmpty := by
  have hdrop : ∀ n (rest : List String),
      (List.replicate n "" ++ rest).dropWhile String.isEmpty = rest.dropWhile String.isEmpty := by
    intro n rest
    exact List.dropWhile_append_of_pos fun name hname => by
      rw [List.eq_of_mem_replicate hname]
      rfl
  have hsplit : ∀ path : List String, ∃ n,
      path = List.replicate n "" ++ path.dropWhile String.isEmpty := by
    intro path
    have hempty : path.takeWhile String.isEmpty =
        List.replicate (path.takeWhile String.isEmpty).length "" := by
      refine List.eq_replicate_iff.2 ⟨rfl, fun name hname => ?_⟩
      simpa using List.mem_takeWhile_imp hname
    refine ⟨(path.takeWhile String.isEmpty).length, ?_⟩
    rw [← hempty, List.takeWhile_append_dropWhile]
  constructor
  · rintro ⟨m, n, rest, rfl, rfl⟩
    rw [hdrop, hdrop]
  · intro h
    obtain ⟨m, hm⟩ := hsplit path
    obtain ⟨n, hn⟩ := hsplit path'
    exact ⟨m, n, path'.dropWhile String.isEmpty, h ▸ hm, hn⟩

instance : Decidable (Meet path path') :=
  decidable_of_iff _ meet_iff.symm

instance : Decidable (Apart table) :=
  inferInstanceAs (Decidable ((leafPaths table).Pairwise _))

/-- The flat key of a path without dots tells the path but for the empty names at its start. -/
theorem dropWhile_pathOf_flatKey (h : ∀ name ∈ path, DotFree name) :
    (pathOf (flatKey path)).dropWhile String.isEmpty = path.dropWhile String.isEmpty := by
  rw [flatKey]
  cases hrest : path.dropWhile String.isEmpty with
  | nil => rfl
  | cons name rest =>
    have hdot : ∀ part ∈ name :: rest, '.' ∉ part.toList := by
      intro part hpart
      rw [← hrest] at hpart
      exact h part ((List.dropWhile_sublist _).mem hpart)
    rw [pathOf_intercalate (List.cons_ne_nil _ _) hdot, ← hrest, List.dropWhile_idempotent]

/-- Two paths without dots have one flat key exactly when they meet. -/
theorem flatKey_eq_iff (h : ∀ name ∈ path, DotFree name) (h' : ∀ name ∈ path', DotFree name) :
    flatKey path = flatKey path' ↔ Meet path path' := by
  rw [meet_iff]
  constructor
  · intro heq
    rw [← dropWhile_pathOf_flatKey h, heq, dropWhile_pathOf_flatKey h']
  · intro heq
    rw [flatKey, heq, flatKey]

/-! ## Leaves that meet -/

/-- Leaves of a table without dots in its keys have one flat key exactly when they meet. -/
theorem flatKey_eq_iff_of_mem (h : NamedTable DotFree table) {l l' : List String × Value}
    (hl : l ∈ leafPaths table) (hl' : l' ∈ leafPaths table) :
    flatKey l.1 = flatKey l'.1 ↔ Meet l.1 l'.1 :=
  flatKey_eq_iff (h.rule_of_mem_leafPaths l hl) (h.rule_of_mem_leafPaths l' hl')

/-- The flat keys are distinct exactly when no leaves meet. -/
theorem nodup_flatLeaves_iff (h : NamedTable DotFree table) :
    ((flatLeaves table).map Prod.fst).Nodup ↔ Apart table := by
  rw [flatLeaves, List.map_map, List.Nodup, List.pairwise_map, Apart]
  exact List.Pairwise.iff_of_mem fun hl hl' => not_congr (flatKey_eq_iff_of_mem h hl hl')

/-- Where flat keys come again, there are fewer keys than leaves. -/
theorem size_ofNested_lt (h : ¬ ((flatLeaves table).map Prod.fst).Nodup) :
    (ofNested table).size < (leafPaths table).length := by
  have hsub : (ofNested table).keys.Subperm ((flatLeaves table).map Prod.fst) := by
    refine (ofNested table).nodup.subperm fun key hkey => ?_
    obtain ⟨-, hget, -⟩ := ofNested_flattening table
    obtain ⟨v, hv⟩ := mem_keys_iff.1 hkey
    rw [hget] at hv
    obtain ⟨before, after, heq, -⟩ := List.lookup_eq_some_iff.1 hv
    have hmem : (key, v) ∈ flatLeaves table := by
      rw [← List.mem_reverse, heq]
      exact List.mem_append_right before List.mem_cons_self
    exact List.mem_map_of_mem hmem
  have hlengths : (ofNested table).keys.length = (ofNested table).size ∧
      ((flatLeaves table).map Prod.fst).length = (leafPaths table).length := by
    simp [keys, Entries.keys, size, flatLeaves]
  rw [← hlengths.1, ← hlengths.2]
  -- As many keys as leaves would be all the flat keys, each of them once.
  refine Nat.lt_of_not_le fun hle => h ?_
  exact (hsub.perm_of_length_le hle).nodup_iff.1 (ofNested table).nodup

/-- Of a path that starts with a name nothing is left out. -/
theorem dropWhile_of_ne_empty {name : String} (h : name ≠ "") (path : List String) :
    (name :: path).dropWhile String.isEmpty = name :: path :=
  List.dropWhile_cons_of_neg (by simpa using h)

/-- If there is no table under an empty key at the top, then no leaves meet. -/
theorem apart_of_no_nameless_table (h : NamedTable DotFree table)
    (hnone : ∀ sub, (Scalar.text "", Value.map sub) ∉ table) : Apart table := by
  -- A path then starts with a name, or it is an empty key alone.
  have hpath : ∀ l ∈ leafPaths table,
      l.1 = [""] ∨ ∃ name rest, name ≠ "" ∧ l.1 = name :: rest := by
    intro l hl
    obtain ⟨⟨k, v⟩, he, m, hm, rfl⟩ := mem_leafPaths_iff.1 hl
    obtain ⟨name, rfl, -⟩ := h.exists_text he
    by_cases hname : name = ""
    · subst hname
      left
      cases v with
      | map sub => exact absurd he (hnone sub)
      | scalar s => rw [List.mem_singleton.1 hm]; rfl
      | list xs => rw [List.mem_singleton.1 hm]; rfl
    · exact .inr ⟨name, m.1, hname, rfl⟩
  refine (List.pairwise_map.1 h.nodup_leafPaths).imp_of_mem fun hl hl' hne hmeet => hne ?_
  rw [meet_iff] at hmeet
  obtain hl | ⟨name, rest, hname, hl⟩ := hpath _ hl
  · obtain hl' | ⟨name', rest', hname', hl'⟩ := hpath _ hl'
    · rw [hl, hl']
    · rw [hl, hl', dropWhile_of_ne_empty hname'] at hmeet
      cases hmeet
  · obtain hl' | ⟨name', rest', hname', hl'⟩ := hpath _ hl'
    · rw [hl, hl', dropWhile_of_ne_empty hname] at hmeet
      cases hmeet
    · rwa [hl, hl', dropWhile_of_ne_empty hname, dropWhile_of_ne_empty hname', ← hl, ← hl']
        at hmeet

/-- What becomes of the leaves of a nested table whose keys have no dot, where keys may be empty.
Two leaves come under one flat key exactly when their paths differ in nothing but the number of
empty keys at their start. If no leaves are like that, there is one key for each leaf, with its
value, and no two are the same; if some are, there are fewer keys than leaves, so that a value is
lost. None are unless there is a table under an empty key at the top. -/
theorem ofTop_apart (p : Path) (h : NamedTable DotFree table) :
    ∃ s, ofTop p (.map table) = .ok s ∧
      (∀ l ∈ leafPaths table, ∀ l' ∈ leafPaths table,
        flatKey l.1 = flatKey l'.1 ↔ Meet l.1 l'.1) ∧
      (Apart table → s.entries = flatLeaves table ∧ ((flatLeaves table).map Prod.fst).Nodup) ∧
      (¬ Apart table → s.size < (leafPaths table).length) ∧
      ((∀ sub, (Scalar.text "", Value.map sub) ∉ table) → Apart table) := by
  refine ⟨ofNested table, ofTop_of_within h.keysWithinDigitLimit p,
    fun l hl l' hl' => flatKey_eq_iff_of_mem h hl hl', fun hapart => ?_, fun hmeet => ?_,
    apart_of_no_nameless_table h⟩
  · have hnodup := (nodup_flatLeaves_iff h).2 hapart
    exact ⟨entries_ofNested_of_nodup hnodup, hnodup⟩
  · exact size_ofNested_lt (mt (nodup_flatLeaves_iff h).1 hmeet)

/-- A nested table with empty keys at the top, in the middle and at the end of paths, and with one
name that begins with another. -/
def emptyNames : List (Scalar × Value) := [
  (.text "a", .map [(.text "", .map [(.text "b", .int 1), (.text "", .int 2)]),
    (.text "b", .int 3)]),
  (.text "", .list [.map [(.text "a.b", .null)]]),
  (.text "ab", .map [(.text "", .map []), (.text "c", .text "")])]

/-- A nested table with one key twice but for an empty key above it. -/
def namelessTable : List (Scalar × Value) :=
  [(.text "", .map [(.text "a", .int 1)]), (.text "a", .int 2)]

/-- No key of it has a dot, and no two in one table are the same. -/
theorem named_namelessTable : NamedTable DotFree namelessTable := by
  simp [namelessTable, NamedTable, NamedValue, DotFree]

/-- No table is under an empty key at the top, so that each leaf has its key. In the other table
there is one, and two leaves have one key between them. -/
theorem ofTop_apart_emptyNames :
    NamedTable DotFree emptyNames ∧ NamedTable DotFree namelessTable ∧
    (∃ s, ofTop (.ofText "c.yaml") (.map emptyNames) = .ok s ∧
      s.entries = [("a..b", .int 1), ("a..", .int 2), ("a.b", .int 3),
        ("", .list [.map [(.text "a.b", .null)]]), ("ab.c", .text "")]) ∧
    ∃ s, ofTop (.ofText "c.yaml") (.map namelessTable) = .ok s ∧ s.size < 2 := by
  have hnames : NamedTable DotFree emptyNames := by
    simp [emptyNames, NamedTable, NamedValue, DotFree]
  obtain ⟨s, hs, -, happart, -, hnone⟩ := ofTop_apart (.ofText "c.yaml") hnames
  obtain ⟨s', hs', -, -, hmeet, -⟩ := ofTop_apart (.ofText "c.yaml") named_namelessTable
  have hentries := (happart (hnone (by simp [emptyNames]))).1
  refine ⟨hnames, named_namelessTable, ⟨s, hs, hentries.trans rfl⟩, s', hs', hmeet ?_⟩
  decide

/-- The leaves of the table have different paths, and all the same there is one key for the two. The
first keeps its place, and the value of the second is left. -/
theorem namelessTable_fails :
    NamedTable DotFree namelessTable ∧
    (leafPaths namelessTable).map Prod.fst = [["", "a"], ["a"]] ∧
    flatKey ["", "a"] = flatKey ["a"] ∧
    ∃ s, ofTop (.ofText "c.yaml") (.map namelessTable) = .ok s ∧ s.entries = [("a", .int 2)] := by
  exact ⟨named_namelessTable, rfl, rfl, _,
    ofTop_of_within named_namelessTable.keysWithinDigitLimit _, rfl⟩

end StoreTuning.Settings
