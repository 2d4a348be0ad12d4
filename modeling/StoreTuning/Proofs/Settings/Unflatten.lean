import StoreTuning.Proofs.Settings.Named

/-!
# Nested tables from flat keys

A flat key whose parts are neither empty nor contain a dot can be split at its dots again
(`Settings.pathOf_flatKey`), and to put each value at its path, below tables that are made where
they are needed, is to undo the flattening (`Settings.unflatten`). For a table with such keys at
every level nothing is lost but the tables in it that have no leaf (`Settings.unflatten_ofTop`).

The proof follows the leaves in their order. Those below one key come one after the other, so that
their table is made once, at the end, and stays the last one until they are all in it
(`Settings.placeAt_new`, `Settings.placeAt_last`).
-/

namespace StoreTuning

/-- A text is equal to a scalar as a key only when the scalar is that text. -/
theorem Scalar.text_beq (name : String) (k : Scalar) :
    (Scalar.text name == k) = decide (k = .text name) := by
  cases k with
  | text s =>
    show (name == s) = decide (Scalar.text s = .text name)
    rw [Bool.eq_iff_iff, beq_iff_eq, decide_eq_true_iff, Scalar.text.injEq, eq_comm]
  | _ => rfl

/-- A scalar is equal to a text as a key only when it is that text. -/
theorem Scalar.beq_text (k : Scalar) (name : String) :
    (k == Scalar.text name) = decide (k = .text name) := by
  cases k with
  | text s =>
    show (s == name) = decide (Scalar.text s = .text name)
    rw [Bool.eq_iff_iff, beq_iff_eq, decide_eq_true_iff, Scalar.text.injEq]
  | _ => rfl

namespace Settings

/-! ## Putting values at paths -/

/-- The parts of a flat key between its dots. -/
def pathOf (key : String) : List String :=
  (key.toList.splitOn '.').map String.ofList

/-- The table under a name, which is empty where there is none. -/
def tableUnder (name : String) (es : List (Scalar × Value)) : List (Scalar × Value) :=
  match es.lookup (.text name) with
  | some (.map sub) => sub
  | _ => []

/-- A value put at a path, below the tables on the way, each of which is made if it is not there. -/
def placeAt : List String → Value → List (Scalar × Value) → List (Scalar × Value)
  | [], _, es => es
  | [name], v, es => Entries.insert (.text name) v es
  | name :: path, v, es =>
    Entries.insert (.text name) (.map (placeAt path v (tableUnder name es))) es

/-- Values put at their paths, one after the other. -/
def placeAll (ls : List (List String × Value)) (es : List (Scalar × Value)) :
    List (Scalar × Value) :=
  ls.foldl (fun es l => placeAt l.1 l.2 es) es

/-- The nested table that settings make when every key is split at its dots. -/
def unflatten (s : Settings) : List (Scalar × Value) :=
  placeAll (s.entries.map fun e => (pathOf e.1, e.2)) []

variable {name : String} {es : List (Scalar × Value)}

theorem lookup_text_of_fresh (h : ∀ e ∈ es, e.1 ≠ .text name) : es.lookup (.text name) = none := by
  refine List.lookup_eq_none_iff.2 fun e he => ?_
  rw [bne, Scalar.text_beq, decide_eq_false (h e he)]
  rfl

theorem insert_text_of_fresh (h : ∀ e ∈ es, e.1 ≠ .text name) (v : Value) :
    Entries.insert (.text name) v es = es ++ [(.text name, v)] := by
  induction es with
  | nil => rfl
  | cons e es ih =>
    obtain ⟨hk, hes⟩ := List.forall_mem_cons.1 h
    rw [Entries.insert, Scalar.beq_text, decide_eq_false hk, if_neg Bool.false_ne_true, ih hes,
      List.cons_append]

theorem lookup_text_concat (h : ∀ e ∈ es, e.1 ≠ .text name) (v : Value) :
    (es ++ [(Scalar.text name, v)]).lookup (.text name) = some v := by
  rw [List.lookup_append, lookup_text_of_fresh h, Option.none_or, List.lookup_cons,
    Scalar.text_beq, decide_eq_true rfl]

theorem insert_text_concat (h : ∀ e ∈ es, e.1 ≠ .text name) (v w : Value) :
    Entries.insert (.text name) w (es ++ [(.text name, v)]) = es ++ [(.text name, w)] := by
  induction es with
  | nil =>
    rw [List.nil_append, Entries.insert, Scalar.beq_text, decide_eq_true rfl, if_pos rfl]
    rfl
  | cons e es ih =>
    obtain ⟨hk, hes⟩ := List.forall_mem_cons.1 h
    rw [List.cons_append, Entries.insert, Scalar.beq_text, decide_eq_false hk,
      if_neg Bool.false_ne_true, ih hes, List.cons_append]

/-- Below a name the value goes to the table under it. -/
theorem placeAt_cons {path : List String} (h : path ≠ []) (name : String) (v : Value)
    (es : List (Scalar × Value)) : placeAt (name :: path) v es =
      Entries.insert (.text name) (.map (placeAt path v (tableUnder name es))) es := by
  cases path with
  | nil => exact absurd rfl h
  | cons part path => rfl

/-- A value that goes below a name which is not there yet makes its table, at the end. -/
theorem placeAt_new {path : List String} (hpath : path ≠ []) (h : ∀ e ∈ es, e.1 ≠ .text name)
    (v : Value) : placeAt (name :: path) v es = es ++ [(.text name, .map (placeAt path v []))] := by
  have hsub : tableUnder name es = [] := by
    rw [tableUnder, lookup_text_of_fresh h]
  rw [placeAt_cons hpath, hsub, insert_text_of_fresh h]

/-- A value that goes below the last name goes to the table there. -/
theorem placeAt_last {path : List String} (hpath : path ≠ []) (h : ∀ e ∈ es, e.1 ≠ .text name)
    (v : Value) (sub : List (Scalar × Value)) :
    placeAt (name :: path) v (es ++ [(.text name, .map sub)]) =
      es ++ [(.text name, .map (placeAt path v sub))] := by
  have hsub : tableUnder name (es ++ [(.text name, .map sub)]) = sub := by
    rw [tableUnder, lookup_text_concat h]
  rw [placeAt_cons hpath, hsub, insert_text_concat h]

variable {ls : List (List String × Value)}

/-- Values that go below the last name go to the table there. -/
theorem placeAll_last (hls : ∀ l ∈ ls, l.1 ≠ []) (h : ∀ e ∈ es, e.1 ≠ .text name)
    (sub : List (Scalar × Value)) :
    placeAll (ls.map fun l => (name :: l.1, l.2)) (es ++ [(.text name, .map sub)]) =
      es ++ [(.text name, .map (placeAll ls sub))] := by
  induction ls generalizing sub with
  | nil => rfl
  | cons l ls ih =>
    obtain ⟨hl, hls⟩ := List.forall_mem_cons.1 hls
    calc placeAll ((l :: ls).map fun l => (name :: l.1, l.2)) (es ++ [(.text name, .map sub)])
        = placeAll (ls.map fun l => (name :: l.1, l.2))
            (placeAt (name :: l.1) l.2 (es ++ [(.text name, .map sub)])) := rfl
      _ = placeAll (ls.map fun l => (name :: l.1, l.2))
            (es ++ [(.text name, .map (placeAt l.1 l.2 sub))]) := by rw [placeAt_last hl h]
      _ = es ++ [(.text name, .map (placeAll (l :: ls) sub))] := ih hls _

/-- Of the values that go below a name which is not there yet, the first makes its table and the
others go there. -/
theorem placeAll_new (hne : ls ≠ []) (hls : ∀ l ∈ ls, l.1 ≠ []) (h : ∀ e ∈ es, e.1 ≠ .text name) :
    placeAll (ls.map fun l => (name :: l.1, l.2)) es =
      es ++ [(.text name, .map (placeAll ls []))] := by
  cases ls with
  | nil => exact absurd rfl hne
  | cons l ls =>
    obtain ⟨hl, hls⟩ := List.forall_mem_cons.1 hls
    calc placeAll ((l :: ls).map fun l => (name :: l.1, l.2)) es
        = placeAll (ls.map fun l => (name :: l.1, l.2)) (placeAt (name :: l.1) l.2 es) := rfl
      _ = placeAll (ls.map fun l => (name :: l.1, l.2))
            (es ++ [(.text name, .map (placeAt l.1 l.2 []))]) := by rw [placeAt_new hl h]
      _ = es ++ [(.text name, .map (placeAll (l :: ls) []))] := placeAll_last hls h _

/-! ## Tables with plain keys -/

/-- A name that can stand between dots: it is not empty and has no dot. -/
def PlainName (name : String) : Prop :=
  name ≠ "" ∧ '.' ∉ name.toList

/-- The keys of a table, and of the tables in it, are plain names, and those of one table are
distinct. -/
abbrev PlainTable : List (Scalar × Value) → Prop :=
  NamedTable PlainName

mutual

/-- A table without the tables in it that have no leaf. -/
def prune : List (Scalar × Value) → List (Scalar × Value)
  | [] => []
  | (k, v) :: es => if (leafPathsOf v).isEmpty then prune es else (k, pruneOf v) :: prune es

/-- A value without the tables in it that have no leaf. -/
def pruneOf : Value → Value
  | .map es => .map (prune es)
  | .scalar s => .scalar s
  | .list xs => .list xs

end

mutual

/-- To put the leaves of a table at their paths, after entries with other keys, makes the table
without the tables in it that have no leaf. -/
theorem placeAll_leafPaths : ∀ table : List (Scalar × Value), PlainTable table →
    ∀ es : List (Scalar × Value), (∀ e ∈ table, ∀ e' ∈ es, e'.1 ≠ e.1) →
      placeAll (leafPaths table) es = es ++ prune table
  | [], _, es, _ => (List.append_nil es).symm
  | (k, v) :: table, h, es, hes => by
    obtain ⟨⟨name, rfl, hname⟩, hdistinct, hv, htable⟩ := h
    obtain ⟨hk, hrest⟩ := List.forall_mem_cons.1 hes
    have hfirst := placeAll_leafPathsOf v hv es hk
    have hsplit : placeAll (leafPaths ((.text name, v) :: table)) es = placeAll (leafPaths table)
        (placeAll ((leafPathsOf v).map fun l => (name :: l.1, l.2)) es) := by
      rw [leafPaths, placeAll, List.foldl_append]
      rfl
    rw [hsplit, hfirst, prune]
    split
    · exact placeAll_leafPaths table htable es hrest
    · -- The later keys are other than this one too.
      have hlater : ∀ e ∈ table, ∀ e' ∈ es ++ [(.text name, pruneOf v)], e'.1 ≠ e.1 := by
        intro e he e' he'
        obtain he' | he' := List.mem_append.1 he'
        · exact hrest e he e' he'
        · rw [List.mem_singleton.1 he']
          exact (hdistinct e he).symm
      rw [placeAll_leafPaths table htable _ hlater, List.append_assoc, List.singleton_append]

/-- To put the leaves of a value at their paths below a new name makes an entry at the end, if there
are any. -/
theorem placeAll_leafPathsOf : ∀ v : Value, NamedValue PlainName v →
    ∀ {name : String} (es : List (Scalar × Value)), (∀ e ∈ es, e.1 ≠ .text name) →
      placeAll ((leafPathsOf v).map fun l => (name :: l.1, l.2)) es =
        if (leafPathsOf v).isEmpty then es else es ++ [(.text name, pruneOf v)]
  | .map sub, h, name, es, hes => by
    have hsub := placeAll_leafPaths sub h [] (fun _ _ _ h => by cases h)
    rw [leafPathsOf, pruneOf]
    split
    next hnone => rw [List.isEmpty_iff.1 hnone]; rfl
    next hsome =>
      have hne : leafPaths sub ≠ [] := fun hnil => hsome (List.isEmpty_iff.2 hnil)
      rw [placeAll_new hne (fun l hl => ne_nil_of_mem_leafPaths hl) hes, hsub, List.nil_append]
  | .scalar s, _, name, es, hes => insert_text_of_fresh hes (.scalar s)
  | .list xs, _, name, es, hes => insert_text_of_fresh hes (.list xs)

end

/-! ## Flat keys of plain names -/

/-- Names without a dot, joined by dots, are the parts between the dots. -/
theorem pathOf_intercalate {path : List String} (hne : path ≠ [])
    (h : ∀ name ∈ path, '.' ∉ name.toList) : pathOf (".".intercalate path) = path := by
  have hdot : ∀ cs ∈ path.map String.toList, '.' ∉ cs := by
    intro cs hcs
    obtain ⟨name, hname, rfl⟩ := List.mem_map.1 hcs
    exact h name hname
  have hsplit : (['.'].intercalate (path.map String.toList)).splitOn '.' = path.map String.toList :=
    List.splitOn_intercalate '.' hdot (by simpa using hne)
  have hchars : (".".intercalate path).toList = ['.'].intercalate (path.map String.toList) :=
    String.toList_intercalate
  rw [pathOf, hchars, hsplit, List.map_map]
  simp [Function.comp_def]

/-- The parts of the flat key of plain names are the names. -/
theorem pathOf_flatKey {path : List String} (hne : path ≠ []) (h : ∀ name ∈ path, PlainName name) :
    pathOf (flatKey path) = path := by
  -- No name is empty, so that none is left out of the flat key.
  have hkey : flatKey path = ".".intercalate path := by
    cases path with
    | nil => exact absurd rfl hne
    | cons name path =>
      have hname : ¬ name.isEmpty = true := by simpa using (h name List.mem_cons_self).1
      rw [flatKey, List.dropWhile_cons_of_neg hname]
  rw [hkey, pathOf_intercalate hne fun name hname => (h name hname).2]

variable {table : List (Scalar × Value)}

/-- The path of a leaf of a table with plain keys can be read off its flat key. -/
theorem pathOf_flatKey_of_mem (h : PlainTable table) {l : List String × Value}
    (hl : l ∈ leafPaths table) : pathOf (flatKey l.1) = l.1 :=
  pathOf_flatKey (ne_nil_of_mem_leafPaths hl) (h.rule_of_mem_leafPaths l hl)

/-- The flat keys of the leaves of a table with plain keys are distinct. -/
theorem nodup_flatLeaves (h : PlainTable table) : ((flatLeaves table).map Prod.fst).Nodup := by
  have hmap : (flatLeaves table).map Prod.fst = ((leafPaths table).map Prod.fst).map flatKey := by
    rw [flatLeaves, List.map_map, List.map_map]
    rfl
  have hinj : ∀ path ∈ (leafPaths table).map Prod.fst, ∀ path' ∈ (leafPaths table).map Prod.fst,
      flatKey path = flatKey path' → path = path' := by
    intro path hpath path' hpath' heq
    obtain ⟨l, hl, rfl⟩ := List.mem_map.1 hpath
    obtain ⟨l', hl', rfl⟩ := List.mem_map.1 hpath'
    rw [← pathOf_flatKey_of_mem h hl, heq, pathOf_flatKey_of_mem h hl']
  rw [hmap]
  exact h.nodup_leafPaths.map_on hinj

/-- The settings that a table with plain keys holds are its leaves under their flat keys. -/
theorem entries_ofNested_of_plain (h : PlainTable table) :
    (ofNested table).entries = flatLeaves table :=
  entries_ofNested_of_nodup (nodup_flatLeaves h)

/-- To split the flat keys of a table with plain keys gives the table back, without the tables in it
that have no leaf. -/
theorem unflatten_ofNested (h : PlainTable table) : (ofNested table).unflatten = prune table := by
  have hpaths : (flatLeaves table).map (fun e => (pathOf e.1, e.2)) = leafPaths table := by
    have hid : ∀ l ∈ leafPaths table, (pathOf (flatKey l.1), l.2) = l := by
      intro l hl
      rw [pathOf_flatKey_of_mem h hl]
    rw [flatLeaves, List.map_map]
    exact (List.map_congr_left hid).trans (List.map_id _)
  calc (ofNested table).unflatten = placeAll (leafPaths table) [] := by
        rw [unflatten, entries_ofNested_of_plain h, hpaths]
    _ = [] ++ prune table := placeAll_leafPaths table h [] fun _ _ _ he => by cases he
    _ = prune table := List.nil_append _

/-- A table with plain keys is flattened to settings whose keys are the flat keys of its leaves,
which are all distinct, with the values of the leaves in their order. To split the keys at their
dots again gives the table back, with its keys in their order at every level, without the tables in
it that have no leaf. -/
theorem unflatten_ofTop (p : Path) (h : PlainTable table) :
    ∃ s, ofTop p (.map table) = .ok s ∧ s.unflatten = prune table ∧ s.entries = flatLeaves table ∧
      ((flatLeaves table).map Prod.fst).Nodup :=
  ⟨ofNested table, ofTop_of_within (h.keysWithinDigitLimit) p,
    unflatten_ofNested h, entries_ofNested_of_plain h, nodup_flatLeaves h⟩

/-- A nested table with a table that has no leaf, and one that has none but for such a table. -/
def hollowTable : List (Scalar × Value) := [
  (.text "b", .map [(.text "z", .int 1), (.text "none", .map []),
    (.text "a", .list [.map [(.text "x.y", .null)]])]),
  (.text "hollow", .map [(.text "none", .map [(.text "at all", .map [])])]),
  (.text "a", .null)]

/-- The hollow tables are all that is lost. -/
theorem unflatten_ofTop_hollowTable :
    PlainTable hollowTable ∧
    ∃ s, ofTop (.ofText "c.toml") (.map hollowTable) = .ok s ∧
      s.keys = ["b.z", "b.a", "a"] ∧
      s.unflatten = [
        (.text "b", .map [(.text "z", .int 1), (.text "a", .list [.map [(.text "x.y", .null)]])]),
        (.text "a", .null)] := by
  have hplain : PlainTable hollowTable := by
    simp [hollowTable, NamedTable, NamedValue, PlainName]
  obtain ⟨s, hs, htable, hentries, -⟩ := unflatten_ofTop (.ofText "c.toml") hplain
  refine ⟨hplain, s, hs, ?_, htable.trans rfl⟩
  rw [keys, hentries]
  decide +kernel

end Settings

end StoreTuning
