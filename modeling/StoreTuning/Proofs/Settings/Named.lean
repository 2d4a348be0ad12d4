import Mathlib.Data.List.Nodup
import StoreTuning.Proofs.Settings.Flatten

/-!
# Tables with named entries

In most settings files every key is a text. A table is named after a rule for texts if its keys, and
those of the tables in it, are texts by the rule, no two in one table the same
(`Settings.NamedTable`). Its keys can all be printed, the texts on the way to a leaf are by the
rule, and different leaves have different paths (`Settings.NamedTable.nodup_leafPaths`).
-/

namespace StoreTuning.Settings

variable {rule : String → Prop} {es : List (Scalar × Value)}

mutual

/-- The keys of a table, and of the tables in it, are texts by a rule, and those of one table are
distinct. -/
def NamedTable (rule : String → Prop) : List (Scalar × Value) → Prop
  | [] => True
  | (k, v) :: es =>
    (∃ name, k = .text name ∧ rule name) ∧ (∀ e ∈ es, e.1 ≠ k) ∧ NamedValue rule v ∧
      NamedTable rule es

/-- A value is a table with such keys, or no table. -/
def NamedValue (rule : String → Prop) : Value → Prop
  | .map es => NamedTable rule es
  | .scalar _ => True
  | .list _ => True

end

/-- A leaf of a table is a leaf of the value of one of its entries, below the key of the entry. -/
theorem mem_leafPaths_iff {l : List String × Value} :
    l ∈ leafPaths es ↔ ∃ e ∈ es, ∃ m ∈ leafPathsOf e.2, l = (e.1.toText :: m.1, m.2) := by
  induction es with
  | nil => simp [leafPaths]
  | cons e es ih =>
    obtain ⟨k, v⟩ := e
    rw [leafPaths, List.mem_append, List.mem_map, ih]
    simp [eq_comm]

/-- The path of a leaf of a table is not empty. -/
theorem ne_nil_of_mem_leafPaths {l : List String × Value} (h : l ∈ leafPaths es) : l.1 ≠ [] := by
  obtain ⟨e, -, m, -, rfl⟩ := mem_leafPaths_iff.1 h
  exact List.cons_ne_nil _ _

/-- The keys of a named table are texts by the rule. -/
theorem NamedTable.exists_text {e : Scalar × Value} (h : NamedTable rule es) (he : e ∈ es) :
    ∃ name, e.1 = .text name ∧ rule name := by
  induction es with
  | nil => cases he
  | cons e' es ih =>
    obtain ⟨hname, -, -, hes⟩ := h
    obtain rfl | he := List.mem_cons.1 he
    · exact hname
    · exact ih hes he

mutual

/-- The texts above a leaf of a named table are by the rule. -/
theorem NamedTable.rule_of_mem_leafPaths : ∀ {table : List (Scalar × Value)},
    NamedTable rule table → ∀ l ∈ leafPaths table, ∀ name ∈ l.1, rule name
  | [], _, l, hl => by cases hl
  | (k, v) :: table, h, l, hl => by
    obtain ⟨⟨name, rfl, hname⟩, -, hv, htable⟩ := h
    rw [leafPaths, List.mem_append, List.mem_map] at hl
    obtain ⟨m, hm, rfl⟩ | hl := hl
    · exact List.forall_mem_cons.2 ⟨hname, hv.rule_of_mem_leafPathsOf m hm⟩
    · exact htable.rule_of_mem_leafPaths l hl

/-- The texts above a leaf in a named value are by the rule. -/
theorem NamedValue.rule_of_mem_leafPathsOf : ∀ {v : Value},
    NamedValue rule v → ∀ l ∈ leafPathsOf v, ∀ name ∈ l.1, rule name
  | .map _, h, l, hl => NamedTable.rule_of_mem_leafPaths h l hl
  | .scalar s, _, l, hl => by
    cases List.mem_singleton.1 hl
    nofun
  | .list xs, _, l, hl => by
    cases List.mem_singleton.1 hl
    nofun

end

mutual

/-- Different leaves of a named table have different paths. -/
theorem NamedTable.nodup_leafPaths : ∀ {table : List (Scalar × Value)},
    NamedTable rule table → ((leafPaths table).map Prod.fst).Nodup
  | [], _ => List.nodup_nil
  | (k, v) :: table, h => by
    obtain ⟨⟨name, rfl, -⟩, hdistinct, hv, htable⟩ := h
    have hbelow : (((leafPathsOf v).map Prod.fst).map (name :: ·)).Nodup :=
      hv.nodup_leafPathsOf.map List.cons_injective
    have hmap : (leafPaths ((.text name, v) :: table)).map Prod.fst =
        ((leafPathsOf v).map Prod.fst).map (name :: ·) ++ (leafPaths table).map Prod.fst := by
      rw [leafPaths, List.map_append, List.map_map, List.map_map]
      rfl
    rw [hmap, List.nodup_append]
    refine ⟨hbelow, htable.nodup_leafPaths, fun path hpath path' hpath' heq => ?_⟩
    -- The two paths start with different keys.
    obtain ⟨_, -, rfl⟩ := List.mem_map.1 hpath
    obtain ⟨l, hl, rfl⟩ := List.mem_map.1 hpath'
    obtain ⟨e, he, m, -, rfl⟩ := mem_leafPaths_iff.1 hl
    obtain ⟨name', hname', -⟩ := htable.exists_text he
    rw [hname', Scalar.toText] at heq
    have hsame : name = name' := List.head_eq_of_cons_eq heq
    exact hdistinct e he (by rw [hname', hsame])

/-- Different leaves of a named value have different paths. -/
theorem NamedValue.nodup_leafPathsOf : ∀ {v : Value},
    NamedValue rule v → ((leafPathsOf v).map Prod.fst).Nodup
  | .map _, h => NamedTable.nodup_leafPaths h
  | .scalar _, _ => List.nodup_singleton _
  | .list _, _ => List.nodup_singleton _

end

mutual

/-- Every key of a named table can be printed. -/
theorem NamedTable.keysWithinDigitLimit : ∀ {table : List (Scalar × Value)},
    NamedTable rule table → Settings.keysWithinDigitLimit table = true
  | [], _ => rfl
  | (k, v) :: table, h => by
    obtain ⟨⟨name, rfl, -⟩, -, hv, htable⟩ := h
    rw [Settings.keysWithinDigitLimit, hv.keysOfWithinDigitLimit, htable.keysWithinDigitLimit]
    rfl

/-- Every key in a named value can be printed. -/
theorem NamedValue.keysOfWithinDigitLimit : ∀ {v : Value},
    NamedValue rule v → Settings.keysOfWithinDigitLimit v = true
  | .map _, h => NamedTable.keysWithinDigitLimit h
  | .scalar _, _ => rfl
  | .list _, _ => rfl

end

/-- The settings that a table holds are its leaves under their flat keys, if these are distinct. -/
theorem entries_ofNested_of_nodup {table : List (Scalar × Value)}
    (h : ((flatLeaves table).map Prod.fst).Nodup) :
    (ofNested table).entries = flatLeaves table := by
  calc (ofNested table).entries = Entries.ofList (flatLeaves table) := by rw [← leaves_eq]; rfl
    _ = flatLeaves table := Entries.ofList_eq_self h

end StoreTuning.Settings
