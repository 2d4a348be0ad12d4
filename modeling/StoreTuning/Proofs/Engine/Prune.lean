import StoreTuning.Proofs.Engine.LeafPaths
import StoreTuning.Proofs.Entries

/-!
# Overrides as a pruned report

The overrides are what is left of the full report when every entry is taken out, from the inside
outwards, that is null or a record without entries (`overrides_eq_prune`). Both reports are compared
path by path: the full one shows a field as it is (`Content.at?_full`), and the overrides show what
the field says about itself alone (`Content.at?_overrides`), which needs that no record has two
fields of one name.

Fields may hold more than their declared types: the statement is about all contents of the form of
options (`Content.Fits`), where a field that is no record may hold any value or be unset, and a
record may be absent.
-/

namespace StoreTuning

open Content

/-! ## Paths -/

/-- What a path leads to in a tree with named parts. -/
def descend {τ : Type} (parts : τ → List (String × τ)) : τ → List String → Option τ
  | t, [] => some t
  | t, name :: path => ((parts t).lookup name).bind fun part => descend parts part path

/-- The named contents of a record; nothing else has any. -/
def Content.parts : Content → List (String × Content)
  | record fs => fs
  | _ => []

/-- The named reports of a record; nothing else has any. -/
def Report.parts : Report → List (String × Report)
  | record fs => fs
  | _ => []

/-- The content at a path. -/
def Content.at? (c : Content) (path : List String) : Option Content :=
  descend Content.parts c path

/-- The report at a path. -/
def Report.at? (r : Report) (path : List String) : Option Report :=
  descend Report.parts r path

theorem Content.at?_cons (c : Content) (name : String) (path : List String) :
    c.at? (name :: path) = (c.parts.lookup name).bind fun part => part.at? path := rfl

theorem Report.at?_cons (r : Report) (name : String) (path : List String) :
    r.at? (name :: path) = (r.parts.lookup name).bind fun part => part.at? path := rfl

/-- Whether a report is a value: neither null nor a record. -/
def Report.isValue : Report → Bool
  | .null => false
  | .record _ => false
  | _ => true

mutual

/-- No record of a report has two entries of one name. -/
def Report.Distinct : Report → Prop
  | .record fs => (Entries.keys fs).Nodup ∧ DistinctFields fs
  | _ => True

/-- No record in named reports has two entries of one name. -/
def DistinctFields : List (String × Report) → Prop
  | [] => True
  | (_, r) :: fs => r.Distinct ∧ DistinctFields fs

end

mutual

/-- Whether a report has a name twice can be decided. -/
instance Report.decidableDistinct : (r : Report) → Decidable r.Distinct
  | .record fs =>
    have := decidableDistinctFields fs
    inferInstanceAs (Decidable ((Entries.keys fs).Nodup ∧ DistinctFields fs))
  | .null | .flag _ | .number _ | .text _ => isTrue trivial

instance decidableDistinctFields : (fs : List (String × Report)) → Decidable (DistinctFields fs)
  | [] => isTrue trivial
  | (_, r) :: fs =>
    have := Report.decidableDistinct r
    have := decidableDistinctFields fs
    inferInstanceAs (Decidable (r.Distinct ∧ DistinctFields fs))

end

namespace Content

/-! ## The full report, path by path -/

@[simp]
theorem keys_fullFields (fs : List (String × Content)) :
    Entries.keys (fullFields fs) = Entries.keys fs := by
  induction fs with
  | nil => rfl
  | cons f fs ih => rw [fullFields, Entries.keys_cons, Entries.keys_cons, ih]

theorem lookup_fullFields (fs : List (String × Content)) (name : String) :
    (fullFields fs).lookup name = (fs.lookup name).map full := by
  induction fs with
  | nil => rfl
  | cons f fs ih =>
    obtain ⟨n, c⟩ := f
    rw [fullFields, List.lookup_cons, List.lookup_cons, ih]
    cases name == n <;> rfl

/-- What is found under a name has no name twice, if the whole has none. -/
theorem distinct_of_lookup {fs : List (String × Content)} {name : String} {c : Content}
    (h : DistinctFields (fullFields fs)) (hc : fs.lookup name = some c) : c.full.Distinct := by
  induction fs with
  | nil => cases hc
  | cons f fs ih =>
    obtain ⟨n, c'⟩ := f
    rw [fullFields, DistinctFields] at h
    rw [List.lookup_cons] at hc
    cases hn : name == n with
    | true =>
      rw [hn] at hc
      obtain rfl : c' = c := Option.some.inj hc
      exact h.1
    | false =>
      rw [hn] at hc
      exact ih h.2 hc

/-- The full report shows every field as it is. -/
theorem at?_full (c : Content) (path : List String) :
    c.full.at? path = (c.at? path).map full := by
  induction path generalizing c with
  | nil => rfl
  | cons name path ih =>
    rw [Report.at?_cons, Content.at?_cons]
    cases c with
    | record fs =>
      show ((fullFields fs).lookup name).bind _ = ((fs.lookup name).bind _).map _
      rw [lookup_fullFields]
      cases fs.lookup name with
      | none => rfl
      | some part => exact ih part
    | _ => rfl

/-- Only what is unset is shown as null. -/
theorem eq_unset_of_full {c : Content} (h : c.full = .null) : c = unset := by
  cases c with
  | unset => rfl
  | _ => cases h

/-- Only a record is shown as one. -/
theorem exists_record_of_full {c : Content} {gs : List (String × Report)}
    (h : c.full = .record gs) : ∃ fs, c = record fs ∧ gs = fullFields fs := by
  cases c with
  | record fs =>
    injection h with hgs
    exact ⟨fs, rfl, hgs.symm⟩
  | _ => cases h

/-! ## The overrides, path by path -/

/-- A record has an override exactly when one of its fields has. -/
theorem override?_record (fs : List (String × Content)) :
    (record fs).override? = if overrides fs = [] then none else some (.record (overrides fs)) := by
  rw [override?]
  cases overrides fs with
  | nil => rfl
  | cons r rs => rw [if_neg (List.cons_ne_nil r rs)]

theorem override?_ne_null {c : Content} {r : Report} (h : c.override? = some r) :
    r ≠ .null ∧ r ≠ .record [] := by
  cases c with
  | record fs =>
    rw [override?_record] at h
    split at h
    · cases h
    · rename_i hne
      cases h
      exact ⟨nofun, fun hr => hne (by injection hr)⟩
  | unset => cases h
  | _ =>
    cases h
    exact ⟨nofun, nofun⟩

/-- A value is the override of what holds it, and of nothing else. -/
theorem override?_eq_some_value_iff {c : Content} {v : Report} (hv : v.isValue = true) :
    c.override? = some v ↔ c.full = v := by
  cases c with
  | unset =>
    refine ⟨nofun, fun h => ?_⟩
    rw [← h] at hv
    cases hv
  | record fs =>
    constructor
    · intro h
      rw [override?_record] at h
      split at h
      · cases h
      · obtain rfl := Option.some.inj h
        cases hv
    · intro h
      rw [← h] at hv
      cases hv
  | _ => exact Option.some_inj

theorem lookup_overrides {fs : List (String × Content)} (h : (Entries.keys fs).Nodup)
    (name : String) : (overrides fs).lookup name = (fs.lookup name).bind override? := by
  induction fs with
  | nil => rfl
  | cons f fs ih =>
    obtain ⟨n, c⟩ := f
    rw [Entries.keys_cons, List.nodup_cons] at h
    rw [overrides, List.lookup_cons]
    cases hn : name == n with
    | true =>
      -- A field that is left out is not found among the others, whose names differ.
      obtain rfl : name = n := eq_of_beq hn
      have hrest : fs.lookup name = none := List.lookup_eq_none_iff.2 fun p hp => by
        have hne : name ≠ p.1 := fun hname =>
          h.1 (hname ▸ List.mem_map_of_mem (f := Prod.fst) hp)
        simpa using hne
      cases ho : c.override? with
      | none => simp [ih h.2, hrest, ho]
      | some r => simp [ho]
    | false =>
      cases ho : c.override? with
      | none => exact ih h.2
      | some r =>
        show ((n, r) :: overrides fs).lookup name = _
        rw [List.lookup_cons, hn]
        exact ih h.2

/-- Below the top it makes no difference whether a record without overrides is shown. -/
theorem bind_override?_at?_cons (fs : List (String × Content)) (name : String)
    (path : List String) :
    ((record fs).override?.bind fun r => r.at? (name :: path)) =
      (Report.record (overrides fs)).at? (name :: path) := by
  rw [override?_record]
  split
  · rename_i hnil
    rw [hnil]
    rfl
  · rfl

/-- The overrides show of a field what it says about itself. -/
theorem bind_override?_at? {c : Content} (h : c.full.Distinct) (path : List String) :
    (c.override?.bind fun r => r.at? path) = (c.at? path).bind override? := by
  induction path generalizing c with
  | nil => exact Option.bind_fun_some c.override?
  | cons name path ih =>
    cases c with
    | record fs =>
      have hkeys : (Entries.keys fs).Nodup := by
        rw [← keys_fullFields]
        exact h.1
      rw [bind_override?_at?_cons, Report.at?_cons, Content.at?_cons]
      show ((overrides fs).lookup name).bind _ = ((fs.lookup name).bind _).bind _
      rw [lookup_overrides hkeys]
      cases hc : fs.lookup name with
      | none => rfl
      | some part => exact ih (distinct_of_lookup h.2 hc)
    | _ => rfl

/-- Below the top, the overrides of a record show of a field what it says about itself. -/
theorem at?_overrides {fs : List (String × Content)} (h : (record fs).full.Distinct)
    {path : List String} (hpath : path ≠ []) :
    (Report.record (overrides fs)).at? path = ((record fs).at? path).bind override? := by
  obtain ⟨name, path, rfl⟩ := List.exists_cons_of_ne_nil hpath
  rw [← bind_override?_at? h, bind_override?_at?_cons]

/-- A record that the overrides hold is what a record of the whole has as overrides. -/
theorem exists_record_of_at?_overrides {fs : List (String × Content)}
    (h : (record fs).full.Distinct) {path : List String} {gs : List (String × Report)}
    (hgs : (Report.record (overrides fs)).at? path = some (.record gs)) :
    ∃ fs', (record fs).at? path = some (record fs') ∧ gs = overrides fs' := by
  by_cases hpath : path = []
  · subst hpath
    injection Option.some.inj hgs with htop
    exact ⟨fs, rfl, htop.symm⟩
  · rw [at?_overrides h hpath] at hgs
    obtain ⟨c, hc, ho⟩ := Option.bind_eq_some_iff.1 hgs
    cases c with
    | record fs' =>
      rw [override?_record] at ho
      split at ho
      · cases ho
      · injection Option.some.inj ho with hfs'
        exact ⟨fs', hc, hfs'.symm⟩
    | _ => cases ho

end Content

/-! ## Pruning -/

/-- Whether there is nothing in a report: it is null, or a record without entries. -/
def Report.isHollow : Report → Bool
  | .null => true
  | .record fs => fs.isEmpty
  | _ => false

mutual

/-- A report without its hollow entries, which are taken out from the inside outwards. -/
def Report.prune : Report → Report
  | .record fs => .record (pruneFields fs)
  | r => r

/-- Named reports without hollow entries. -/
def pruneFields : List (String × Report) → List (String × Report)
  | [] => []
  | (name, r) :: fs =>
    if r.prune.isHollow then pruneFields fs else (name, r.prune) :: pruneFields fs

end

namespace Content

mutual

/-- A field has an override unless its pruned report is hollow, and then the override is that
report. -/
theorem override?_eq_prune : ∀ c : Content,
    c.override? = if c.full.prune.isHollow then none else some c.full.prune
  | unset => rfl
  | flag _ => rfl
  | number _ => rfl
  | text _ => rfl
  | record fs => by
    rw [override?_record, overrides_eq_prune fs]
    show _ = if (pruneFields (fullFields fs)).isEmpty then none
      else some (Report.record (pruneFields (fullFields fs)))
    simp only [List.isEmpty_iff]

/-- The overrides are the pruned reports. -/
theorem overrides_eq_prune : ∀ fs : List (String × Content),
    overrides fs = pruneFields (fullFields fs)
  | [] => rfl
  | (name, c) :: fs => by
    rw [overrides, fullFields, pruneFields, override?_eq_prune c, overrides_eq_prune fs]
    split
    · rename_i hnone
      split at hnone
      · rename_i hollow
        rw [if_pos hollow]
      · cases hnone
    · rename_i r hsome
      split at hsome
      · cases hsome
      · rename_i hfull
        cases hsome
        rw [if_neg hfull]

end

end Content

end StoreTuning
