import StoreTuning.Proofs.Compile.NumberFields

/-!
# What a table assigns

A row of a table is skipped, or gives a value, or fails. A table makes the assignments of its rows
up to the first that fails, in order, and a target that is changed in place is left with these
(`OptionTable.carryOut_run`). If no row fails the target comes back, each field with the last value
that was assigned to it, and otherwise the error of that row is raised (`OptionTable.apply_prefix`).
-/

namespace StoreTuning

variable {α β γ κ ρ τ : Type}

/-! ## Targets -/

/-- A record `τ` as its fields, which `α` names, and the rest of it. A field takes a `β`, and then
shows it as a `γ`. -/
structure RecordFields (τ α β γ ρ : Type) [DecidableEq α] where
  /-- What a field shows. -/
  get : τ → α → γ
  /-- The record with a value assigned to a field. -/
  set : τ → α → β → τ
  /-- How a value shows. -/
  shown : β → γ
  /-- What is no field. -/
  rest : τ → ρ
  /-- A field shows what was assigned to it, and the other fields stay. -/
  get_set : ∀ t f v g, get (set t f v) g = if g = f then shown v else get t g
  /-- The rest stays. -/
  rest_set : ∀ t f v, rest (set t f v) = rest t
  /-- The fields and the rest make up the record. -/
  ext : ∀ {t u}, (∀ f, get t f = get u f) → rest t = rest u → t = u

/-- A record with numeric fields takes numbers. -/
def NumberFields.recordFields [DecidableEq α] (F : NumberFields τ α γ) :
    RecordFields τ α Int (Option Int) γ where
  get := F.number
  set := F.put
  shown := some
  rest := F.rest
  get_set := F.number_put
  rest_set := F.rest_put
  ext := F.ext

/-- A record that has fields of any names, which hold values of any kind once they are assigned. -/
def namedFields : RecordFields (String → Option Scalar) String Scalar (Option Scalar) Unit where
  get t := t
  set t f v g := if g = f then some v else t g
  shown := some
  rest _ := ()
  get_set _ _ _ _ := rfl
  rest_set _ _ _ := rfl
  ext h _ := funext h

namespace RecordFields

variable [DecidableEq α] (F : RecordFields τ α β γ ρ)

/-- The order of assignments to two fields does not matter. -/
theorem set_comm (t : τ) {f g : α} (v w : β) (h : f ≠ g) :
    F.set (F.set t f v) g w = F.set (F.set t g w) f v := by
  refine F.ext (fun k => ?_) (by simp only [F.rest_set])
  simp only [F.get_set]
  by_cases hf : k = f
  · have hg : k ≠ g := fun heq => h (hf.symm.trans heq)
    rw [if_neg hg, if_pos hf, if_pos hf]
  · rw [if_neg hf, if_neg hf]

/-- A field that is assigned nothing shows what it did. -/
theorem get_assign_of_ne {f : α} {done : List (Assignment α β)} (t : τ)
    (h : ∀ a ∈ done, a.field ≠ f) : F.get (OptionTable.assign F.set t done) f = F.get t f := by
  induction done generalizing t with
  | nil => rfl
  | cons a done ih =>
    obtain ⟨ha, hdone⟩ := List.forall_mem_cons.1 h
    exact (ih (F.set t a.field a.value) hdone).trans
      ((F.get_set t a.field a.value f).trans (if_neg ha.symm))

/-- A field shows the last value that was assigned to it. -/
theorem get_assign_last (t : τ) (before : List (Assignment α β)) (a : Assignment α β)
    {after : List (Assignment α β)} (h : ∀ b ∈ after, b.field ≠ a.field) :
    F.get (OptionTable.assign F.set t (before ++ a :: after)) a.field = F.shown a.value := by
  rw [OptionTable.assign, List.foldl_append]
  exact (F.get_assign_of_ne _ h).trans ((F.get_set _ a.field a.value a.field).trans (if_pos rfl))

/-- Assignments leave the rest. -/
theorem rest_assign (t : τ) (done : List (Assignment α β)) :
    F.rest (OptionTable.assign F.set t done) = F.rest t := by
  induction done generalizing t with
  | nil => rfl
  | cons a done ih =>
    exact (ih (F.set t a.field a.value)).trans (F.rest_set t a.field a.value)

end RecordFields

/-! ## Rows -/

variable [Reader κ β]

namespace OptionRow

/-- How the row fails, if it does. -/
def failure? (s : Settings) (r : OptionRow α κ) : Option LookupError :=
  (r.read? s).bind errorOf?

/-- The assignment that the row makes, if it gives a value. -/
def assignment? (s : Settings) (r : OptionRow α κ) : Option (Assignment α β) :=
  ((r.read? s).bind Except.toOption).map fun v => ⟨r.key, r.field, v⟩

variable {s : Settings} {r : OptionRow α κ}

/-- A row that makes an assignment makes it to its own field. -/
theorem field_of_assignment? {a : Assignment α β} (h : r.assignment? s = some a) :
    a.field = r.field := by
  obtain ⟨v, -, rfl⟩ := Option.map_eq_some_iff.1 h
  rfl

end OptionRow

/-- A target and the journal while a table is applied. -/
structure Applying (τ : Type) where
  /-- The target as it is by now. -/
  target : τ
  /-- The records up to now. -/
  records : List Record

namespace OptionTable

/-- A row carried out on a target in place. A value that is read is assigned and then written to the
journal; an error leaves the target and the journal as they are. -/
def carryOutRow (recordName : String) (name : α → String) (set : τ → α → β → τ) (s : Settings)
    (r : OptionRow α κ) : EStateM LookupError (Applying τ) Unit :=
  match r.read? s with
  | none => pure ()
  | some (.error e) => throw e
  | some (.ok v) => do
    modify fun x => { x with target := set x.target r.field v }
    modify fun x => { x with
      records := x.records ++ [assignmentRecord (κ := κ) recordName name ⟨r.key, r.field, v⟩] }

/-- A table carried out on a target in place, row by row. -/
def carryOut (recordName : String) (name : α → String) (set : τ → α → β → τ) (s : Settings)
    (table : List (OptionRow α κ)) : EStateM LookupError (Applying τ) Unit :=
  table.forM (carryOutRow recordName name set s)

/-- The assignments of the rows before the first that fails. -/
def prefixAssignments (s : Settings) (table : List (OptionRow α κ)) : List (Assignment α β) :=
  (table.takeWhile fun r => (r.failure? s).isNone).filterMap (·.assignment? s)

/-- How the first row that fails does, if one does. -/
def firstFailure? (s : Settings) (table : List (OptionRow α κ)) : Option LookupError :=
  table.findSome? (·.failure? s)

/-- The outcome of a failure, or of a result if there is none. -/
def outcomeOr (e? : Option LookupError) (a : τ) : Except LookupError τ :=
  e?.elim (.ok a) .error

/-- The end of a table that is carried out in place. -/
def endingOr (e? : Option LookupError) (x : Applying τ) :
    EStateM.Result LookupError (Applying τ) Unit :=
  e?.elim (.ok () x) (.error · x)

section

variable {s : Settings} {r : OptionRow α κ}

/-- A row that is skipped assigns nothing and does not fail. -/
theorem cons_of_skipped (h : r.read? s = none) (rs : List (OptionRow α κ)) :
    prefixAssignments s (r :: rs) = prefixAssignments s rs ∧
      firstFailure? s (r :: rs) = firstFailure? s rs := by
  have hfail : r.failure? s = none := by rw [OptionRow.failure?, h]; rfl
  have hmake : r.assignment? s = none := by rw [OptionRow.assignment?, h]; rfl
  constructor
  · rw [prefixAssignments, List.takeWhile_cons, hfail, Option.isNone_none, if_pos rfl,
      List.filterMap_cons_none hmake]
    rfl
  · rw [firstFailure?, List.findSome?_cons, hfail]
    rfl

/-- A row that fails ends the table. -/
theorem cons_of_error {e : LookupError} (h : r.read? s = some (.error e))
    (rs : List (OptionRow α κ)) :
    prefixAssignments s (r :: rs) = [] ∧ firstFailure? s (r :: rs) = some e := by
  have hfail : r.failure? s = some e := by rw [OptionRow.failure?, h]; rfl
  constructor
  · rw [prefixAssignments, List.takeWhile_cons, hfail, Option.isNone_some,
      if_neg Bool.false_ne_true, List.filterMap_nil]
  · rw [firstFailure?, List.findSome?_cons, hfail]

/-- A row with a value assigns it before what the others assign. -/
theorem cons_of_ok {v : β} (h : r.read? s = some (.ok v)) (rs : List (OptionRow α κ)) :
    prefixAssignments s (r :: rs) = ⟨r.key, r.field, v⟩ :: prefixAssignments s rs ∧
      firstFailure? s (r :: rs) = firstFailure? s rs := by
  have hfail : r.failure? s = none := by rw [OptionRow.failure?, h]; rfl
  have hmake : r.assignment? s = some ⟨r.key, r.field, v⟩ := by
    rw [OptionRow.assignment?, h]
    rfl
  constructor
  · rw [prefixAssignments, List.takeWhile_cons, hfail, Option.isNone_none, if_pos rfl,
      List.filterMap_cons_some hmake]
    rfl
  · rw [firstFailure?, List.findSome?_cons, hfail]
    rfl

end

/-- A table makes the assignments of the rows before the first that fails, and fails as that one
does. -/
theorem assignments_eq (s : Settings) (table : List (OptionRow α κ)) :
    assignments s table = (prefixAssignments s table, outcomeOr (firstFailure? s table) ()) := by
  induction table with
  | nil => rfl
  | cons r rs ih =>
    rcases h : r.read? s with _ | e | v
    · obtain ⟨hdone, hfail⟩ := cons_of_skipped h rs
      simp only [assignments, h, ih, hdone, hfail]
    · obtain ⟨hdone, hfail⟩ := cons_of_error h rs
      simp only [assignments, h, hdone, hfail]
      rfl
    · obtain ⟨hdone, hfail⟩ := cons_of_ok h rs
      simp only [assignments, h, ih, hdone, hfail]

/-- A table is applied as its assignments and its failure have it. -/
theorem apply_eq (recordName : String) (name : α → String) (set : τ → α → β → τ) (s : Settings)
    (table : List (OptionRow α κ)) (target : τ) :
    apply recordName name set s table target =
      ⟨(prefixAssignments s table).map (assignmentRecord (κ := κ) recordName name), [],
        outcomeOr (firstFailure? s table) (assign set target (prefixAssignments s table))⟩ := by
  rw [apply, assignments_eq]
  cases firstFailure? s table <;> rfl

/-- A target that is changed in place has the assignments before the first failure when the table
ends, and the journal has a record for each of them. -/
theorem carryOut_run (recordName : String) (name : α → String) (set : τ → α → β → τ)
    (s : Settings) (table : List (OptionRow α κ)) (x : Applying τ) :
    (carryOut recordName name set s table).run x =
      endingOr (firstFailure? s table)
        ⟨assign set x.target (prefixAssignments s table), x.records ++
          (prefixAssignments s table).map (assignmentRecord (κ := κ) recordName name)⟩ := by
  induction table generalizing x with
  | nil =>
    show EStateM.Result.ok () x = .ok () ⟨x.target, x.records ++ []⟩
    rw [List.append_nil]
  | cons r rs ih =>
    have hcons : carryOut recordName name set s (r :: rs) =
        carryOutRow recordName name set s r >>= fun _ => carryOut recordName name set s rs :=
      List.forM_cons
    rw [hcons]
    rcases h : r.read? s with _ | e | v
    · obtain ⟨hdone, hfail⟩ := cons_of_skipped h rs
      rw [hdone, hfail, ← ih x, carryOutRow, h]
      rfl
    · obtain ⟨hdone, hfail⟩ := cons_of_error h rs
      rw [hdone, hfail, carryOutRow, h, List.map_nil, List.append_nil]
      rfl
    · obtain ⟨hdone, hfail⟩ := cons_of_ok h rs
      rw [hdone, hfail, List.map_cons, List.append_cons, carryOutRow, h]
      exact ih ⟨set x.target r.field v, _⟩

/-- A table in two parts is applied part by part, the second if the first succeeds. -/
theorem apply_append (recordName : String) (name : α → String) (set : τ → α → β → τ)
    (s : Settings) (table rest : List (OptionRow α κ)) (target : τ) :
    apply recordName name set s (table ++ rest) target =
      apply recordName name set s table target >>= apply recordName name set s rest := by
  induction table generalizing target with
  | nil => rfl
  | cons r rs ih =>
    rw [List.cons_append, apply_cons, apply_cons, bind_assoc]
    exact bind_congr ih

/-- A table makes the assignments of the rows before the first that fails, in order, and none after
it. The journal has one record for each of them, at the lowest level and in the same order, which
says what was assigned to which field, and for which key. A target that is changed in place is left
with exactly these assignments: each field shows the last value that was assigned to it, the other
fields what they did, and nothing else is touched. If no row fails it is the result, and else the
error is that of the first row that fails. So a table in two parts is applied as the first part, and
then the second if the first succeeds. -/
theorem apply_prefix [DecidableEq α] (F : RecordFields τ α β γ ρ) (recordName : String)
    (name : α → String) (s : Settings) (table : List (OptionRow α κ)) (target : τ) :
    let done := prefixAssignments s table
    let left := assign F.set target done
    let records := done.map (assignmentRecord (κ := κ) recordName name)
    apply recordName name F.set s table target =
      ⟨records, [], outcomeOr (firstFailure? s table) left⟩ ∧
    (carryOut recordName name F.set s table).run ⟨target, []⟩ =
      endingOr (firstFailure? s table) ⟨left, records⟩ ∧
    (∀ before a after, done = before ++ a :: after → (∀ b ∈ after, b.field ≠ a.field) →
      F.get left a.field = F.shown a.value) ∧
    (∀ f, (∀ a ∈ done, a.field ≠ f) → F.get left f = F.get target f) ∧
    F.rest left = F.rest target ∧
    (∀ r ∈ records, r.event.level = .debug) ∧
    records.map (·.event.message) = done.map (fun a => a.key ++ " -> " ++ recordName ++ "." ++
      name a.field ++ " = " ++ (Reader.toScalar κ a.value).quoted) ∧
    ∀ rest, apply recordName name F.set s (table ++ rest) target =
      apply recordName name F.set s table target >>= apply recordName name F.set s rest := by
  intro done left records
  refine ⟨apply_eq recordName name F.set s table target,
    carryOut_run recordName name F.set s table ⟨target, []⟩, fun before a after hdone hafter => ?_,
    fun f hf => F.get_assign_of_ne target hf, F.rest_assign target done, fun r hr => ?_,
    List.map_map, fun rest => apply_append recordName name F.set s table rest target⟩
  · show F.get (assign F.set target done) a.field = F.shown a.value
    rw [hdone]
    exact F.get_assign_last target before a hafter
  · obtain ⟨a, -, rfl⟩ := List.mem_map.1 hr
    rfl

/-- Settings of several kinds, one of which is no integer. -/
def mixedSettings : Settings :=
  .ofPairs [("i", .text "12"), ("b", .text "TRUE"), ("bad", .text "x"), ("s", .text " hi ")]

/-- A table that assigns one field twice, skips a row, and then fails. -/
def mixedTable : List (OptionRow String SettingKind) := [
  { key := "i", field := "first", kind := .integer .int },
  { key := "absent", field := "first", kind := .text, gated := true },
  { key := "b", field := "second", kind := .flag },
  { key := "i", field := "first", kind := .text },
  { key := "bad", field := "second", kind := .integer .long },
  { key := "s", field := "third", kind := .text }]

/-- The mixed table stops at its fifth row. By then the first field has its second value, and the
third is never reached. -/
theorem apply_prefix_mixedTable :
    ∃ left : Applying (String → Option Scalar),
      (carryOut "Target" id namedFields.set mixedSettings mixedTable).run ⟨fun _ => none, []⟩ =
        .error (.invalid "bad" (.text "x") (.integer .long)) left ∧
      left.target "first" = some (.text "12") ∧ left.target "second" = some (.bool true) ∧
      left.target "third" = none ∧ left.records.length = 3 := by
  obtain ⟨-, hrun, hlast, hkept, -⟩ :=
    apply_prefix namedFields "Target" id mixedSettings mixedTable fun _ => none
  have hdone : prefixAssignments mixedSettings mixedTable =
      [⟨"i", "first", .int 12⟩, ⟨"b", "second", .bool true⟩, ⟨"i", "first", .text "12"⟩] := rfl
  rw [hdone] at hrun hlast hkept
  refine ⟨_, hrun, ?_, ?_, hkept "third" (by decide), rfl⟩
  · exact hlast [⟨"i", "first", .int 12⟩, ⟨"b", "second", .bool true⟩] ⟨"i", "first", .text "12"⟩ []
      rfl (by decide)
  · exact hlast [⟨"i", "first", .int 12⟩] ⟨"b", "second", .bool true⟩ [⟨"i", "first", .text "12"⟩]
      rfl (by decide)

end OptionTable

end StoreTuning
