import StoreTuning.Compile.Attempt
import StoreTuning.Settings.Lookup

/-!
# Option tables

A table says which setting goes to which field of a record, how it is read, and what stands in for
it when it is unspecified. A gated row is skipped when its key is absent, so that the field stays
unset. Rows take effect in order up to the first that fails (`OptionTable.assignments`).
-/

namespace StoreTuning

/-- The ways of a kind `κ` to read a setting, with results in `β`. -/
class Reader (κ : Type) (β : outParam Type) where
  /-- Reads the value of a key. -/
  read (kind : κ) (key : String) (v : Value) : Except LookupError β
  /-- A result as a value. -/
  toScalar : β → Scalar

instance : Reader Width Int where
  read w key v := v.readInteger key w
  toScalar := Scalar.int

/-- A way to read a setting: as text, as a truth value, or as an integer. -/
inductive SettingKind where
  | text
  | flag
  | integer (w : Width)
  deriving DecidableEq, Repr

instance : Reader SettingKind Scalar where
  read
    | .text, _, v => v.readText.map Scalar.text
    | .flag, key, v => (v.readFlag key).map Scalar.bool
    | .integer w, key, v => (v.readInteger key w).map Scalar.int
  toScalar := id

/-- One row of a table. -/
structure OptionRow (α κ : Type) where
  /-- The key of the setting. -/
  key : String
  /-- The field that it goes to. -/
  field : α
  /-- How it is read. -/
  kind : κ
  /-- What is read when the key is unspecified. Without it an unspecified key is an error. -/
  fallback? : Option Value := none
  /-- Whether the row is skipped when the key is absent. -/
  gated : Bool := false

/-- The value of a key, on its way to a field. -/
structure Assignment (α β : Type) where
  key : String
  field : α
  value : β

variable {α κ β τ : Type} [Reader κ β]

/-- What a row makes of settings: nothing when it is skipped, else its value or its error. -/
def OptionRow.read? (r : OptionRow α κ) (s : Settings) : Option (Except LookupError β) :=
  if r.gated && !s.contains r.key then none
  else some (s.lookup r.key r.fallback? >>= Reader.read r.kind r.key)

namespace OptionTable

/-- The assignments of a table in order, up to the first row that fails, and its error. -/
def assignments (s : Settings) :
    List (OptionRow α κ) → List (Assignment α β) × Except LookupError Unit
  | [] => ([], .ok ())
  | r :: rs =>
    match r.read? s with
    | none => assignments s rs
    | some (.error e) => ([], .error e)
    | some (.ok v) =>
      let (done, result) := assignments s rs
      (⟨r.key, r.field, v⟩ :: done, result)

/-- The record of an assignment. -/
def assignmentRecord (recordName : String) (name : α → String) (a : Assignment α β) : Record where
  channel := .optionTable
  event := .assigned a.key recordName (name a.field) (Reader.toScalar κ a.value)

/-- A target after assignments, each of which `set` carries out. -/
def assign (set : τ → α → β → τ) (target : τ) (done : List (Assignment α β)) : τ :=
  done.foldl (fun t a => set t a.field a.value) target

/-- Applies a table to a target: every assignment is written to the journal, and the target comes
back if no row fails. -/
def apply (recordName : String) (name : α → String) (set : τ → α → β → τ) (s : Settings)
    (table : List (OptionRow α κ)) (target : τ) : Attempt LookupError τ :=
  let (done, result) := assignments s table
  { records := done.map (assignmentRecord (κ := κ) recordName name)
    queries := []
    outcome := result.map fun _ => assign set target done }

end OptionTable

end StoreTuning
