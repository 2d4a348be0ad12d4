import StoreTuning.Value.Printer
import StoreTuning.Yaml.Form

/-!
# YAML: from forms to values

A value is a tree, and a document a graph, so each part is unfolded in each of its places. The
tables that make up the paths of settings have to end somewhere. Within a list, what contains itself
is cut short where it comes again.
-/

namespace StoreTuning.Yaml

/-- How a collection is shown within itself. -/
def Form.cut : Form → Foreign
  | .table _ | .set _ => { quoted := "\x7b...\x7d", text := "\x7b...\x7d" }
  | _ => { quoted := "[...]", text := "[...]" }

/-- An order in which the members of a set are shown, given how they are shown in the order of the
text. A set has no order of its own. -/
structure SetOrder where
  arrange : List String → List String
  perm : ∀ shown, (arrange shown).Perm shown

/-- The order of the text. -/
def SetOrder.written : SetOrder :=
  ⟨id, List.Perm.refl⟩

/-- A set as a value that no setting is read as. -/
def foreignSet (order : SetOrder) (members : List Key) : Foreign :=
  let shown :=
    if members.isEmpty then "set()"
    else
      let parts := order.arrange (members.map (·.scalar.quoted))
      "\x7b" ++ String.intercalate ", " parts ++ "\x7d"
  { quoted := shown, text := shown, isEmpty := members.isEmpty }

/-- A pair as a value that no setting is read as. -/
def foreignPair (k v : Value) : Foreign :=
  let shown := "(" ++ k.quoted ++ ", " ++ v.quoted ++ ")"
  { quoted := shown, text := shown }

/-- The value of a node, and whether it is the same wherever the node stands. -/
structure Unfolded where
  value : Value
  isWhole : Bool

/-- A step with the values of nodes that are known to be the same wherever they stand. -/
abbrev Unfolder (α : Type) := StateT (Array (Option Value)) Option α

variable (order : SetOrder) (forms : Array (Option Form))

/-- The value of a node within others, nested at most to a depth. -/
def unfoldTo : Nat → List Ref → Ref → Unfolder Unfolded
  | 0, _, _ => failure
  | depth + 1, around, r => do
    if let some v := (← get)[r]?.join then return ⟨v, true⟩
    match forms[r]?.join with
    | none => failure
    | some form =>
      if around.contains r then return ⟨.other form.cut, false⟩
      let part := unfoldTo depth (r :: around)
      let all : Unfolded ←
        match form with
        | .scalar k => pure ⟨.scalar k.scalar, true⟩
        | .set members => pure ⟨.other (foreignSet order members), true⟩
        | .list items => do
          let parts ← items.mapM part
          pure ⟨.list (parts.map (·.value)), parts.all (·.isWhole)⟩
        | .table es => do
          let parts ← es.mapM fun e => return (e.1.scalar, ← part e.2)
          pure ⟨.map (parts.map fun p => (p.1, p.2.value)), parts.all (·.2.isWhole)⟩
        | .pairs es => do
          let parts ← es.mapM fun e => return (← part e.1, ← part e.2)
          pure ⟨.list (parts.map fun p => .other (foreignPair p.1.value p.2.value)),
            parts.all fun p => p.1.isWhole && p.2.isWhole⟩
      if all.isWhole then modify (·.setIfInBounds r (some all.value))
      return all

/-- The value of a node that is no part of a path. The nodes around another are all different, so
they are not nested deeper than there are nodes. -/
def unfold (r : Ref) : Unfolder Value :=
  return (← unfoldTo order forms (forms.size + 1) [] r).value

/-- The entries of a table on the path of a setting, which may have at most `depth` tables. -/
def tableTo : Nat → List (Key × Ref) → Unfolder (List (Scalar × Value))
  | 0, _ => failure
  | depth + 1, es =>
    es.mapM fun (k, r) => do
      match forms[r]?.join with
      | some (.table sub) => return (k.scalar, .map (← tableTo depth sub))
      | _ => return (k.scalar, ← unfold order forms r)

/-- The value of the node at the top. A way down through more tables than there are nodes has no
end. -/
def topValue? (top : Ref) : Option Value := do
  let read : Unfolder Value := do
    match forms[top]?.join with
    | some (.table es) => return .map (← tableTo order forms (forms.size + 1) es)
    | _ => unfold order forms top
  let (v, _) ← read.run (Array.replicate forms.size none)
  return v

/-- The value that a document stands for. -/
def Document.value? (order : SetOrder) (d : Document) : Option Value := do
  topValue? order (← d.forms?) d.top

end StoreTuning.Yaml
