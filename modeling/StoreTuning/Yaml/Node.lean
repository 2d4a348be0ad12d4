import StoreTuning.Yaml.Tag

/-!
# YAML: nodes

A document as a graph. Nodes are numbered, and collections give their parts by number, so a node may
have several places and may even be a part of itself.
-/

namespace StoreTuning.Yaml

/-- The number of a node. -/
abbrev Ref := Nat

/-- What a node is made of. -/
inductive Content where
  | scalar (text : Scalar)
  | sequence (items : List Ref)
  | mapping (entries : List (Ref × Ref))
  deriving Repr, Inhabited

/-- A node of a document. -/
structure Node where
  tag : Tag
  content : Content
  deriving Repr

/-- A node that was left out. -/
def Node.empty : Node :=
  ⟨.null, .scalar (.text "")⟩

/-- Nodes by their numbers. -/
abbrev Graph := Array Node

/-- A document: its nodes, and the number of the one at the top. -/
structure Document where
  nodes : Graph
  top : Ref

namespace Graph

/-- Whether a node is of a kind. -/
def hasTag (g : Graph) (t : Tag) (r : Ref) : Bool :=
  g[r]?.any (·.tag == t)

/-- What a node is made of. -/
def content? (g : Graph) (r : Ref) : Option Content :=
  g[r]?.map (·.content)

/-- The entries of a mapping. -/
def entries? (g : Graph) (r : Ref) : Option (List (Ref × Ref)) :=
  match g.content? r with
  | some (.mapping es) => some es
  | _ => none

/-- The text of a node that is read as a scalar, within a number of steps: its own text, or in a
mapping the one of the first value whose key is an equals sign. -/
def textUpTo (g : Graph) : Nat → Ref → Option Scalar
  | 0, _ => none
  | steps + 1, r => do
    match ← g.content? r with
    | .scalar text => some text
    | .sequence _ => none
    | .mapping es =>
      let (_, v) ← es.find? fun e => g.hasTag .equals e.1
      textUpTo g steps v

/-- The text of a node that is read as a scalar. It takes no more steps than there are nodes, unless
the node is looked for in itself. A timestamp has a text of its own or none. -/
def text? (g : Graph) (r : Ref) : Option Scalar :=
  if g.hasTag .timestamp r && (g.entries? r).isSome then none else g.textUpTo (g.size + 1) r

end Graph

end StoreTuning.Yaml
