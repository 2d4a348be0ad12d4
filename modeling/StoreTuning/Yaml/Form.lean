import StoreTuning.Yaml.Merge

/-!
# YAML: the forms of nodes

What the nodes of a document are read as: a node of a scalar kind as a scalar, and a collection as a
form that still gives its parts by number. Collections wait until those met before them have their
form, so a document is read level by level.
-/

namespace StoreTuning.Yaml

/-- A scalar as a key, with its source if it is a result that is no number. All that are spelt
`.nan` are one and have no source; any other one comes from its node. -/
structure Key where
  scalar : Scalar
  source : Option Ref := none
  deriving DecidableEq, Repr

namespace Key

/-- Whether a key is the result that is no number. -/
def isNan (k : Key) : Bool :=
  k.scalar = .float .nan

/-- Whether two keys are one: equal scalars, or the same result that is no number. -/
def same (k l : Key) : Bool :=
  k.scalar.same l.scalar || (k.isNan && k == l)

/-- The key that a scalar of a node is. -/
def ofScalar (r : Ref) (text scalar : Scalar) : Key :=
  match text, scalar with
  | .text s, .float .nan => ⟨scalar, if isNotANumber (floatParts s).2 then none else some r⟩
  | _, _ => ⟨scalar, none⟩

end Key

/-- What a node is read as. -/
inductive Form where
  | scalar (k : Key)
  | list (items : List Ref)
  | table (entries : List (Key × Ref))
  | set (members : List Key)
  /-- A list of keys with their values. -/
  | pairs (entries : List (Ref × Ref))
  deriving Repr

/-- A reading of forms so far. -/
structure Forming where
  nodes : Graph
  /-- The forms of the nodes that have been met. -/
  forms : Array (Option Form)
  /-- The collections that have been met and not read. -/
  waiting : List Ref

/-- A step of a reading of forms, which may fail. -/
abbrev Former (α : Type) := StateT Forming Option α

namespace Former

/-- Gives a node its form. -/
def assign (r : Ref) (f : Form) : Former Unit :=
  modify fun s => { s with forms := s.forms.setIfInBounds r (some f) }

/-- The form of a node that has been met. -/
def form? (r : Ref) : Former (Option Form) :=
  return (← get).forms[r]?.join

/-- A node. -/
def node (r : Ref) : Former Node := do
  match (← get).nodes[r]? with
  | some n => return n
  | none => failure

/-- Whether nodes of a kind are read as collections. -/
def isCollection : Tag → Bool
  | .sequence | .mapping | .set | .pairs => true
  | _ => false

/-- Meets a node: a scalar is read, and a collection has to wait. -/
def visit (r : Ref) : Former Unit := do
  if (← form? r).isSome then return
  let t := (← node r).tag
  if isCollection t then
    assign r (.list [])
    modify fun s => { s with waiting := s.waiting ++ [r] }
  else
    match (← get).nodes.text? r with
    | none => failure
    | some text =>
      match t.scalar? text with
      | none => failure
      | some scalar => assign r (.scalar (.ofScalar r text scalar))

/-- Meets a node that is a key. -/
def key (r : Ref) : Former Key := do
  visit r
  match ← form? r with
  | some (.scalar k) => return k
  | _ => failure

/-- The entries of a mapping with its merges carried out. A key that is there already keeps its
place and takes the new value. -/
def entries (depth : Nat) (r : Ref) : Former (List (Key × Ref)) := do
  let s ← get
  match (Change.settled (Change.settleTo depth) r).run s.nodes with
  | none => failure
  | some (es, nodes) =>
    set { s with nodes }
    let pairs ← es.mapM fun (k, v) => do
      let k ← key k
      visit v
      return (k, v)
    let _ : BEq Key := ⟨Key.same⟩
    return Entries.ofList pairs

/-- The only entry of a mapping. -/
def onlyEntry (r : Ref) : Former (Ref × Ref) := do
  match (← get).nodes.entries? r with
  | some [(k, v)] =>
    visit k
    visit v
    return (k, v)
  | _ => failure

/-- The form of a collection, which has to be built as its kind is. -/
def collection (depth : Nat) (r : Ref) : Former Form := do
  let n ← node r
  match n.tag, n.content with
  | .sequence, .sequence items =>
    items.forM visit
    return .list items
  | .mapping, .mapping _ => return .table (← entries depth r)
  | .set, .mapping _ => return .set ((← entries depth r).map (·.1))
  | .pairs, .sequence items => return .pairs (← items.mapM onlyEntry)
  | _, _ => failure

/-- Reads the collections that wait, of which there are at most `limit`. -/
def readWaiting (depth : Nat) : Nat → Former Unit
  | 0 => failure
  | limit + 1 => do
    match (← get).waiting with
    | [] => return
    | r :: rest =>
      modify fun s => { s with waiting := rest }
      assign r (← collection depth r)
      readWaiting depth limit

end Former

/-- The forms of the nodes of a document. -/
def Document.forms? (d : Document) : Option (Array (Option Form)) := do
  let read : Former Unit := do
    Former.visit d.top
    Former.readWaiting d.nodes.mergeDepth (d.nodes.size + 1)
  let (_, s) ← read.run ⟨d.nodes, Array.replicate d.nodes.size none, []⟩
  return s.forms

end StoreTuning.Yaml
