import StoreTuning.Yaml.Node
import StoreTuning.Yaml.Token

/-!
# YAML: the grammar

How tokens make up nodes. Nodes are read with the tokens that are left, the nodes so far, and the
names that have been given to nodes (`Reading`). A node has its number and its name before its parts
are read, so that it can be a part of itself. What a handle of tags stands for is fixed before a
document starts.
-/

namespace StoreTuning.Yaml

/-- The state of a reading. -/
structure Reading where
  /-- The tokens that are left. -/
  tokens : List Token
  /-- The nodes that have a name. -/
  anchors : List (String × Ref) := []
  /-- The nodes that have a number. -/
  nodes : Graph := #[]

/-- A step of a reading, which may fail. -/
abbrev Step (α : Type) := StateT Reading Option α

namespace Step

/-- The token that comes next. -/
def peek : Step (Option Token) :=
  return (← get).tokens.head?

/-- Goes on to the next token. -/
def skip : Step Unit :=
  modify fun r => { r with tokens := r.tokens.tail }

/-- Goes on after a token if it comes next, and tells whether it did. -/
def take (t : Token) : Step Bool := do
  if (← peek) = some t then
    skip
    return true
  else return false

/-- Goes on after a token that has to come next. -/
def expect (t : Token) : Step Unit := do
  if !(← take t) then failure

/-- What a step reads again and again until it finds nothing more, at most `limit` times. -/
def collectUpTo {α : Type} (read : Step (Option α)) : Nat → Step (List α)
  | 0 => failure
  | limit + 1 => do
    match ← read with
    | none => return []
    | some x => return x :: (← collectUpTo read limit)

/-- What a step that goes on by one token at least reads again and again until it finds nothing
more. -/
def collect {α : Type} (read : Step (Option α)) : Step (List α) := do
  collectUpTo read ((← get).tokens.length + 1)

/-- Gives a new node a number. -/
def add (n : Node) : Step Ref := do
  let r := (← get).nodes.size
  modify fun s => { s with nodes := s.nodes.push n }
  return r

/-- Says what a node is. -/
def define (r : Ref) (n : Node) : Step Unit :=
  modify fun s => { s with nodes := s.nodes.setIfInBounds r n }

/-- Gives a node a name, which no other node may have. -/
def name (r : Ref) : Option String → Step Unit
  | none => return
  | some a => do
    if ((← get).anchors.lookup a).isSome then failure
    modify fun s => { s with anchors := (a, r) :: s.anchors }

/-- The node that has a name. -/
def named (a : String) : Step Ref := do
  match (← get).anchors.lookup a with
  | some r => return r
  | none => failure

end Step

open Step

/-! ## Tags and names -/

/-- What handles of tags stand for. -/
abbrev Handles := List (String × String)

/-- What handles stand for where no directive says otherwise. -/
def standardHandles : Handles :=
  [("!", "!"), ("!!", "tag:yaml.org,2002:")]

/-- The full name of a tag. -/
def TagName.full? (handles : Handles) : TagName → Option String
  | verbatim name => some name
  | handled handle suffix => (handles.lookup handle).map (· ++ suffix)

/-- What may stand before a node: a name for it and a tag. -/
structure Properties where
  anchor : Option String := none
  tag : Option String := none

/-- Whether there are properties. -/
def Properties.any (p : Properties) : Bool :=
  p.anchor.isSome || p.tag.isSome

/-- The anchor that may come next. -/
def anchor? : Step (Option String) := do
  match ← peek with
  | some (.anchor a) =>
    skip
    return some a
  | _ => return none

/-- The full name of the tag that may come next. -/
def tagFrom? (handles : Handles) : Step (Option String) := do
  match ← peek with
  | some (.tag t) =>
    skip
    match t.full? handles with
    | some name => return some name
    | none => failure
  | _ => return none

/-- The properties that come next, in either order. -/
def properties (handles : Handles) : Step Properties := do
  match ← anchor? with
  | some a => return { anchor := some a, tag := ← tagFrom? handles }
  | none =>
    let tag ← tagFrom? handles
    let anchor ← if tag.isSome then anchor? else pure none
    return { anchor, tag }

/-- The kind that a scalar has by its spelling. -/
def spelledTag : Scalar → Tag
  | .text s => .ofPlain s
  | _ => .text

/-- The kind of a scalar. The tag `!` makes the spelling decide, as it does without quotes. -/
def scalarTag (plain : Bool) (text : Scalar) : Option String → Tag
  | none => if plain then spelledTag text else .text
  | some "!" => spelledTag text
  | some name => .ofName name

/-- The kind of a collection, given the kind of its form. -/
def collectionTag (form : Tag) : Option String → Tag
  | none | some "!" => form
  | some name => .ofName name

/-! ## Nodes -/

/-- Where a node stands. -/
inductive Place where
  /-- In a collection in flow form. -/
  | flow
  /-- In block form. -/
  | block
  /-- As a key or a value in block form, where a sequence needs no indentation of its own. -/
  | entry
  deriving DecidableEq

section

variable (node : Place → Step Ref)

/-- A node, or the empty one if one of some tokens comes next. -/
def nodeUnless (place : Place) (stops : List Token) : Step Ref := do
  if (← peek).any stops.contains then add .empty else node place

/-- An entry of a mapping after the mark of its key. -/
def entryUntil (place : Place) (stops : List Token) : Step (Ref × Ref) := do
  let k ← nodeUnless node place stops
  if ← take .value then return (k, ← nodeUnless node place stops) else return (k, ← add .empty)

/-- The items of a sequence in block form. -/
def blockItems : Step (List Ref) := do
  let items ← collect do
    if ← take .item then some <$> nodeUnless node .block [.item, .blockEnd] else return none
  expect .blockEnd
  return items

/-- The items of a sequence in block form without indentation of its own. -/
def bareItems : Step (List Ref) :=
  collect do
    if ← take .item then
      some <$> nodeUnless node .block [.item, .key, .value, .blockEnd]
    else return none

/-- The entries of a mapping in block form. -/
def blockEntries : Step (List (Ref × Ref)) := do
  let entries ← collect do
    if ← take .key then some <$> entryUntil node .entry [.key, .value, .blockEnd]
    else return none
  expect .blockEnd
  return entries

/-- The members of a collection in flow form after its opening bracket, with commas between them and
perhaps one at the end. -/
def flowMembers {α : Type} (closing : Token) (member : Step α) : Step (List α) := do
  if ← take closing then return []
  let first ← member
  let others ← collect do
    if ← take closing then return none
    expect .comma
    if ← take closing then return none
    some <$> member
  return first :: others

/-- An item of a sequence in flow form; one with the mark of a key is a mapping of one entry. -/
def flowItem : Step Ref := do
  if ← take .key then
    add ⟨.mapping, .mapping [← entryUntil node .flow [.value, .comma, .flowSequenceEnd]]⟩
  else node .flow

/-- An entry of a mapping in flow form; one without the mark of a key has no value. -/
def flowEntry : Step (Ref × Ref) := do
  if ← take .key then entryUntil node .flow [.value, .comma, .flowMappingEnd]
  else return (← node .flow, ← add .empty)

/-- What stands at a place after its properties. -/
def content (place : Place) (p : Properties) : Step Node := do
  let sequence (items : List Ref) : Node := ⟨collectionTag .sequence p.tag, .sequence items⟩
  let mapping (es : List (Ref × Ref)) : Node := ⟨collectionTag .mapping p.tag, .mapping es⟩
  match ← peek with
  | some (.scalar plain text) =>
    skip
    return ⟨scalarTag plain text p.tag, .scalar text⟩
  | some .flowSequence =>
    skip
    return sequence (← flowMembers .flowSequenceEnd (flowItem node))
  | some .flowMapping =>
    skip
    return mapping (← flowMembers .flowMappingEnd (flowEntry node))
  | t =>
    if t = some .item && place = .entry then return sequence (← bareItems node)
    else if t = some .blockSequence && place != .flow then
      skip
      return sequence (← blockItems node)
    else if t = some .blockMapping && place != .flow then
      skip
      return mapping (← blockEntries node)
    else if p.any then return ⟨scalarTag true (.text "") p.tag, .scalar (.text "")⟩
    else failure

end

/-- A node that is nested at most to a depth. -/
def nodeTo (handles : Handles) : Nat → Place → Step Ref
  | 0, _ => failure
  | depth + 1, place => do
    match ← peek with
    | some (.alias a) =>
      skip
      named a
    | _ =>
      let p ← properties handles
      let r ← add .empty
      name r p.anchor
      define r (← content (nodeTo handles depth) place p)
      return r

/-- The longest chain of nodes, each of which is a part of the one before, that is read. -/
def nestingLimit : Nat := 489

/-! ## Documents -/

/-- The directive that may come next. -/
def directiveFrom? : Step (Option Directive) := do
  match ← peek with
  | some (.directive d) =>
    skip
    return some d
  | _ => return none

/-- Whether directives have at most one version, which has to be of the first kind. -/
def versionsAgree (ds : List Directive) : Bool :=
  let majors := ds.filterMap fun
    | .version major _ => some major
    | _ => none
  majors.length ≤ 1 && majors.all (· == 1)

/-- The handles that directives define. -/
def handlesOf (ds : List Directive) : Handles :=
  ds.filterMap fun
    | .handle h stem => some (h, stem)
    | _ => none

/-- The content of a document whose start is marked. -/
def markedDocument : Step Ref := do
  let ds ← collect directiveFrom?
  let handles := handlesOf ds
  if !versionsAgree ds || !(handles.map (·.1)).Nodup then failure
  expect .documentStart
  match ← peek with
  | none | some (.directive _) | some .documentStart | some .documentEnd => add .empty
  | _ => nodeTo (handles ++ standardHandles) nestingLimit .block

/-- The node at the top of the only document. Without any document it is empty. -/
def document : Step Ref := do
  let top ←
    match ← peek with
    | none => add .empty
    | some (.directive _) | some .documentStart => markedDocument
    | _ => nodeTo standardHandles nestingLimit .block
  let _ ← collect do
    if ← take .documentEnd then return some () else return none
  if (← peek).isSome then failure
  return top

/-- The document that tokens make up. -/
def Document.ofTokens? (tokens : List Token) : Option Document :=
  (document.run { tokens }).map fun (top, reading) => ⟨reading.nodes, top⟩

end StoreTuning.Yaml
