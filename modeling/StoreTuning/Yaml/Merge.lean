import StoreTuning.Yaml.Node

/-!
# YAML: merging

A key of the kind `merge` brings the entries of other mappings into the one around it, before its
own, so that its own override them. The mappings that are brought in are merged first. An equals
sign as a key becomes text, in all the places of its node.
-/

namespace StoreTuning.Yaml

/-- A step that changes the nodes of a document, and may fail. -/
abbrev Change (α : Type) := StateT Graph Option α

namespace Change

/-- The entries of a mapping. -/
def entries (r : Ref) : Change (List (Ref × Ref)) := do
  match (← get).entries? r with
  | some es => return es
  | none => failure

/-- Gives a mapping other entries. -/
def setEntries (r : Ref) (es : List (Ref × Ref)) : Change Unit :=
  modify fun g => g.modify r fun n => { n with content := .mapping es }

/-- Makes a key text if it is an equals sign. -/
def retag (r : Ref) : Change Unit :=
  modify fun g => if g.hasTag .equals r then g.modify r ({ · with tag := .text }) else g

/-- Takes the first merge out of a mapping, and gives what it merges. -/
def takeMerge (r : Ref) : Change (Option Ref) := do
  let g ← get
  let es ← entries r
  match es.find? fun e => g.hasTag .merge e.1 with
  | none => return none
  | some (_, v) =>
    setEntries r (es.eraseP fun e => g.hasTag .merge e.1)
    return some v

section

variable (settle : Ref → Change Unit)

/-- The entries of a mapping that has been merged itself. -/
def settled (r : Ref) : Change (List (Ref × Ref)) := do
  settle r
  entries r

/-- The entries that the value of a merge brings in: those of a mapping, or those of several
mappings, of which earlier ones override later ones. -/
def brought (v : Ref) : Change (List (Ref × Ref)) := do
  match (← get).content? v with
  | some (.mapping _) => settled settle v
  | some (.sequence items) => return (← items.mapM (settled settle)).reverse.flatten
  | _ => failure

/-- The entries that at most `limit` merges of a mapping bring in. -/
def merges (r : Ref) : Nat → Change (List (Ref × Ref))
  | 0 => return []
  | limit + 1 => do
    match ← takeMerge r with
    | none => return []
    | some v =>
      let es ← brought settle v
      return es ++ (← merges r limit)

end

/-- Carries out the merges of a mapping, and those of the mappings that it brings in, nested at most
to a depth. -/
def settleTo : Nat → Ref → Change Unit
  | 0, _ => failure
  | depth + 1, r => do
    let more ← merges (settleTo depth) r (← entries r).length
    let es := more ++ (← entries r)
    setEntries r es
    es.forM fun e => retag e.1

end Change

/-- The number of entries of a node. -/
def Node.entryCount (n : Node) : Nat :=
  match n.content with
  | .mapping es => es.length
  | _ => 0

/-- How deep merges may be nested. Each one that is carried out is taken out of the document first,
so they are not nested deeper than there are entries. -/
def Graph.mergeDepth (g : Graph) : Nat :=
  g.foldl (fun depth n => depth + n.entryCount) 1

end StoreTuning.Yaml
