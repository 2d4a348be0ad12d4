import StoreTuning.Toml.Table
import StoreTuning.Toml.Value

/-!
# TOML: documents

A document is a sequence of lines: headers, which say which table the following keys belong to, and
keys with their values. `Toml.read?` gives the table at the top.
-/

namespace StoreTuning.Toml

/-- A header: the names of a table, and whether it is one of an array. -/
def header? : List Char → Option (Bool × List String × List Char)
  | '[' :: '[' :: cs => do
    match ← key? (skipSpace cs) with
    | (names, ']' :: ']' :: rest) => return (true, names, rest)
    | _ => none
  | '[' :: cs => do
    match ← key? (skipSpace cs) with
    | (names, ']' :: rest) => return (false, names, rest)
    | _ => none
  | _ => none

/-- The items with a header carried out. -/
def Items.enter (isArray : Bool) (names : List String) (items : Items) : Option Items := do
  let name ← names.getLast?
  items.within (if isArray then extend name else declare name) names.dropLast

/-- A document in the making: the names of the table that keys belong to, and the items so far. -/
structure Draft where
  header : List String
  items : Items

/-- The draft after a line that starts with something, and what follows it. -/
def statement? (d : Draft) (cs : List Char) : Option (Draft × List Char) :=
  match cs with
  | '[' :: _ => do
    let (isArray, names, rest) ← header? cs
    return ({ header := names, items := ← d.items.enter isArray names }, rest)
  | '#' :: _ => some (d, cs)
  | _ => do
    let (names, v, rest) ← pair? cs
    return ({ d with items := ← d.items.within (Items.put v names) d.header }, rest)

/-- The draft after the lines that characters make up, of which there are at most `fuel`. -/
def linesUpTo : Nat → Draft → List Char → Option Draft
  | 0, _, _ => none
  | fuel + 1, d, cs =>
    match skipSpace cs with
    | [] => some d
    | '\n' :: rest => linesUpTo fuel d rest
    | cs => do
      let (d, rest) ← statement? d cs
      match ← skipComment? (skipSpace rest) with
      | [] => return d
      | '\n' :: rest => linesUpTo fuel d rest
      | _ => none

/-- Characters with the line breaks of two characters as one. -/
def joinBreaks : List Char → List Char
  | '\r' :: '\n' :: cs => '\n' :: joinBreaks cs
  | c :: cs => c :: joinBreaks cs
  | [] => []

/-- The table that a document is. -/
def read? (text : String) : Option Value := do
  let cs := joinBreaks text.toList
  let d ← linesUpTo (cs.length + 1) ⟨[], []⟩ cs
  return .map (entriesOf d.items)

end StoreTuning.Toml
