import StoreTuning.Toml.Moment
import StoreTuning.Toml.Quote

/-!
# TOML: keys and values

Keys are sequences of names between dots. Values are quoted text, truth values, numbers, dates and
times, arrays, and inline tables. An inline table is closed as it is written: its dotted keys may
share tables, but neither a value nor a table given as a value can be added to. Values are nested
only so deep that there is room for all the arrays and tables around another (`nestingRoom`).
-/

namespace StoreTuning.Toml

/-- White space within a line. -/
def isSpace (c : Char) : Bool :=
  c == ' ' || c == '\t'

/-- Characters after the white space within a line. -/
def skipSpace (cs : List Char) : List Char :=
  cs.dropWhile isSpace

/-- A character of a name without quotes. -/
def isBare (c : Char) : Bool :=
  c.isAlphanum || c == '-' || c == '_'

/-- A name: bare, or quoted on one line. -/
def name? : List Char → Option (String × List Char)
  | '\"' :: cs => (basic? cs).map fun (t, rest) => (String.ofList t, rest)
  | '\'' :: cs => (literal? cs).map fun (t, rest) => (String.ofList t, rest)
  | cs =>
    let bare := cs.takeWhile isBare
    if bare.isEmpty then none else some (String.ofList bare, cs.dropWhile isBare)

/-- The names of a key, of which there are at most `fuel`, and what follows the white space after
it. -/
def keyUpTo : Nat → List Char → Option (List String × List Char)
  | 0, _ => none
  | fuel + 1, cs => do
    let (name, rest) ← name? cs
    match skipSpace rest with
    | '.' :: rest =>
      let (names, rest) ← keyUpTo fuel (skipSpace rest)
      return (name :: names, rest)
    | rest => return ([name], rest)

/-- The names of a key, and what follows the white space after it. -/
def key? (cs : List Char) : Option (List String × List Char) :=
  keyUpTo (cs.length + 1) cs

/-- Characters after a comment, if there is one: the line break that ends it, or nothing. Control
characters are not allowed in comments. -/
def skipComment? : List Char → Option (List Char)
  | '#' :: cs =>
    if (cs.takeWhile (· != '\n')).any isControl then none else some (cs.dropWhile (· != '\n'))
  | cs => some cs

/-- Characters after white space, line breaks and comments, of which there are at most `fuel`
runs. -/
def skipLinesUpTo : Nat → List Char → Option (List Char)
  | 0, cs => some cs
  | fuel + 1, cs =>
    match cs.dropWhile fun c => isSpace c || c == '\n' with
    | '#' :: rest => do skipLinesUpTo fuel (← skipComment? ('#' :: rest))
    | rest => some rest

/-- Characters after white space, line breaks and comments. -/
def skipLines? (cs : List Char) : Option (List Char) :=
  skipLinesUpTo cs.length cs

/-- A table in the making inside braces: values, and tables that dotted keys have opened. -/
inductive InlineItem where
  | value (v : Value)
  | opened (items : List (String × InlineItem))

/-- A value put under dotted names in an inline table. -/
def putInline (v : Value) :
    List String → List (String × InlineItem) → Option (List (String × InlineItem))
  | [], _ => none
  | [name], items =>
    match items.lookup name with
    | none => some (Entries.insert name (.value v) items)
    | some _ => none
  | name :: names, items =>
    match items.lookup name with
    | none => do return Entries.insert name (.opened (← putInline v names [])) items
    | some (.opened sub) => do return Entries.insert name (.opened (← putInline v names sub)) items
    | some (.value _) => none

mutual

/-- The value that an item of an inline table is. -/
def InlineItem.toValue : InlineItem → Value
  | .value v => v
  | .opened items => .map (inlineEntries items)

/-- The entries that the items of an inline table are. -/
def inlineEntries : List (String × InlineItem) → List (Scalar × Value)
  | [] => []
  | (name, item) :: items => (.text name, item.toValue) :: inlineEntries items

end

/-- The room for arrays and inline tables around another. -/
def nestingRoom : Nat := 988

/-- The room that an array takes. -/
def arrayRoom : Nat := 2

/-- The room that an inline table takes. -/
def inlineRoom : Nat := 3

/-- The room that is left within something that takes some. -/
def roomWithin (room taken : Nat) : Option Nat :=
  if room < taken then none else some (room - taken)

mutual

/-- A value within some room, read in at most `fuel` steps. -/
def valueUpTo : Nat → Nat → List Char → Option (Value × List Char)
  | 0, _, _ => none
  | fuel + 1, room, cs =>
    match cs with
    | '\"' :: _ | '\'' :: _ => (quoted? cs).map fun (t, rest) => (.text (String.ofList t), rest)
    | 't' :: 'r' :: 'u' :: 'e' :: rest => some (.bool true, rest)
    | 'f' :: 'a' :: 'l' :: 's' :: 'e' :: rest => some (.bool false, rest)
    | '[' :: rest => do
      let room ← roomWithin room arrayRoom
      match ← skipLines? rest with
      | ']' :: rest => return (.list [], rest)
      | rest =>
        let (items, rest) ← itemsUpTo fuel room rest
        return (.list items, rest)
    | '\x7b' :: rest => do
      let room ← roomWithin room inlineRoom
      match skipSpace rest with
      | '\x7d' :: rest => return (.map [], rest)
      | rest =>
        let (items, rest) ← inlineUpTo fuel room [] rest
        return (.map (inlineEntries items), rest)
    | _ => do
      let (s, rest) ← momentOrNumber? cs
      return (.scalar s, rest)

/-- The items of an array from one of them on, and what follows the closing bracket. -/
def itemsUpTo : Nat → Nat → List Char → Option (List Value × List Char)
  | 0, _, _ => none
  | fuel + 1, room, cs => do
    let (v, rest) ← valueUpTo fuel room cs
    match ← skipLines? rest with
    | ']' :: rest => return ([v], rest)
    | ',' :: rest =>
      match ← skipLines? rest with
      | ']' :: rest => return ([v], rest)
      | rest =>
        let (vs, rest) ← itemsUpTo fuel room rest
        return (v :: vs, rest)
    | _ => none

/-- The items of an inline table from one of them on, and what follows the closing brace. -/
def inlineUpTo : Nat → Nat → List (String × InlineItem) → List Char →
    Option (List (String × InlineItem) × List Char)
  | 0, _, _, _ => none
  | fuel + 1, room, items, cs => do
    let (names, v, rest) ← pairUpTo fuel room cs
    let items ← putInline v names items
    match skipSpace rest with
    | '\x7d' :: rest => return (items, rest)
    | ',' :: rest => inlineUpTo fuel room items (skipSpace rest)
    | _ => none

/-- A key and its value. -/
def pairUpTo : Nat → Nat → List Char → Option (List String × Value × List Char)
  | 0, _, _ => none
  | fuel + 1, room, cs => do
    match ← key? cs with
    | (names, '=' :: rest) =>
      let (v, rest) ← valueUpTo fuel room (skipSpace rest)
      return (names, v, rest)
    | _ => none

end

/-- A key and its value. Each step reads a character at least, so there are no more steps than
characters, but for the steps between an opening bracket and what follows it. -/
def pair? (cs : List Char) : Option (List String × Value × List Char) :=
  pairUpTo (2 * cs.length + 2) nestingRoom cs

end StoreTuning.Toml
