/-!
# YAML: places in a document

A place in a document: the characters that are left, the line and the column. A line ends at a line
feed, a next-line character, or a line or paragraph separator. A byte-order mark takes no column.
-/

namespace StoreTuning.Yaml

/-- A character that ends a line. -/
def isBreak (c : Char) : Bool :=
  c == '\n' || c == '\x85' || c == '\u2028' || c == '\u2029'

/-- A character that a document may hold. -/
def isAllowed (c : Char) : Bool :=
  let n := c.toNat
  c == '\t' || c == '\n' || c == '\r' || (0x20 ≤ n && n ≤ 0x7E) || n == 0x85 ||
    (0xA0 ≤ n && n ≤ 0xD7FF) || (0xE000 ≤ n && n ≤ 0xFFFD) || 0x10000 ≤ n

/-- A space or a tab. -/
def isSpace (c : Char) : Bool :=
  c == ' ' || c == '\t'

/-- Whether nothing, white space or a line break comes next. -/
def endsWord : Option Char → Bool
  | none => true
  | some c => isSpace c || isBreak c

/-- Whether nothing, a space or a line break comes next. -/
def endsPhrase : Option Char → Bool
  | none => true
  | some c => c == ' ' || isBreak c

/-- Whether nothing or a line break comes next. -/
def endsLine : Option Char → Bool
  | none => true
  | some c => isBreak c

/-- Whether a mark between documents stands at the start of a line: three dashes or three dots, and
nothing more of a word. -/
def atSeparator : List Char → Bool
  | '-' :: '-' :: '-' :: cs | '.' :: '.' :: '.' :: cs => endsWord cs.head?
  | _ => false

/-- A place in a document. -/
structure Cursor where
  /-- The characters that are left. -/
  rest : List Char
  /-- The number of characters before. -/
  index : Nat := 0
  /-- The number of lines before. -/
  line : Nat := 0
  /-- The number of characters before in the line. -/
  column : Nat := 0

namespace Cursor

/-- The character that comes next. -/
def peek? (c : Cursor) : Option Char :=
  c.rest.head?

/-- The place one character on. -/
def step (c : Cursor) : Cursor :=
  match c.rest with
  | [] => c
  | ch :: rest =>
    if isBreak ch then { rest, index := c.index + 1, line := c.line + 1, column := 0 }
    else
      { rest, index := c.index + 1, line := c.line,
        column := if ch = '\uFEFF' then c.column else c.column + 1 }

/-- The place some characters on. -/
def advance : Nat → Cursor → Cursor
  | 0, c => c
  | n + 1, c => advance n c.step

/-- The characters of a kind that come next, and the place after them. -/
def take (p : Char → Bool) (c : Cursor) : List Char × Cursor :=
  let cs := c.rest.takeWhile p
  (cs, c.advance cs.length)

/-- The place after the characters of a kind that come next. -/
def skip (p : Char → Bool) (c : Cursor) : Cursor :=
  (c.take p).2

/-- The place after the spaces and the comment that may come next. -/
def skipComment (c : Cursor) : Cursor :=
  let c := c.skip (· == ' ')
  if c.peek? = some '#' then c.skip (!isBreak ·) else c

/-- The break that comes next, as text has it, and the place after it. A next-line character counts
as a line feed. -/
def takeBreak? (c : Cursor) : Option (Char × Cursor) :=
  match c.peek? with
  | some ch => if isBreak ch then some (if ch = '\x85' then '\n' else ch, c.step) else none
  | none => none

end Cursor

end StoreTuning.Yaml
