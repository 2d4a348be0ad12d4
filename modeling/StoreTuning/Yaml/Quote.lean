import StoreTuning.Text.CodePoint
import StoreTuning.Yaml.Cursor

/-!
# YAML: texts of scalars

How the text of a scalar is read: plain, in quotes of either kind, or as a block. In a text over
several lines a single break folds into a space and further breaks are kept; a block keeps its
breaks, or folds them if it is marked so. Only quoted text can name code points that are no
characters, so it is read as code points.
-/

namespace StoreTuning.Yaml

/-- What breaks between two lines of text fold into: the first one into a space if it is a plain
line feed without further ones. -/
def fold (first : Char) (more : List Char) : List Char :=
  if first != '\n' then first :: more
  else if more.isEmpty then [' ']
  else more

/-! ## Plain text -/

/-- Whether plain text stops at a character, given the one after it. -/
def stopsPlain (flow : Bool) (c : Char) (next : Option Char) : Bool :=
  isSpace c || isBreak c ||
    (c == ':' && (endsWord next || (flow && next.any [',', '[', ']', '\x7b', '\x7d'].contains))) ||
    (flow && [',', '?', '[', ']', '\x7b', '\x7d'].contains c)

/-- The characters of a plain word that come next. -/
def plainWord (flow : Bool) : List Char → List Char
  | [] => []
  | c :: cs => if stopsPlain flow c cs.head? then [] else c :: plainWord flow cs

/-- The breaks and spaces at the start of lines: the breaks, unless a mark between documents ends
them, and the place after them. -/
def blankLines : Nat → Cursor → Option (List Char) × Cursor
  | 0, c => (some [], c)
  | fuel + 1, c =>
    match c.peek? with
    | some ' ' => blankLines fuel c.step
    | _ =>
      match c.takeBreak? with
      | none => (some [], c)
      | some (b, c) =>
        if atSeparator c.rest then (none, c)
        else
          let (more, c) := blankLines fuel c
          (more.map (b :: ·), c)

/-- What stands between two words of plain text. -/
structure PlainGap where
  /-- The text that the gap folds into; empty if the text ends. -/
  text : List Char
  /-- Whether a line ended in the gap. -/
  brokeLine : Bool
  /-- The place after the gap. -/
  after : Cursor

/-- The gap that comes next. -/
def plainGap (c : Cursor) : PlainGap :=
  let (spaces, c) := c.take (· == ' ')
  match c.takeBreak? with
  | none => ⟨spaces, false, c⟩
  | some (b, c) =>
    if atSeparator c.rest then ⟨[], true, c⟩
    else
      match blankLines c.rest.length c with
      | (none, c) => ⟨[], true, c⟩
      | (some more, c) => ⟨fold b more, true, c⟩

/-- Plain text in the making: the text, whether the last gap ended a line, and the place after
it. -/
structure Plain where
  text : List Char
  brokeLine : Bool
  after : Cursor

/-- Plain text from a word on. Outside of flow form it goes on to the next line only as long as that
is indented. -/
def plainFrom (flow : Bool) (indent : Int) : Nat → Plain → List Char → Plain
  | 0, p, _ => p
  | fuel + 1, p, gap =>
    let word := if p.after.peek? = some '#' then [] else plainWord flow p.after.rest
    if word.isEmpty then p
    else
      let next := plainGap (p.after.advance word.length)
      let p : Plain := ⟨p.text ++ gap ++ word, next.brokeLine, next.after⟩
      if next.text.isEmpty || (!flow && (next.after.column : Int) < indent) then p
      else plainFrom flow indent fuel p next.text

/-- The plain text that comes next, to be indented at least by `indent` outside of flow form. -/
def plain (flow : Bool) (indent : Int) (c : Cursor) : Plain :=
  plainFrom flow indent (c.rest.length + 1) ⟨[], false, c⟩ []

/-! ## Quoted text -/

/-- The breaks that come next in quoted text, with white space around them. A mark between documents
is not allowed there. -/
def quotedBreaks? : Nat → Cursor → Option (List Char × Cursor)
  | 0, c => some ([], c)
  | fuel + 1, c =>
    if atSeparator c.rest then none
    else
      let c := c.skip isSpace
      match c.takeBreak? with
      | none => some ([], c)
      | some (b, c) => do
        let (more, c) ← quotedBreaks? fuel c
        return (b :: more, c)

/-- White space in quoted text: kept within a line, folded around breaks. -/
def quotedGap? (c : Cursor) : Option (List Char × Cursor) :=
  let (spaces, c) := c.take isSpace
  match c.takeBreak? with
  | none => some (spaces, c)
  | some (b, c) => do
    let (more, c) ← quotedBreaks? (c.rest.length + 1) c
    return (fold b more, c)

/-- The character of an escape of one letter. -/
def escape? : Char → Option Char
  | '0' => some '\x00'
  | 'a' => some '\x07'
  | 'b' => some '\x08'
  | 't' | '\t' => some '\t'
  | 'n' => some '\n'
  | 'v' => some '\x0b'
  | 'f' => some '\x0c'
  | 'r' => some '\r'
  | 'e' => some '\x1b'
  | ' ' => some ' '
  | '\"' => some '\"'
  | '\\' => some '\\'
  | '/' => some '/'
  | 'N' => some '\x85'
  | '_' => some '\xa0'
  | 'L' => some '\u2028'
  | 'P' => some '\u2029'
  | _ => none

/-- How many hexadecimal digits an escape by code has. -/
def codeWidth? : Char → Option Nat
  | 'x' => some 2
  | 'u' => some 4
  | 'U' => some 8
  | _ => none

/-- An escape after its backslash: a letter, a code, or the end of a line, which leaves out the
break and the white space after it. -/
def escaped? (c : Cursor) : Option (List Nat × Cursor) := do
  let ch ← c.peek?
  match escape? ch, codeWidth? ch with
  | some e, _ => return ([e.toNat], c.step)
  | none, some width =>
    let digits := c.step.rest.take width
    if digits.length < width then none
    return ([← Text.hexCode? digits], c.step.advance width)
  | none, none =>
    let (_, c) ← c.takeBreak?
    let (breaks, c) ← quotedBreaks? (c.rest.length + 1) c
    return (breaks.map Char.toNat, c)

/-- Whether the closing quote comes next. In single quotes a quote written twice is text. -/
def closesQuote (double : Bool) (c : Cursor) : Bool :=
  if double then c.peek? = some '\"'
  else c.peek? = some '\'' && c.step.peek? != some '\''

/-- A piece of quoted text: a gap, an escape, or a character. -/
def quotedPiece? (double : Bool) (c : Cursor) : Option (List Nat × Cursor) := do
  let ch ← c.peek?
  if isSpace ch || isBreak ch then
    let (gap, c) ← quotedGap? c
    return (gap.map Char.toNat, c)
  else if !double && ch == '\'' then return ([ch.toNat], c.step.step)
  else if double && ch == '\\' then escaped? c.step
  else return ([ch.toNat], c.step)

/-- Text in quotes from within, up to the closing quote. -/
def quotedFrom? (double : Bool) : Nat → Cursor → Option (List Nat × Cursor)
  | 0, _ => none
  | fuel + 1, c =>
    if closesQuote double c then some ([], c.step)
    else do
      let (piece, after) ← quotedPiece? double c
      let (more, after) ← quotedFrom? double fuel after
      return (piece ++ more, after)

/-- The text in quotes that comes next, opening quote included. -/
def quoted? (double : Bool) (c : Cursor) : Option (List Nat × Cursor) :=
  quotedFrom? double (c.rest.length + 1) c.step

/-! ## Blocks -/

/-- What becomes of the breaks at the end of a block. -/
inductive Chomping where
  | clip
  | strip
  | keep
  deriving DecidableEq

/-- The marks after the sign of a block. -/
structure BlockHeader where
  chomping : Chomping := .clip
  /-- The indentation of the block over its surroundings. -/
  increment : Option Nat := none

/-- The mark for the breaks at the end, if it comes next. -/
def takeChomping? (c : Cursor) : Option (Chomping × Cursor) :=
  match c.peek? with
  | some '+' => some (.keep, c.step)
  | some '-' => some (.strip, c.step)
  | _ => none

/-- The digit for the indentation, if one comes next. -/
def takeIncrement? (c : Cursor) : Option (Nat × Cursor) := do
  return (← Text.radixDigit? 10 (← c.peek?), c.step)

/-- The marks after the sign of a block, in either order, and the place after the line. -/
def blockHeader? (c : Cursor) : Option (BlockHeader × Cursor) := do
  let (header, c) : BlockHeader × Cursor :=
    match takeChomping? c with
    | some (chomping, c) =>
      match takeIncrement? c with
      | some (n, c) => (⟨chomping, some n⟩, c)
      | none => (⟨chomping, none⟩, c)
    | none =>
      match takeIncrement? c with
      | some (n, c) =>
        match takeChomping? c with
        | some (chomping, c) => (⟨chomping, some n⟩, c)
        | none => (⟨.clip, some n⟩, c)
      | none => ({}, c)
  if header.increment = some 0 || !endsPhrase c.peek? then none
  let c := c.skipComment
  match c.takeBreak? with
  | some (_, c) => return (header, c)
  | none => if c.peek?.isNone then return (header, c) else none

/-- The blank lines at the start of a block: their breaks, the widest indentation in them and in the
line after, and the place after it. -/
def blockStart : Nat → Nat → Cursor → List Char × Nat × Cursor
  | 0, widest, c => ([], widest, c)
  | fuel + 1, widest, c =>
    match c.takeBreak? with
    | some (b, c) =>
      let (more, widest, c) := blockStart fuel widest c
      (b :: more, widest, c)
    | none =>
      if c.peek? = some ' ' then blockStart fuel (max widest c.step.column) c.step
      else ([], widest, c)

/-- The place after the spaces that indent a line, up to an indentation. -/
def skipIndent (indent : Nat) : Nat → Cursor → Cursor
  | 0, c => c
  | fuel + 1, c =>
    if c.column < indent && c.peek? = some ' ' then skipIndent indent fuel c.step else c

/-- The breaks of blank lines in a block, and the place after them and the indentation. -/
def blockBreaks (indent : Nat) : Nat → Cursor → List Char × Cursor
  | 0, c => ([], c)
  | fuel + 1, c =>
    let c := skipIndent indent c.rest.length c
    match c.takeBreak? with
    | none => ([], c)
    | some (b, c) =>
      let (more, c) := blockBreaks indent fuel c
      (b :: more, c)

/-- The lines of a block from one of them on, before which there were blank lines. -/
def blockLines (folded : Bool) (chomping : Chomping) (indent : Nat) :
    Nat → List Char → Cursor → List Char × Cursor
  | 0, _, c => ([], c)
  | fuel + 1, breaks, c =>
    if c.column != indent || c.peek?.isNone then
      (if chomping = .keep then breaks else [], c)
    else
      let spaced := c.peek?.any isSpace
      let (text, c) := c.take (!isBreak ·)
      let (end?, c) :=
        match c.takeBreak? with
        | some (b, c) => ([b], c)
        | none => ([], c)
      let (more, c) := blockBreaks indent (c.rest.length + 1) c
      if c.column = indent && c.peek?.isSome then
        let joint :=
          if folded && end? = ['\n'] && !spaced && !c.peek?.any isSpace then
            if more.isEmpty then [' '] else []
          else end?
        let (lines, c) := blockLines folded chomping indent fuel more c
        (breaks ++ text ++ joint ++ lines, c)
      else
        let ending :=
          match chomping with
          | .strip => []
          | .clip => end?
          | .keep => end? ++ more
        (breaks ++ text ++ ending, c)

/-- The block that comes next, sign included, within an indentation. -/
def block? (folded : Bool) (outer : Int) (c : Cursor) : Option (List Char × Cursor) := do
  let (header, c) ← blockHeader? c.step
  let least := (max (outer + 1) 1).toNat
  let (breaks, indent, c) :=
    match header.increment with
    | some n =>
      let indent := least + n - 1
      let (breaks, c) := blockBreaks indent (c.rest.length + 1) c
      (breaks, indent, c)
    | none =>
      let (breaks, widest, c) := blockStart c.rest.length 0 c
      (breaks, max least widest, c)
  return blockLines folded header.chomping indent (c.rest.length + 1) breaks c

end StoreTuning.Yaml
