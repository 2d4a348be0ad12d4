import StoreTuning.Yaml.Quote
import StoreTuning.Yaml.Token

/-!
# YAML: the layout of a document

How characters become tokens. Indentation opens and closes collections in block form, and what
stands before a colon is announced as a key: the token that may turn out to be one is remembered
until its colon, and the key is announced before it. Such a key must lie on one line within 1024
characters.
-/

namespace StoreTuning.Yaml

/-- A token that may turn out to be a key. -/
structure PossibleKey where
  /-- The number of tokens before it. -/
  position : Nat
  /-- Whether it has to be a key, by its indentation. -/
  required : Bool
  index : Nat
  line : Nat
  column : Nat

/-- The state of a reading: the place, the tokens so far, and what the layout depends on. -/
structure Layout where
  cursor : Cursor
  tokens : Array Token := #[]
  /-- The indentation of the innermost collection in block form; -1 outside of all. -/
  indent : Int := -1
  /-- The indentations of the collections around it. -/
  outer : List Int := []
  /-- Whether a key may come next. -/
  allowsKey : Bool := true
  /-- The possible key outside of flow form, or of the innermost collection in flow form. -/
  possible : Option PossibleKey := none
  /-- The possible keys of the collections in flow form around the innermost, and of what is around
  them all. Their number is the depth of flow form. -/
  suspended : List (Option PossibleKey) := []

namespace Layout

/-- Whether the place is in flow form. -/
def inFlow (l : Layout) : Bool :=
  !l.suspended.isEmpty

/-- The layout with a token added. -/
def emit (l : Layout) (t : Token) : Layout :=
  { l with tokens := l.tokens.push t }

/-- The layout with tokens put before those from a position on. -/
def emitAt (l : Layout) (position : Nat) (ts : Array Token) : Layout :=
  { l with tokens := l.tokens.take position ++ ts ++ l.tokens.drop position }

/-- The layout some characters on. -/
def advance (l : Layout) (n : Nat) : Layout :=
  { l with cursor := l.cursor.advance n }

/-- The layout at the next token. A line break outside of flow form allows a key. -/
def skipGap : Nat → Layout → Layout
  | 0, l => l
  | fuel + 1, l =>
    let c := l.cursor.skipComment
    match c.takeBreak? with
    | none => { l with cursor := c }
    | some (_, c) => skipGap fuel { l with cursor := c, allowsKey := l.allowsKey || !l.inFlow }

/-- Whether a possible key can no longer be one. -/
def isStale (l : Layout) (k : PossibleKey) : Bool :=
  k.line != l.cursor.line || 1024 < l.cursor.index - k.index

/-- Drops a possible key, unless it has to be one. -/
def dropKey? (k : Option PossibleKey) : Option (Option PossibleKey) :=
  if k.any (·.required) then none else some none

/-- Drops a possible key if it can no longer be one, unless it has to be one. -/
def dropStale? (l : Layout) (k : Option PossibleKey) : Option (Option PossibleKey) :=
  if k.any l.isStale then dropKey? k else some k

/-- The layout without the possible keys that can no longer be keys. -/
def dropStaleKeys? (l : Layout) : Option Layout := do
  return { l with
    possible := ← l.dropStale? l.possible
    suspended := ← l.suspended.mapM l.dropStale? }

/-- The layout without the possible key of the place. -/
def forgetKey? (l : Layout) : Option Layout := do
  return { l with possible := ← dropKey? l.possible }

/-- The layout with the next token as a possible key, if a key is allowed there. -/
def rememberKey? (l : Layout) : Option Layout := do
  if !l.allowsKey then return l
  let l ← l.forgetKey?
  let c := l.cursor
  return { l with possible := some {
    position := l.tokens.size
    required := !l.inFlow && l.indent == c.column
    index := c.index
    line := c.line
    column := c.column } }

/-- Closes the collections in block form that are indented more than a column. -/
def closeTo (column : Int) : List Int → Layout → Layout
  | outer, l =>
    if l.indent ≤ column then { l with outer }
    else
      match outer with
      | [] => { l with outer := [], indent := -1 }
      | i :: is => closeTo column is ({ l with indent := i }.emit .blockEnd)

/-- Closes the collections in block form that are indented more than a column. In flow form
indentation means nothing. -/
def unwind (l : Layout) (column : Int) : Layout :=
  if l.inFlow then l else closeTo column l.outer l

/-- Whether a column is indented more than the innermost collection in block form. -/
def opensAt (l : Layout) (column : Nat) : Bool :=
  l.indent < column

/-- The layout within a new collection in block form. -/
def openAt (l : Layout) (column : Nat) : Layout :=
  { l with outer := l.indent :: l.outer, indent := column }

/-- A mark of one or more characters that ends what was open in block form. -/
def boundary? (l : Layout) (width : Nat) (t : Token) : Option Layout := do
  let l ← (l.unwind (-1)).forgetKey?
  return ({ l with allowsKey := false }.advance width).emit t

/-- The start of a collection in flow form, which may be a key. -/
def openFlow? (l : Layout) (t : Token) : Option Layout := do
  let l ← l.rememberKey?
  return ({ l with
    suspended := l.possible :: l.suspended
    possible := none
    allowsKey := true }.advance 1).emit t

/-- The end of a collection in flow form. -/
def closeFlow? (l : Layout) (t : Token) : Option Layout := do
  let l ← l.forgetKey?
  match l.suspended with
  | [] => none
  | k :: ks =>
    let l := { l with possible := k, suspended := ks, allowsKey := false }
    return (l.advance 1).emit t

/-- The separator of items in flow form. -/
def comma? (l : Layout) : Option Layout := do
  let l ← l.forgetKey?
  return ({ l with allowsKey := true }.advance 1).emit .comma

/-- A mark at the start of an item or of an announced key, which may open a collection in block
form. -/
def opening? (l : Layout) (collection t : Token) (allowsKey : Bool) : Option Layout := do
  if !l.inFlow && !l.allowsKey then none
  let column := l.cursor.column
  let l := if !l.inFlow && l.opensAt column then (l.openAt column).emit collection else l
  let l ← l.forgetKey?
  return ({ l with allowsKey }.advance 1).emit t

/-- A colon. If a possible key stands before it, the key is announced before that token, and with it
the mapping that it may open. -/
def colon? (l : Layout) : Option Layout :=
  match l.possible with
  | some k =>
    let l := { l with possible := none, allowsKey := false }
    let l :=
      if !l.inFlow && l.opensAt k.column then
        (l.openAt k.column).emitAt k.position #[.blockMapping, .key]
      else l.emitAt k.position #[.key]
    some ((l.advance 1).emit .value)
  | none => l.opening? .blockMapping .value !l.inFlow

/-- The layout after a token that was read and may be a key. -/
def scalarLike? (l : Layout) (read? : Cursor → Option (Token × Cursor)) : Option Layout := do
  let l ← l.rememberKey?
  let (t, cursor) ← read? l.cursor
  return { l with cursor, allowsKey := false }.emit t

/-- The layout after a block. -/
def blockText? (l : Layout) (folded : Bool) : Option Layout := do
  let l ← l.forgetKey?
  let (text, cursor) ← block? folded l.indent l.cursor
  return { l with cursor, allowsKey := true }.emit (.scalar false (.text (String.ofList text)))

/-- The layout after plain text. A line that ended after the text allows a key. -/
def plainText? (l : Layout) : Option Layout := do
  let l ← l.rememberKey?
  let p := plain l.inFlow (l.indent + 1) l.cursor
  return { l with cursor := p.after, allowsKey := p.brokeLine }.emit
    (.scalar true (.text (String.ofList p.text)))

end Layout

/-! ## Names and directives -/

/-- A character of the names of anchors, handles and directives. -/
def isNameChar (c : Char) : Bool :=
  c.isAlphanum || c == '-' || c == '_'

/-- A name, and the place after it. -/
def name? (c : Cursor) : Option (String × Cursor) :=
  let (cs, c) := c.take isNameChar
  if cs.isEmpty then none else some (String.ofList cs, c)

/-- The name of an anchor after its mark. -/
def anchorName? (c : Cursor) : Option (String × Cursor) := do
  let (name, c) ← name? c.step
  if endsWord c.peek? || c.peek?.any ['?', ':', ',', ']', '\x7d', '%', '@', '\x60'].contains then
    return (name, c)
  else none

/-- The bytes of escaped characters that come next. -/
def escapedBytes? : Nat → Cursor → Option (List UInt8 × Cursor)
  | 0, c => some ([], c)
  | fuel + 1, c =>
    if c.peek? = some '%' then
      match c.step.rest with
      | a :: b :: _ => do
        let byte ← Text.ofRadix? 16 [a, b]
        let (more, c) ← escapedBytes? fuel (c.advance 3)
        return (byte.toUInt8 :: more, c)
      | _ => none
    else some ([], c)

/-- A character that stands for itself in the name of a tag. -/
def isTagChar (c : Char) : Bool :=
  c.isAlphanum || "-;/?:@&=+$,_.!~*'()[]".toList.contains c

/-- The characters of the name of a tag, escaped ones decoded. -/
def tagChars? : Nat → Cursor → Option (List Char × Cursor)
  | 0, c => some ([], c)
  | fuel + 1, c =>
    match c.peek? with
    | some '%' => do
      let (bytes, c) ← escapedBytes? c.rest.length c
      let text ← String.fromUTF8? ⟨bytes.toArray⟩
      let (more, c) ← tagChars? fuel c
      return (text.toList ++ more, c)
    | some ch =>
      if isTagChar ch then do
        let (more, c) ← tagChars? fuel c.step
        return (ch :: more, c)
      else some ([], c)
    | none => some ([], c)

/-- The name of a tag, of one character at least. -/
def tagText? (c : Cursor) : Option (String × Cursor) := do
  let (cs, c) ← tagChars? (c.rest.length + 1) c
  if cs.isEmpty then none else some (String.ofList cs, c)

/-- The handle of a tag: exclamation marks at both ends, or one alone. -/
def tagHandle? (c : Cursor) : Option (String × Cursor) :=
  if c.peek? != some '!' then none
  else
    let (cs, c) := c.step.take isNameChar
    if c.peek? = some '!' then some (String.ofList ('!' :: cs ++ ['!']), c.step)
    else if cs.isEmpty && c.peek? = some ' ' then some ("!", c)
    else none

/-- The name of a tag within angle brackets, after the opening one. -/
def bracketedTag? (c : Cursor) : Option (TagName × Cursor) := do
  let (name, c) ← tagText? c
  if c.peek? = some '>' then return (.verbatim name, c.step) else none

/-- The name of a tag with its handle, which is a single exclamation mark if no other one follows in
the word. -/
def handledTag? (c : Cursor) : Option (TagName × Cursor) := do
  let word := c.step.rest.takeWhile fun ch => !(ch == ' ' || isBreak ch)
  let (handle, c) ← if word.contains '!' then tagHandle? c else some ("!", c.step)
  let (suffix, c) ← tagText? c
  return (.handled handle suffix, c)

/-- The name of a tag. -/
def tagName? (c : Cursor) : Option (TagName × Cursor) :=
  let inside := c.step
  if inside.peek? = some '<' then bracketedTag? inside.step
  else if endsWord inside.peek? then some (.verbatim "!", inside)
  else handledTag? c

/-- A tag. -/
def tag? (c : Cursor) : Option (Token × Cursor) := do
  let (name, c) ← tagName? c
  if endsPhrase c.peek? then return (.tag name, c) else none

/-- A number in a directive. -/
def directiveNumber? (c : Cursor) : Option (Nat × Cursor) := do
  let (ds, c) := c.take (Text.isRadixDigit 10)
  if ds.isEmpty then none else return (← Text.ofRadix? 10 ds, c)

/-- A version after the name of its directive. -/
def versionDirective? (c : Cursor) : Option (Directive × Cursor) := do
  let (major, c) ← directiveNumber? (c.skip (· == ' '))
  if c.peek? != some '.' then none
  let (minor, c) ← directiveNumber? c.step
  if endsPhrase c.peek? then return (.version major minor, c) else none

/-- A handle and what it stands for, after the name of their directive. -/
def handleDirective? (c : Cursor) : Option (Directive × Cursor) := do
  let (handle, c) ← tagHandle? (c.skip (· == ' '))
  if c.peek? != some ' ' then none
  let (stem, c) ← tagText? (c.skip (· == ' '))
  if endsPhrase c.peek? then return (.handle handle stem, c) else none

/-- A directive, and the place after its line. -/
def directive? (c : Cursor) : Option (Directive × Cursor) := do
  let (name, c) ← name? c.step
  if !endsPhrase c.peek? then none
  let (d, c) ←
    match name with
    | "YAML" => versionDirective? c
    | "TAG" => handleDirective? c
    | _ => some (.other, c.skip (!isBreak ·))
  let c := c.skipComment
  if !endsLine c.peek? then none
  return (d, c.step)

/-! ## Tokens -/

/-- Whether plain text can start at a place. -/
def startsPlain (flow : Bool) (c : Cursor) : Bool :=
  match c.rest with
  | [] => false
  | ch :: rest =>
    !(endsWord (some ch) || "-?:,[]\x7b\x7d#&*!|>'\"%@\x60".toList.contains ch) ||
      (!endsWord rest.head? && (ch == '-' || (!flow && (ch == '?' || ch == ':'))))

namespace Layout

/-- The layout after the token that comes next. -/
def token? (l : Layout) : Option Layout :=
  let c := l.cursor
  let next := c.step.peek?
  let flow := l.inFlow
  match c.peek? with
  | none => none
  | some ch =>
    if ch = '%' && c.column = 0 then do
      let (d, after) ← directive? c
      let l ← l.boundary? 0 (.directive d)
      return { l with cursor := after }
    else if c.column = 0 && atSeparator c.rest then
      l.boundary? 3 (if ch = '-' then .documentStart else .documentEnd)
    else if ch = '[' then l.openFlow? .flowSequence
    else if ch = '\x7b' then l.openFlow? .flowMapping
    else if ch = ']' then l.closeFlow? .flowSequenceEnd
    else if ch = '\x7d' then l.closeFlow? .flowMappingEnd
    else if ch = ',' then l.comma?
    else if ch = '-' && endsWord next then l.opening? .blockSequence .item true
    else if ch = '?' && (flow || endsWord next) then l.opening? .blockMapping .key !flow
    else if ch = ':' && (flow || endsWord next) then l.colon?
    else if ch = '*' then
      l.scalarLike? fun c => (anchorName? c).map fun (name, c) => (.alias name, c)
    else if ch = '&' then
      l.scalarLike? fun c => (anchorName? c).map fun (name, c) => (.anchor name, c)
    else if ch = '!' then l.scalarLike? tag?
    else if ch = '|' && !flow then l.blockText? false
    else if ch = '>' && !flow then l.blockText? true
    else if ch = '\'' || ch = '\"' then
      l.scalarLike? fun c => (quoted? (ch = '\"') c).map fun (codes, c) =>
        (.scalar false (.ofCodes codes), c)
    else if startsPlain flow c then l.plainText?
    else none

/-- The tokens up to the end of the document, of which there are at most `fuel`. -/
def tokensUpTo : Nat → Layout → Option (List Token)
  | 0, _ => none
  | fuel + 1, l => do
    let l ← (l.skipGap (l.cursor.rest.length + 1)).dropStaleKeys?
    let l := l.unwind l.cursor.column
    if l.cursor.rest.isEmpty then
      let l ← (l.unwind (-1)).forgetKey?
      return l.tokens.toList
    else tokensUpTo fuel (← l.token?)

end Layout

/-- The tokens of a document, whose characters have to be allowed. A byte-order mark at its start is
no part of it. -/
def tokens? (text : String) : Option (List Token) :=
  let cs := text.toList
  if !cs.all isAllowed then none
  else
    let start : Cursor := { rest := cs }
    let start := if start.peek? = some '\uFEFF' then start.step else start
    Layout.tokensUpTo (cs.length + 1) { cursor := start }

end StoreTuning.Yaml
