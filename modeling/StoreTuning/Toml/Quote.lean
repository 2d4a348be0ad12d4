import StoreTuning.Text.Radix

/-!
# TOML: quoted text

The four forms of quoted text: basic with escapes and literal without, each on one line or on
several. A reader is given the characters after the opening quotes and returns the text and what
follows the closing ones.
-/

namespace StoreTuning.Toml

/-- Characters read, and those that are left. -/
abbrev Split := List Char × List Char

/-- A control character that text cannot hold: all but the tab. -/
def isControl (c : Char) : Bool :=
  c.toNat < 0x20 && c != '\t' || c == '\x7f'

/-- Puts characters before those read. -/
def prepend (cs : List Char) (s : Split) : Split :=
  (cs ++ s.1, s.2)

/-- The character of an escape of one letter. -/
def escape? : Char → Option Char
  | 'b' => some '\x08'
  | 't' => some '\t'
  | 'n' => some '\n'
  | 'f' => some '\x0c'
  | 'r' => some '\r'
  | '\"' => some '\"'
  | '\\' => some '\\'
  | _ => none

/-- Basic text on one line. -/
def basic? : List Char → Option Split
  | [] => none
  | '\"' :: cs => some ([], cs)
  | '\\' :: 'u' :: a :: b :: c :: d :: cs => do
    prepend [← Text.ofHexCode? [a, b, c, d]] <$> basic? cs
  | '\\' :: 'U' :: a :: b :: c :: d :: e :: f :: g :: h :: cs => do
    prepend [← Text.ofHexCode? [a, b, c, d, e, f, g, h]] <$> basic? cs
  | '\\' :: c :: cs => do prepend [← escape? c] <$> basic? cs
  | c :: cs => if isControl c then none else prepend [c] <$> basic? cs

/-- Literal text on one line. -/
def literal? : List Char → Option Split
  | [] => none
  | '\'' :: cs => some ([], cs)
  | c :: cs => if isControl c then none else prepend [c] <$> literal? cs

/-- The end of text on several lines, after its three closing quotes: up to two more belong to the
text. -/
def closing (quote : Char) : List Char → Split
  | c :: d :: cs =>
    if c = quote then if d = quote then ([quote, quote], cs) else ([quote], d :: cs)
    else ([], c :: d :: cs)
  | [c] => if c = quote then ([quote], []) else ([], [c])
  | [] => ([], [])

/-- Where a reader of basic text on several lines is. A backslash at the end of a line takes the
line break and all white space after it out of the text. -/
inductive Gap where
  /-- In the text. -/
  | outside
  /-- After a backslash and white space: a line break has to come. -/
  | awaiting
  /-- After the line break: white space is skipped. -/
  | skipping
  deriving DecidableEq

/-- Basic text on several lines. -/
def basicLines? : Gap → List Char → Option Split
  | _, [] => none
  | .awaiting, c :: cs =>
    if c = '\n' then basicLines? .skipping cs
    else if c = ' ' || c = '\t' then basicLines? .awaiting cs
    else none
  | .skipping, ' ' :: cs | .skipping, '\t' :: cs | .skipping, '\n' :: cs => basicLines? .skipping cs
  | _, '\"' :: '\"' :: '\"' :: cs => some (closing '\"' cs)
  | _, '\\' :: '\n' :: cs => basicLines? .skipping cs
  | _, '\\' :: ' ' :: cs | _, '\\' :: '\t' :: cs => basicLines? .awaiting cs
  | _, '\\' :: 'u' :: a :: b :: c :: d :: cs => do
    prepend [← Text.ofHexCode? [a, b, c, d]] <$> basicLines? .outside cs
  | _, '\\' :: 'U' :: a :: b :: c :: d :: e :: f :: g :: h :: cs => do
    prepend [← Text.ofHexCode? [a, b, c, d, e, f, g, h]] <$> basicLines? .outside cs
  | _, '\\' :: c :: cs => do prepend [← escape? c] <$> basicLines? .outside cs
  | _, c :: cs =>
    if isControl c && c != '\n' then none else prepend [c] <$> basicLines? .outside cs

/-- Literal text on several lines. -/
def literalLines? : List Char → Option Split
  | [] => none
  | '\'' :: '\'' :: '\'' :: cs => some (closing '\'' cs)
  | c :: cs => if isControl c && c != '\n' then none else prepend [c] <$> literalLines? cs

/-- Characters without the line break that may follow opening quotes. -/
def dropBreak : List Char → List Char
  | '\n' :: cs => cs
  | cs => cs

/-- Quoted text of any form, opening quotes included. -/
def quoted? : List Char → Option Split
  | '\"' :: '\"' :: '\"' :: cs => basicLines? .outside (dropBreak cs)
  | '\'' :: '\'' :: '\'' :: cs => literalLines? (dropBreak cs)
  | '\"' :: cs => basic? cs
  | '\'' :: cs => literal? cs
  | _ => none

end StoreTuning.Toml
