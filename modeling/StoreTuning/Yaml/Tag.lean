import StoreTuning.Number.Decimal
import StoreTuning.Text.Numeral
import StoreTuning.Text.RadixNumeral
import StoreTuning.Value.Basic
import StoreTuning.Yaml.Binary
import StoreTuning.Yaml.Timestamp

/-!
# YAML: tags

The kinds of nodes. A node without a tag of its own gets the kind that its form has; text without
quotes gets the kind that its spelling has (`Tag.ofPlain`). `Tag.scalar?` reads the text of a scalar
as its kind.
-/

namespace StoreTuning.Yaml

/-- The kind of a node. -/
inductive Tag where
  | null
  | bool
  | int
  | float
  | text
  /-- Bytes, spelt in base 64. -/
  | binary
  | timestamp
  | sequence
  | mapping
  /-- A mapping of which only the keys count. -/
  | set
  /-- A sequence of mappings with one entry each. -/
  | pairs
  /-- The kind of the key whose mappings are merged into the one around it. -/
  | merge
  /-- The kind of the equals sign. -/
  | equals
  | other (name : String)
  deriving DecidableEq, Repr

/-! ## Spellings -/

/-- A digit of a radix, or an underscore. -/
def isDigitOrGap (radix : Nat) (c : Char) : Bool :=
  c == '_' || Text.isRadixDigit radix c

/-- Digits of a radix with underscores among them, the first being a decimal digit. -/
def isWhole (cs : List Char) : Bool :=
  cs.head?.any (Text.isRadixDigit 10) && cs.all (isDigitOrGap 10)

/-- At least one digit of a radix or underscore. -/
def isGapped (radix : Nat) (cs : List Char) : Bool :=
  !cs.isEmpty && cs.all (isDigitOrGap radix)

/-- The parts between colons. -/
def sections : List Char → List (List Char)
  | [] => [[]]
  | c :: cs =>
    if c = ':' then [] :: sections cs
    else
      match sections cs with
      | [] => [[c]]
      | part :: parts => (c :: part) :: parts

/-- A digit of base sixty: one decimal digit, or two that are less than sixty. -/
def isSixtieth : List Char → Bool
  | [a] => Text.isRadixDigit 10 a
  | [a, b] => Text.isRadixDigit 6 a && Text.isRadixDigit 10 b
  | _ => false

/-- An exponent of ten, sign included, or nothing. -/
def isExponent : List Char → Bool
  | [] => true
  | e :: sign :: ds =>
    Binary64.isExponentLetter e && (sign == '+' || sign == '-') && !ds.isEmpty &&
      ds.all (Text.isRadixDigit 10)
  | _ => false

/-- An integer after its sign: in binary, octal, hexadecimal or decimal form, or in base sixty. -/
def isInt : List Char → Bool
  | ['0'] => true
  | '0' :: 'b' :: ds => isGapped 2 ds
  | '0' :: 'x' :: ds => isGapped 16 ds
  | '0' :: ds => isGapped 8 ds
  | cs =>
    match sections cs with
    | whole :: parts => isWhole whole && parts.all isSixtieth
    | [] => false

/-- The digits after a point with the exponent that may follow. -/
def isFraction (cs : List Char) : Bool :=
  isExponent (cs.dropWhile (isDigitOrGap 10))

/-- The digits of base sixty that follow a whole number, the last one with a point. -/
def isSixtiethFraction (parts : List (List Char)) : Bool :=
  match parts.reverse with
  | [] => false
  | last :: before =>
    before.all isSixtieth && isSixtieth (last.takeWhile (· != '.')) &&
      last.contains '.' && ((last.dropWhile (· != '.')).drop 1).all (isDigitOrGap 10)

/-- A floating-point number after its sign, which only some forms can have. -/
def isFloat (signed : Bool) : List Char → Bool
  | ['.', 'i', 'n', 'f'] | ['.', 'I', 'n', 'f'] | ['.', 'I', 'N', 'F'] => true
  | ['.', 'n', 'a', 'n'] | ['.', 'N', 'a', 'N'] | ['.', 'N', 'A', 'N'] => !signed
  | '.' :: cs => !signed && cs.head?.any (Text.isRadixDigit 10) && isFraction cs
  | cs =>
    match cs.dropWhile (isDigitOrGap 10) with
    | '.' :: fraction => isWhole (cs.takeWhile (isDigitOrGap 10)) && isFraction fraction
    | _ =>
      match sections cs with
      | whole :: parts => isWhole whole && isSixtiethFraction parts
      | [] => false

/-- Whether the first character is a sign. -/
def hasSign : List Char → Bool
  | '+' :: _ | '-' :: _ => true
  | _ => false

/-- The words for truth. -/
def trueWords : List String :=
  ["yes", "Yes", "YES", "true", "True", "TRUE", "on", "On", "ON"]

/-- The words for falsehood. -/
def falseWords : List String :=
  ["no", "No", "NO", "false", "False", "FALSE", "off", "Off", "OFF"]

/-- The spellings of nothing. -/
def nullWords : List String :=
  ["", "~", "null", "Null", "NULL"]

namespace Tag

/-- The kind that text has by its spelling. -/
def ofSpelling (text : String) : Tag :=
  let cs := text.toList
  let unsigned := (Binary64.takeSign cs).2
  if (trueWords ++ falseWords).contains text then bool
  else if isFloat (hasSign cs) unsigned then float
  else if isInt unsigned then int
  else if isTimestamp cs then timestamp
  else if nullWords.contains text then null
  else if text = "<<" then merge
  else if text = "=" then equals
  else .text

/-- Text without the line feed that may end it, unless there is nothing else. -/
def withoutLineFeed (text : String) : String :=
  let cs := text.toList
  if cs.getLast? = some '\n' && cs.length != 1 then String.ofList cs.dropLast else text

/-- The kind that text without quotes has by its spelling, of which a line feed at the end is no
part. -/
def ofPlain (text : String) : Tag :=
  ofSpelling (withoutLineFeed text)

/-- The kind of a tag by its full name. -/
def ofName (name : String) : Tag :=
  match name with
  | "tag:yaml.org,2002:null" => null
  | "tag:yaml.org,2002:bool" => bool
  | "tag:yaml.org,2002:int" => int
  | "tag:yaml.org,2002:float" => float
  | "tag:yaml.org,2002:str" => text
  | "tag:yaml.org,2002:binary" => binary
  | "tag:yaml.org,2002:timestamp" => timestamp
  | "tag:yaml.org,2002:seq" => sequence
  | "tag:yaml.org,2002:map" => mapping
  | "tag:yaml.org,2002:set" => set
  | "tag:yaml.org,2002:omap" | "tag:yaml.org,2002:pairs" => pairs
  | "tag:yaml.org,2002:merge" => merge
  | "tag:yaml.org,2002:value" => equals
  | _ => other name

end Tag

/-! ## Scalars -/

/-- The truth value of a word, in any case. -/
def bool? (text : String) : Option Bool :=
  let word := text.map Char.toLower
  if trueWords.contains word then some true
  else if falseWords.contains word then some false
  else none

/-- An integer without sign and underscores. A first zero announces a radix, which is eight if no
letter follows. -/
def magnitude? : List Char → Option Int
  | ['0'] => some 0
  | '0' :: 'b' :: ds => Text.RadixNumeral.parse? 2 ds
  | '0' :: 'x' :: ds => Text.RadixNumeral.parse? 16 ds
  | '0' :: ds => Text.RadixNumeral.parse? 8 ('0' :: ds)
  | cs => do
    let parts ← (sections cs).mapM fun part => Text.Numeral.parseStrict? (String.ofList part)
    return parts.foldl (fun n d => 60 * n + d) 0

/-- The integer that a text spells. -/
def int? (text : String) : Option Int :=
  let (negative, cs) := Binary64.takeSign (text.toList.filter (· != '_'))
  (magnitude? cs).map fun n => if negative then -n else n

/-- A sum with digits of base sixty added to it, the least one first, each step rounded. There is
none if the weight of a digit is beyond all finite numbers. -/
def addSixtieths? (sum : Binary64) (weight : Int) : List Binary64 → Option Binary64
  | [] => some sum
  | x :: xs =>
    match Binary64.ofInt weight with
    | .infinite _ => none
    | w => addSixtieths? (sum.add (x.mul w)) (60 * weight) xs

/-- The number that digits of base sixty spell, the greatest one first. -/
def sumSixtieths? (xs : List Binary64) : Option Binary64 :=
  addSixtieths? (.finite false 0) 1 xs.reverse

/-- Whether a text without underscores and in small letters is the name of the result that is no
number. -/
def isNotANumber (cs : List Char) : Bool :=
  cs == ['.', 'n', 'a', 'n']

/-- A floating-point number without sign and underscores, in small letters. -/
def floatMagnitude? (cs : List Char) : Option Binary64 :=
  if isNotANumber cs then some .nan
  else if cs = ['.', 'i', 'n', 'f'] then some (.infinite false)
  else if cs.contains ':' then (sections cs).mapM Binary64.ofChars? >>= sumSixtieths?
  else Binary64.ofChars? cs

/-- The sign of a floating-point number, true for a minus, and the rest of it without underscores
and in small letters. -/
def floatParts (text : String) : Bool × List Char :=
  Binary64.takeSign ((text.toList.filter (· != '_')).map Char.toLower)

/-- The floating-point number that a text spells. -/
def float? (text : String) : Option Binary64 :=
  let (negative, cs) := floatParts text
  (floatMagnitude? cs).map fun x => if negative then x.neg else x

/-- A scalar of a kind by its text. What stands for nothing may have any text. -/
def Tag.scalar? : Tag → Scalar → Option Scalar
  | .null, _ => some .null
  | .text, written => some written
  | .bool, .text s => (bool? s).map .bool
  | .int, .text s => (int? s).map .int
  | .float, .text s => (float? s).map .float
  | .binary, .text s => (bytes? s).map fun bytes => .other (foreignBytes bytes)
  | .timestamp, .text s => (moment? (Tag.withoutLineFeed s)).map fun m => .other m.toForeign
  | _, _ => none

example : Tag.ofPlain "12:30" = .int ∧ int? "12:30" = some 750 := by decide +kernel
example : Tag.ofPlain "010" = .int ∧ int? "010" = some 8 := by decide +kernel
example : Tag.ofPlain "1e3" = .text := by decide +kernel
example : Tag.ofPlain "1.5e+3" = .float := by decide +kernel
example : Tag.ofPlain "+.nan" = .text := by decide +kernel
example : Tag.ofPlain "08" = .text := by decide +kernel
example : Tag.ofPlain "~\n" = .null ∧ Tag.ofPlain "\n" = .text := by decide +kernel
example : int? "0x-1F" = some (-31) ∧ int? "0o1_0" = some 8 := by decide +kernel

end StoreTuning.Yaml
