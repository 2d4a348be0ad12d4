import StoreTuning.Settings.Basic

/-!
# Typed lookup

A setting is read as text, as a truth value, or as an integer of 32 or 64 bits. A key that is
absent, or holds nothing or blank text, is unspecified, and the fallback stands in for it
(`Settings.lookup`). A fallback is then read by the same rule as a configured value.
-/

namespace StoreTuning

/-- The width of an integer setting. -/
inductive Width where
  | int
  | long
  deriving DecidableEq, Repr

namespace Width

/-- The least integer of the width. -/
def low : Width → Int
  | int => -0x80000000
  | long => -0x8000000000000000

/-- The greatest integer of the width. -/
def high : Width → Int
  | int => 0x7FFFFFFF
  | long => 0x7FFFFFFFFFFFFFFF

/-- Whether an integer fits the width. -/
def fits (w : Width) (n : Int) : Bool :=
  w.low ≤ n && n ≤ w.high

/-- The name of the width. -/
def name : Width → String
  | int => "int"
  | long => "long"

end Width

/-- What a setting was expected to be. -/
inductive Expectation where
  | flag
  | integer (w : Width)
  | oneOf (names : List String)
  deriving DecidableEq, Repr

/-- The words for what was expected. -/
def Expectation.words : Expectation → String
  | flag => "true or false"
  | integer w => w.name
  | oneOf names => "one of " ++ String.intercalate ", " names

/-- Why a lookup gave no value. -/
inductive LookupError where
  /-- The key is unspecified and there is no fallback. -/
  | missing (key : String)
  /-- The value under the key is not of the kind asked for. -/
  | invalid (key : String) (value : Value) (expected : Expectation)
  /-- The value has to be printed and holds an integer that is too long to print. -/
  | unprintable
  deriving Repr

namespace LookupError

/-- What is said of an integer that is too long to print. -/
def unprintableMessage : String :=
  "Exceeds the limit (4300 digits) for integer string conversion; " ++
    "use sys.set_int_max_str_digits() to increase the limit"

/-- The text of the error. -/
def message : LookupError → String
  | missing key => "Missing configuration key: " ++ key
  | invalid key value expected =>
    "Invalid value " ++ value.quoted ++ " for " ++ key ++ ": expected " ++ expected.words
  | unprintable => unprintableMessage

/-- The error for a value that is not of the kind asked for. Its text shows the value, so the value
has to be printable. -/
def reject (key : String) (value : Value) (expected : Expectation) : LookupError :=
  if value.withinDigitLimit then invalid key value expected else unprintable

end LookupError

namespace Value

/-- Whether a value counts as unspecified: nothing, or blank text. -/
def unspecified : Value → Bool
  | null => true
  | text s => Text.blank s
  | _ => false

/-- A value read as text: text as it is, anything else as it prints. -/
def readText : Value → Except LookupError String
  | text s => .ok s
  | v => if v.withinDigitLimit then .ok v.toText else .error .unprintable

/-- A text in lower case, as far as its letters are ASCII. No other letter becomes one in lower case
that the truth values are spelt with. -/
def lowerCase (s : String) : String :=
  String.ofList (s.toList.map Char.toLower)

/-- The truth value that a text spells, in any case and with white space around it. -/
def flagOfText? (s : String) : Option Bool :=
  let word := lowerCase (Text.strip s)
  if word = "true" then some true else if word = "false" then some false else none

/-- A value read as a truth value. The key is for the error. -/
def readFlag (key : String) : Value → Except LookupError Bool
  | bool b => .ok b
  | text s =>
    match flagOfText? s with
    | some b => .ok b
    | none => .error (.reject key (text s) .flag)
  | v => .error (.reject key v .flag)

/-- An integer checked against a width. -/
def checkWidth (key : String) (w : Width) (n : Int) : Except LookupError Int :=
  if w.fits n then .ok n else .error (.reject key (int n) (.integer w))

/-- A value read as an integer of a width: an integer, or text that spells one. A truth value is no
integer. The key is for the error. -/
def readInteger (key : String) (w : Width) : Value → Except LookupError Int
  | int n => checkWidth key w n
  | text s =>
    match Text.Numeral.parse? s with
    | some n => checkWidth key w n
    | none => .error (.reject key (text s) (.integer w))
  | v => .error (.reject key v (.integer w))

end Value

namespace Settings

/-- The value under a key, unless the key is unspecified. -/
def specified? (s : Settings) (key : String) : Option Value :=
  (s.get? key).filter (!·.unspecified)

/-- The value to read for a key: the specified one, or else the fallback. -/
def lookup (s : Settings) (key : String) (fallback? : Option Value) : Except LookupError Value :=
  match s.specified? key, fallback? with
  | some v, _ => .ok v
  | none, some d => .ok d
  | none, none => .error (.missing key)

/-- A setting as text. -/
def getText (s : Settings) (key : String) (fallback? : Option Value) : Except LookupError String :=
  s.lookup key fallback? >>= Value.readText

/-- A setting as a truth value. -/
def getFlag (s : Settings) (key : String) (fallback? : Option Value) : Except LookupError Bool :=
  s.lookup key fallback? >>= Value.readFlag key

/-- A setting as an integer of a width. -/
def getInteger (s : Settings) (key : String) (w : Width) (fallback? : Option Value) :
    Except LookupError Int :=
  s.lookup key fallback? >>= Value.readInteger key w

end Settings

end StoreTuning
