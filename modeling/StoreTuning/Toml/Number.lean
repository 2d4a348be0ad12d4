import StoreTuning.Number.Decimal
import StoreTuning.Text.Numeral
import StoreTuning.Value.Basic

/-!
# TOML: numbers

Integers in four radixes, and decimal floating-point numbers. A number is read as far as it goes;
what may follow it is for others to judge. Single underscores may stand between digits.
-/

namespace StoreTuning.Toml

/-- Splits digits of a radix off, the underscores between them dropped. -/
def takeDigits (radix : Nat) : List Char → List Char × List Char
  | '_' :: c :: cs =>
    if Text.isRadixDigit radix c then
      let (ds, rest) := takeDigits radix cs
      (c :: ds, rest)
    else ([], '_' :: c :: cs)
  | c :: cs =>
    if Text.isRadixDigit radix c then
      let (ds, rest) := takeDigits radix cs
      (c :: ds, rest)
    else ([], c :: cs)
  | [] => ([], [])

/-- Splits digits off that start with a digit and are at least one. -/
def digits? (radix : Nat) : List Char → Option (List Char × List Char)
  | c :: cs => if Text.isRadixDigit radix c then some (takeDigits radix (c :: cs)) else none
  | [] => none

/-- An integer after the mark of its radix. -/
def radixInteger? (radix : Nat) (cs : List Char) : Option (Scalar × List Char) := do
  let (ds, rest) ← digits? radix cs
  return (.int (← Text.ofRadix? radix ds), rest)

/-- The whole part of a decimal number: a zero, or digits that do not start with one. -/
def wholeDigits? : List Char → Option (List Char × List Char)
  | '0' :: cs => some (['0'], cs)
  | cs => digits? 10 cs

/-- The digits after a point; none if no digit follows one. -/
def fractionDigits : List Char → List Char × List Char
  | '.' :: cs => (digits? 10 cs).getD ([], '.' :: cs)
  | cs => ([], cs)

/-- The exponent of ten; none if no digit follows its letter. -/
def exponent : List Char → Option Int × List Char
  | c :: cs =>
    if Binary64.isExponentLetter c then
      let (negative, rest) := Binary64.takeSign cs
      match digits? 10 rest with
      | some (ds, rest) =>
        let n : Int := (Text.ofRadix? 10 ds).getD 0
        (some (if negative then -n else n), rest)
      | none => (none, c :: cs)
    else (none, c :: cs)
  | [] => (none, [])

/-- A decimal number after its sign: an integer, or a floating-point number if it has a fraction or
an exponent. Integers are subject to the limit on digits. -/
def decimal? (negative : Bool) (cs : List Char) : Option (Scalar × List Char) := do
  let (whole, rest) ← wholeDigits? cs
  let (fraction, rest) := fractionDigits rest
  let (power?, rest) := exponent rest
  let significand ← Text.ofRadix? 10 (whole ++ fraction)
  match fraction, power? with
  | [], none =>
    if Text.Numeral.digitLimit < whole.length then none
    else return (.int (if negative then -(significand : Int) else significand), rest)
  | _, _ =>
    return (.float (.ofDecimal negative significand (power?.getD 0 - fraction.length)), rest)

/-- A number after its sign: a decimal one, or the name of one that is not finite. -/
def unsigned? (negative : Bool) : List Char → Option (Scalar × List Char)
  | 'i' :: 'n' :: 'f' :: cs => some (.float (.infinite negative), cs)
  | 'n' :: 'a' :: 'n' :: cs => some (.float .nan, cs)
  | cs => decimal? negative cs

/-- A number. -/
def number? : List Char → Option (Scalar × List Char)
  | '0' :: 'x' :: cs => radixInteger? 16 cs
  | '0' :: 'o' :: cs => radixInteger? 8 cs
  | '0' :: 'b' :: cs => radixInteger? 2 cs
  | '+' :: cs => unsigned? false cs
  | '-' :: cs => unsigned? true cs
  | cs => unsigned? false cs

end StoreTuning.Toml
