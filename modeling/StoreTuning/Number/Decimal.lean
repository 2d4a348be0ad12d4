import StoreTuning.Number.Binary64
import StoreTuning.Text.Blank
import StoreTuning.Text.DecimalDigit
import StoreTuning.Text.Radix

/-!
# Reading floating-point numbers

The decimal spellings of floating-point numbers: an optional sign, digits with an optional point
among them, an optional exponent; or a name for one of the values that are not finite.
-/

namespace StoreTuning.Binary64

/-- Splits a sign off: true for a minus. -/
def takeSign : List Char → Bool × List Char
  | '+' :: cs => (false, cs)
  | '-' :: cs => (true, cs)
  | cs => (false, cs)

/-- The exponent part of a spelling, after its letter: a sign and at least one digit. -/
def exponent? (cs : List Char) : Option Int :=
  let (negative, digits) := takeSign cs
  if digits.isEmpty then none
  else (Text.ofRadix? 10 digits).map fun n => if negative then -(n : Int) else n

/-- Whether a character starts an exponent. -/
def isExponentLetter (c : Char) : Bool :=
  c == 'e' || c == 'E'

/-- A spelling without sign: digits, a point among them, and an exponent. -/
def unsigned? (negative : Bool) (cs : List Char) : Option Binary64 := do
  let mantissa := cs.takeWhile (!isExponentLetter ·)
  let exponent ← match cs.dropWhile (!isExponentLetter ·) with
    | [] => some 0
    | _ :: rest => exponent? rest
  let whole := mantissa.takeWhile (· != '.')
  let fraction := (mantissa.dropWhile (· != '.')).drop 1
  if whole.isEmpty && fraction.isEmpty then none
  let significand ← Text.ofRadix? 10 (whole ++ fraction)
  return ofDecimal negative significand (exponent - fraction.length)

/-- The number that a text spells: a decimal, `inf`, `infinity` or `nan`, with an optional sign. -/
def parse? (s : String) : Option Binary64 :=
  let (negative, rest) := takeSign s.toList
  match String.ofList (rest.map Char.toLower) with
  | "inf" | "infinity" => some (infinite negative)
  | "nan" => some nan
  | _ => unsigned? negative rest

/-- The number that characters spell, with decimal digits of any script and white space around. -/
def ofChars? (cs : List Char) : Option Binary64 :=
  parse? (String.ofList ((Text.trimMargin cs).map Text.plainDigit))

example : parse? "-0.0" = some (finite true 0) := by decide +kernel
example : parse? "." = none := by decide +kernel
example : parse? "1e" = none := by decide +kernel

end StoreTuning.Binary64
