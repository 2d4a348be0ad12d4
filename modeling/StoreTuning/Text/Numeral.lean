import StoreTuning.Text.Blank
import StoreTuning.Text.DecimalDigit

/-!
# Integer numerals

The spelling of integers in text: an optional sign, then decimal digits of any script, with single
underscores allowed between digits, and white space allowed around the whole. A numeral of more than
4300 digits is neither read nor printed.
-/

namespace StoreTuning.Text.Numeral

/-- The longest numeral that is read or printed, in digits. -/
def digitLimit : Nat := 4300

/-- The values of the digits of a numeral without sign: one digit at least, and an underscore only
between two digits. -/
def digits? : List Char → Option (List Nat)
  | [] => none
  | [c] => (digitValue? c).map ([·])
  | c :: '_' :: rest => do
    let d ← digitValue? c
    let ds ← digits? rest
    return d :: ds
  | c :: rest => do
    let d ← digitValue? c
    let ds ← digits? rest
    return d :: ds

/-- The number that decimal digits denote, most significant first. -/
def ofDigits (ds : List Nat) : Nat :=
  ds.foldl (fun n d => 10 * n + d) 0

/-- The number of an unsigned numeral within the digit limit. -/
def natural? (cs : List Char) : Option Nat := do
  let ds ← digits? cs
  if ds.length ≤ digitLimit then some (ofDigits ds) else none

/-- The number of a numeral that white space does not surround. -/
def integer? : List Char → Option Int
  | '+' :: cs => (natural? cs).map Int.ofNat
  | '-' :: cs => (natural? cs).map fun n => -Int.ofNat n
  | cs => (natural? cs).map Int.ofNat

/-- The integer that a text spells. -/
def parse? (s : String) : Option Int :=
  integer? (stripChars s.toList)

/-- The integer that a text spells, where the control characters that separate data are no white
space. -/
def parseStrict? (s : String) : Option Int :=
  integer? (trimMargin s.toList)

/-- The decimal spelling of an integer: a minus sign for a negative one, and no leading zeros. -/
def spell : Int → String
  | .ofNat n => n.repr
  | .negSucc n => "-" ++ (n + 1).repr

/-- Whether the spelling of an integer stays within the digit limit. -/
def withinLimit (n : Int) : Bool :=
  n.natAbs < Nat.pow 10 digitLimit

example : parse? " +0_1\n" = some 1 := by decide +kernel
example : parse? "1__0" = none := by decide +kernel
example : parse? "_1" = none := by decide +kernel
example : parse? "- 1" = none := by decide +kernel
example : parse? "\x1c1" = some 1 ∧ parseStrict? "\x1c1" = none := by decide +kernel

end StoreTuning.Text.Numeral
