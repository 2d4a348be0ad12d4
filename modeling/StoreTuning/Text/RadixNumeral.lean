import StoreTuning.Text.Blank
import StoreTuning.Text.DecimalDigit
import StoreTuning.Text.Radix

/-!
# Integer numerals of a radix

The spelling of integers by digits of a radix up to sixteen: an optional sign, perhaps a zero and
the letter that marks the radix, and at least one digit. The decimal digits may be of any script,
and white space may surround the whole.
-/

namespace StoreTuning.Text.RadixNumeral

/-- The value of a digit of a radix: a decimal digit of any script, or a letter. -/
def digit? (radix : Nat) (c : Char) : Option Nat :=
  ((digitValue? c).orElse fun _ => asciiDigit? c).filter (· < radix)

/-- The letter that marks a radix. -/
def mark? : Nat → Option Char
  | 2 => some 'b'
  | 8 => some 'o'
  | 16 => some 'x'
  | _ => none

/-- The digits after a zero and the mark of the radix, if these are there. -/
def dropMark (radix : Nat) : List Char → List Char
  | zero :: mark :: cs =>
    if digitValue? zero = some 0 && mark? radix = some mark.toLower then cs else zero :: mark :: cs
  | cs => cs

/-- The number that digits of a radix spell, of which there is at least one. -/
def ofDigits? (radix : Nat) (cs : List Char) : Option Nat :=
  if cs.isEmpty then none
  else cs.foldlM (fun n c => (digit? radix c).map (radix * n + ·)) 0

/-- The number of an unsigned numeral. -/
def natural? (radix : Nat) (cs : List Char) : Option Nat :=
  ofDigits? radix (dropMark radix cs)

/-- The number of a numeral that white space does not surround. -/
def integer? (radix : Nat) : List Char → Option Int
  | '+' :: cs => (natural? radix cs).map Int.ofNat
  | '-' :: cs => (natural? radix cs).map fun n => -Int.ofNat n
  | cs => (natural? radix cs).map Int.ofNat

/-- The integer that characters spell. -/
def parse? (radix : Nat) (cs : List Char) : Option Int :=
  integer? radix (trimMargin cs)

example : parse? 8 "0O17 ".toList = some 15 := by decide +kernel
example : parse? 16 "-1F".toList = some (-31) := by decide +kernel
example : parse? 16 "0x".toList = none := by decide +kernel
example : parse? 2 "0b0b1".toList = none := by decide +kernel

end StoreTuning.Text.RadixNumeral
