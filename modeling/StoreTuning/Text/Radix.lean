/-!
# Digits of a radix

Digits and letters as digits of a radix up to sixteen, the numbers that they spell, and the
characters with such numbers as their codes.
-/

namespace StoreTuning.Text

/-- The value of a character as a digit: decimal digits, then the letters of either case. -/
def asciiDigit? (c : Char) : Option Nat :=
  if '0' ≤ c && c ≤ '9' then some (c.toNat - '0'.toNat)
  else if 'a' ≤ c && c ≤ 'f' then some (c.toNat - 'a'.toNat + 10)
  else if 'A' ≤ c && c ≤ 'F' then some (c.toNat - 'A'.toNat + 10)
  else none

/-- The value of a digit of a radix. -/
def radixDigit? (radix : Nat) (c : Char) : Option Nat :=
  (asciiDigit? c).filter (· < radix)

/-- Whether a character is a digit of a radix. -/
def isRadixDigit (radix : Nat) (c : Char) : Bool :=
  (radixDigit? radix c).isSome

/-- The number that digits of a radix spell, most significant first; no digits spell zero. -/
def ofRadix? (radix : Nat) (cs : List Char) : Option Nat :=
  cs.foldlM (fun n c => (radixDigit? radix c).map (radix * n + ·)) 0

/-- The character with a code. -/
def ofCode? (n : Nat) : Option Char :=
  if n.isValidChar then some (Char.ofNat n) else none

/-- The character whose code is spelt in hexadecimal. -/
def ofHexCode? (cs : List Char) : Option Char := do
  ofCode? (← ofRadix? 16 cs)

example : ofRadix? 16 ['1', 'F'] = some 31 := by decide
example : ofHexCode? ['d', '8', '0', '0'] = none := by decide

end StoreTuning.Text
