/-!
# Binary floating-point numbers of 64 bits

Every finite number of the format is a whole multiple of the smallest positive one, `2 ^ (-1074)`,
so a finite number is a sign and that multiple, and all arithmetic is exact until the one rounding
in `Binary64.ofRatio`: to the nearest number of 53 significant bits, a tie going to the even one.
-/

namespace StoreTuning

/-- A binary floating-point number of 64 bits. -/
inductive Binary64 where
  /-- The result that is no number. -/
  | nan
  /-- One of the two infinities. -/
  | infinite (negative : Bool)
  /-- A multiple of `2 ^ (-1074)`, with a sign also on zero. -/
  | finite (negative : Bool) (units : Nat)
  deriving DecidableEq, Repr, Inhabited

namespace Binary64

/-- How many units of a finite number make one. -/
def one : Nat := Nat.pow 2 1074

/-- The first multiple of the unit that is too large to be finite. -/
def overflow : Nat := Nat.pow 2 1024 * one

/-- The quotient rounded to the nearest whole number, a tie going to the even one. -/
def divNearest (a b : Nat) : Nat :=
  let q := a / b
  let twice := 2 * (a % b)
  if twice < b then q else if b < twice then q + 1 else if q % 2 = 0 then q else q + 1

/-- The number of low bits that a multiple of the unit of this size cannot use. -/
def droppedBits (units : Nat) : Nat :=
  units.log2 + 1 - 53

/-- The number nearest to a quotient of natural numbers, with a given sign. -/
def ofRatio (negative : Bool) (num den : Nat) : Binary64 :=
  let scaled := num * one
  let grid := Nat.pow 2 (droppedBits (scaled / den))
  let units := divNearest scaled (den * grid) * grid
  if units < overflow then finite negative units else infinite negative

/-- The number nearest to `significand * 10 ^ exponent`, with a given sign. Exponents far outside
the format's range are settled without computing the power. -/
def ofDecimal (negative : Bool) (significand : Nat) (exponent : Int) : Binary64 :=
  if significand = 0 then finite negative 0
  else if 400 < exponent then infinite negative
  else if exponent + significand.log2 < -1200 then finite negative 0
  else if 0 ≤ exponent then ofRatio negative (significand * Nat.pow 10 exponent.toNat) 1
  else ofRatio negative significand (Nat.pow 10 (-exponent).toNat)

/-- The number nearest to an integer. -/
def ofInt (n : Int) : Binary64 :=
  ofRatio (n < 0) n.natAbs 1

/-- The number with the other sign. -/
def neg : Binary64 → Binary64
  | nan => nan
  | infinite s => infinite (!s)
  | finite s u => finite (!s) u

/-- A finite number as a signed multiple of the unit. -/
def signed (negative : Bool) (units : Nat) : Int :=
  if negative then -(units : Int) else units

/-- The sum, rounded once. -/
def add : Binary64 → Binary64 → Binary64
  | nan, _ | _, nan => nan
  | infinite s, infinite t => if s = t then infinite s else nan
  | infinite s, finite .. => infinite s
  | finite .., infinite t => infinite t
  | finite s u, finite t v =>
    let sum := signed s u + signed t v
    if sum = 0 then finite (s && t) 0 else ofRatio (sum < 0) sum.natAbs one

/-- The product, rounded once. -/
def mul : Binary64 → Binary64 → Binary64
  | nan, _ | _, nan => nan
  | infinite s, infinite t => infinite (s != t)
  | infinite s, finite t v => if v = 0 then nan else infinite (s != t)
  | finite s u, infinite t => if u = 0 then nan else infinite (s != t)
  | finite s u, finite t v => ofRatio (s != t) (u * v) (one * one)

/-- Whether two numbers are equal: nothing equals the result that is no number, and the two zeros
are one number. -/
def same : Binary64 → Binary64 → Bool
  | infinite s, infinite t => s == t
  | finite s u, finite t v => signed s u == signed t v
  | _, _ => false

/-- Whether a number equals an integer. -/
def sameInt : Binary64 → Int → Bool
  | finite s u, n => signed s u == n * one
  | _, _ => false

/-- Whether a number is a zero, of either sign. -/
def isZero : Binary64 → Bool
  | finite _ u => u == 0
  | _ => false

example : ofDecimal false 1 400 = infinite false := by decide +kernel
example : ofDecimal true 1 (-400) = finite true 0 := by decide +kernel
example : ofDecimal false 5 (-324) = finite false 1 := by decide +kernel

end Binary64

end StoreTuning
