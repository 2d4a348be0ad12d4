import StoreTuning.Number.Binary64

/-!
# The text of a floating-point number

A finite number is written with the fewest digits that read back as the same number, the nearest
such decimal where there are several. The point is placed positionally for numbers from `1e-04`
below `1e+16`, and an exponent of at least two digits is written otherwise.
-/

namespace StoreTuning.Binary64

/-- The decimals that round to a positive finite number: those between two bounds, given in halves
of the unit, the bounds themselves included when the number's significand is even. -/
structure Neighbourhood where
  low : Nat
  high : Nat
  closed : Bool

/-- The neighbourhood of a positive number. Below a power of two the grid is twice as fine. -/
def neighbourhood (units : Nat) : Neighbourhood :=
  let grid := Nat.pow 2 (droppedBits units)
  let below := if units = Nat.pow 2 units.log2 && 1 < grid then grid / 2 else grid
  { low := 2 * units - below, high := 2 * units + grid, closed := units / grid % 2 = 0 }

/-- A decimal `count * 10 ^ power` against a number of halves of the unit: both scaled to whole
numbers. -/
def scaledPair (count : Nat) (power : Int) (halves : Nat) : Nat × Nat :=
  let c := count * (2 * one)
  if 0 ≤ power then (c * Nat.pow 10 power.toNat, halves)
  else (c, halves * Nat.pow 10 (-power).toNat)

/-- Whether a decimal lies in a neighbourhood. -/
def Neighbourhood.holds (n : Neighbourhood) (count : Nat) (power : Int) : Bool :=
  let (c, l) := scaledPair count power n.low
  let (c', h) := scaledPair count power n.high
  if n.closed then l ≤ c && c' ≤ h else l < c && c' < h

/-- The power of ten at the first significant digit of a positive number. -/
def leadingPower (units : Nat) : Int :=
  let estimate := ((units.log2 : Int) - 1074) * 30103 / 100000
  let reaches (p : Int) : Bool := let (c, h) := scaledPair 1 p (2 * units); c ≤ h
  if reaches (estimate + 1) then estimate + 1
  else if reaches estimate then estimate
  else estimate - 1

/-- The decimal on the grid of one power of ten that reads back as the number and is nearest to it,
the even one of two at the same distance. -/
def onGrid? (units : Nat) (power : Int) : Option Nat :=
  let n := neighbourhood units
  let (step, value) := scaledPair 1 power (2 * units)
  let below := value / step
  let twice := 2 * (value % step)
  match n.holds below power, n.holds (below + 1) power with
  | false, false => none
  | true, false => some below
  | false, true => some (below + 1)
  | true, true =>
    if twice < step || (twice = step && below % 2 = 0) then some below else some (below + 1)

/-- The first grid, from the coarsest, with a decimal that reads back as the number; the last one
tried is taken as it is. -/
def shortestFrom (units : Nat) (power : Int) : Nat → Nat × Int
  | 0 => ((onGrid? units power).getD 0, power)
  | more + 1 =>
    match onGrid? units power with
    | some count => (count, power)
    | none => shortestFrom units (power - 1) more

/-- The shortest decimal of a positive number. Seventeen digits always read back. -/
def shortest (units : Nat) : Nat × Int :=
  shortestFrom units (leadingPower units) 16

/-- The text of an exponent: a sign and at least two digits. -/
def exponentText (e : Int) : String :=
  let digits := e.natAbs.repr
  (if e < 0 then "e-" else "e+") ++ (if e.natAbs < 10 then "0" ++ digits else digits)

/-- A run of zeros. -/
def zeros (n : Nat) : String :=
  String.ofList (List.replicate n '0')

/-- Digits with the point after the first `point` of them: positionally for points from -3 to 16,
otherwise after the first digit, with an exponent. -/
def placePoint (digits : List Char) (point : Int) : String :=
  if -4 < point && point ≤ 16 then
    if point ≤ 0 then "0." ++ zeros (-point).toNat ++ String.ofList digits
    else
      let whole := digits.take point.toNat
      let fraction := digits.drop point.toNat
      String.ofList whole ++ zeros (point.toNat - whole.length) ++ "." ++
        (if fraction.isEmpty then "0" else String.ofList fraction)
  else
    let fraction := digits.drop 1
    String.ofList (digits.take 1) ++
      (if fraction.isEmpty then "" else "." ++ String.ofList fraction) ++ exponentText (point - 1)

/-- The text of the magnitude of a finite number. -/
def magnitudeText (units : Nat) : String :=
  if units = 0 then "0.0"
  else
    let (count, power) := shortest units
    let digits := count.repr.toList
    let significant := (digits.reverse.dropWhile (· == '0')).reverse
    placePoint significant (digits.length + power)

/-- The text of a number. -/
def text : Binary64 → String
  | nan => "nan"
  | infinite negative => if negative then "-inf" else "inf"
  | finite negative units => (if negative then "-" else "") ++ magnitudeText units

example : (ofDecimal false 1 16).text = "1e+16" := by decide +kernel
example : (ofDecimal false 123 (-2)).text = "1.23" := by decide +kernel
example : (ofDecimal false 1 (-5)).text = "1e-05" := by decide +kernel
example : (ofDecimal true 0 0).text = "-0.0" := by decide +kernel
example : (finite false 1).text = "5e-324" := by decide +kernel

end StoreTuning.Binary64
