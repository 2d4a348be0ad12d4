import StoreTuning.Text.Radix

/-!
# Written dates and times

What formats of dates and times have in common: numbers with a least and a greatest count of digits,
marks between them, and fractions of a second, of which what is less than a millionth is dropped.
-/

namespace StoreTuning.Written

/-- Characters after a mark. -/
def after? (mark : Char) : List Char → Option (List Char)
  | c :: cs => if c = mark then some cs else none
  | [] => none

/-- The number that decimal digits spell, of which as many are taken as there are up to a greatest
count, and what follows them; none if they are fewer than a least count. -/
def number? (least most : Nat) (cs : List Char) : Option (Nat × List Char) :=
  let ds := (cs.take most).takeWhile (Text.isRadixDigit 10)
  if ds.length < least then none else (Text.ofRadix? 10 ds).map (·, cs.drop ds.length)

/-- The millionths of a second that the digits of a fraction spell. -/
def micros (ds : List Char) : Nat :=
  ((Text.ofRadix? 10 (ds.take 6)).getD 0) * Nat.pow 10 (6 - ds.length)

/-- The millionths of a second after a point with at least some count of digits; none if there is no
such point. -/
def fraction (least : Nat) : List Char → Nat × List Char
  | '.' :: cs =>
    let ds := cs.takeWhile (Text.isRadixDigit 10)
    if ds.length < least then (0, '.' :: cs) else (micros ds, cs.drop ds.length)
  | cs => (0, cs)

example : number? 1 2 ['1', '2', '3'] = some (12, ['3']) := by decide
example : fraction 1 ['.', '2', '5', 'Z'] = (250000, ['Z']) := by decide

end StoreTuning.Written
