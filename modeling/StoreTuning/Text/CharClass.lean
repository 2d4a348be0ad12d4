/-!
# Classes of characters

A class of characters is given by ranges of code points, both ends included.
-/

namespace StoreTuning.Text

/-- A class of characters: ranges of code points, both ends included. -/
structure CharClass where
  /-- The ranges, in ascending order. -/
  ranges : List (Nat × Nat)

namespace CharClass

/-- Whether a character belongs to the class. -/
def contains (k : CharClass) (c : Char) : Bool :=
  k.ranges.any fun r => r.1 ≤ c.toNat && c.toNat ≤ r.2

/-- A character belongs to the class exactly when one of the ranges covers its code point. -/
theorem contains_iff {k : CharClass} {c : Char} :
    k.contains c = true ↔ ∃ r ∈ k.ranges, r.1 ≤ c.toNat ∧ c.toNat ≤ r.2 := by
  simp [contains]

end CharClass

end StoreTuning.Text
