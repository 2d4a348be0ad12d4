import StoreTuning.Proofs.Text.Numeral
import StoreTuning.Value.Printer

/-!
# How values print

What is no text prints as a word for a special value, as a number, or in brackets
(`Value.isNativeText_toText`). Numbers print with a few characters only (`Text.numeric`), floating
point numbers among them (`Binary64.numeric_text`).
-/

namespace StoreTuning

namespace Text

/-- A character of the numbers that are printed: a digit, a point, a sign, or the mark of an
exponent. -/
def isNumeric (c : Char) : Bool :=
  c.isDigit || ['.', 'e', '+', '-'].contains c

/-- Whether a text holds nothing but the characters of numbers. -/
def numeric (s : String) : Bool :=
  s.toList.all isNumeric

@[simp]
theorem numeric_append (s t : String) : numeric (s ++ t) = (numeric s && numeric t) := by
  rw [numeric, String.toList_append, List.all_append, numeric, numeric]

@[simp]
theorem numeric_ofList (cs : List Char) : numeric (String.ofList cs) = cs.all isNumeric := by
  rw [numeric, String.toList_ofList]

/-- The digits of a natural number are characters of numbers. -/
@[simp]
theorem all_isNumeric_repr (n : Nat) : n.repr.toList.all isNumeric = true := by
  rw [Nat.toList_repr, List.all_eq_true]
  intro c hc
  rw [isNumeric, Nat.isDigit_of_mem_toDigits (by decide) (by decide) hc, Bool.true_or]

@[simp]
theorem numeric_repr (n : Nat) : numeric n.repr = true :=
  all_isNumeric_repr n

/-- An integer is spelled with the characters of numbers. -/
theorem numeric_spell (n : Int) : numeric (Numeral.spell n) = true := by
  rw [numeric, List.all_eq_true]
  intro c hc
  obtain hdigit | rfl := Numeral.mem_spell hc
  · rw [isNumeric, hdigit, Bool.true_or]
  · decide

end Text

open Text

namespace Binary64

theorem numeric_exponentText (e : Int) : numeric (exponentText e) = true := by
  have hsign : numeric (if e < 0 then "e-" else "e+") = true := by split <;> decide
  have hdigits :
      numeric (if e.natAbs < 10 then "0" ++ e.natAbs.repr else e.natAbs.repr) = true := by
    split
    · rw [numeric_append, numeric_repr]
      decide
    · exact numeric_repr _
  rw [exponentText, numeric_append, hsign]
  exact hdigits

theorem numeric_zeros (n : Nat) : numeric (zeros n) = true := by
  rw [zeros, numeric_ofList, List.all_eq_true]
  intro c hc
  rw [List.eq_of_mem_replicate hc]
  decide

/-- Wherever the point goes, digits stay a number. -/
theorem numeric_placePoint {digits : List Char} (h : digits.all isNumeric = true) (point : Int) :
    numeric (placePoint digits point) = true := by
  have htake : ∀ n, (digits.take n).all isNumeric = true := fun n =>
    List.all_eq_true.2 fun c hc => List.all_eq_true.1 h c (List.mem_of_mem_take hc)
  have hdrop : ∀ n, (digits.drop n).all isNumeric = true := fun n =>
    List.all_eq_true.2 fun c hc => List.all_eq_true.1 h c (List.mem_of_mem_drop hc)
  have hpoint : numeric "." = true := by decide
  have hzero : numeric "0" = true := by decide
  have hzeropoint : numeric "0." = true := by decide
  have hempty : numeric "" = true := by decide
  unfold placePoint
  dsimp only
  split
  · split
    · simp only [numeric_append, numeric_ofList, hzeropoint, numeric_zeros, h, Bool.and_self]
    · split <;>
        simp only [numeric_append, numeric_ofList, htake, hdrop, numeric_zeros, hpoint, hzero,
          Bool.and_self]
  · split <;>
      simp only [numeric_append, numeric_ofList, htake, hdrop, numeric_exponentText, hpoint, hempty,
        Bool.and_self]

/-- The magnitude of a finite number is written with the characters of numbers. -/
theorem numeric_magnitudeText (units : Nat) : numeric (magnitudeText units) = true := by
  unfold magnitudeText
  split
  · decide
  · refine numeric_placePoint (List.all_eq_true.2 fun c hc => ?_) _
    have hrepr := List.all_eq_true.1 (all_isNumeric_repr (shortest units).1)
    exact hrepr c (List.mem_reverse.1 ((List.dropWhile_sublist _).subset (List.mem_reverse.1 hc)))

/-- A finite number is written with the characters of numbers. -/
theorem numeric_text (negative : Bool) (units : Nat) :
    numeric (finite negative units).text = true := by
  have hsign : numeric (if negative then "-" else "") = true := by cases negative <;> decide
  rw [text, numeric_append, hsign, numeric_magnitudeText]
  rfl

end Binary64

namespace Value

/-- Whether a text is one that values print as which are no texts: a word for a special value, a
number, or something in brackets. -/
def isNativeText (s : String) : Bool :=
  ["None", "True", "False", "nan", "inf", "-inf"].contains s || numeric s ||
    ['[', '\x7b'].any fun c => s.toList.head? == some c

/-- A text of the characters of numbers may be a number. -/
theorem isNativeText_of_numeric {s : String} (h : numeric s = true) : isNativeText s = true := by
  rw [isNativeText, h, Bool.or_true, Bool.true_or]

/-- A text that begins with a bracket may be a list or a map. -/
theorem isNativeText_of_bracket {s : String} {c : Char} (h : s.toList.head? = some c)
    (hc : c = '[' ∨ c = '\x7b') : isNativeText s = true := by
  rw [isNativeText, h]
  obtain rfl | rfl := hc <;> simp

/-- What is no text prints as a word for a special value, as a number, or in brackets. -/
theorem isNativeText_toText {v : Value} (htext : v.text? = none) (hother : ∀ f, v ≠ other f) :
    isNativeText v.toText = true := by
  cases v with
  | scalar s =>
    cases s with
    | null => decide
    | bool b => cases b <;> decide
    | int n => exact isNativeText_of_numeric (numeric_spell n)
    | float x =>
      cases x with
      | nan => decide
      | infinite negative => cases negative <;> decide
      | finite negative units =>
        exact isNativeText_of_numeric (Binary64.numeric_text negative units)
    | text s => cases htext
    | other f => exact absurd rfl (hother f)
  | list xs =>
    refine isNativeText_of_bracket ?_ (.inl rfl)
    rw [toText, quoted, String.append_assoc, String.toList_append]
    · rfl
    · exact nofun
  | map es =>
    refine isNativeText_of_bracket ?_ (.inr rfl)
    rw [toText, quoted, String.append_assoc, String.toList_append]
    · rfl
    · exact nofun

end Value

end StoreTuning
