import StoreTuning.Text.CodePoint

/-!
# Code units in hexadecimal

A number is read back from its hexadecimal digits, padded or not (`ofRadix?_hexPadded`), and a
character that does not fit in one unit of sixteen bits is joined again from the two halves that
stand for it (`joinHalves_halves`).
-/

namespace StoreTuning.Text

/-- The value of a hexadecimal digit that is written for it. -/
theorem radixDigit?_digitChar {d : Nat} (h : d < 16) : radixDigit? 16 d.digitChar = some d := by
  have hall : ∀ d < 16, radixDigit? 16 (Nat.digitChar d) = some d := by decide
  exact hall d h

/-- One more digit multiplies the number by the radix. -/
theorem ofRadix?_concat (radix : Nat) (cs : List Char) (c : Char) :
    ofRadix? radix (cs ++ [c]) =
      (ofRadix? radix cs).bind fun n => (radixDigit? radix c).map (radix * n + ·) := by
  rw [ofRadix?, List.foldlM_append]
  simp only [List.foldlM_cons, List.foldlM_nil, bind_pure]
  rfl

/-- A number is read back from its hexadecimal digits. -/
theorem ofRadix?_toDigits (n : Nat) : ofRadix? 16 (Nat.toDigits 16 n) = some n := by
  induction n using Nat.strongRecOn with
  | ind n ih =>
    rw [Nat.toDigits_eq_if (by decide)]
    split
    · rename_i hn
      have hdigit : radixDigit? 16 n.digitChar = some n := radixDigit?_digitChar hn
      simp [ofRadix?, hdigit]
    · rename_i hn
      have hdigit : radixDigit? 16 (n % 16).digitChar = some (n % 16) :=
        radixDigit?_digitChar (Nat.mod_lt n (by decide))
      rw [ofRadix?_concat, ih (n / 16) (by omega), Option.bind_some, hdigit, Option.map_some,
        Nat.div_add_mod]

/-- Zeros in front change nothing. -/
theorem ofRadix?_replicate_append (k : Nat) (cs : List Char) :
    ofRadix? 16 (List.replicate k '0' ++ cs) = ofRadix? 16 cs := by
  induction k with
  | zero => rfl
  | succ k ih =>
    rw [List.replicate_succ, List.cons_append, ← ih]
    rfl

/-- A number is read back from its padded digits. -/
theorem ofRadix?_hexPadded (width n : Nat) : ofRadix? 16 (hexPadded width n) = some n := by
  rw [hexPadded, ofRadix?_replicate_append, ofRadix?_toDigits]

/-- The four digits of a code unit. -/
theorem exists_hexPadded_four {n : Nat} (h : n < 0x10000) :
    ∃ a b c d, hexPadded 4 n = [a, b, c, d] ∧ ofRadix? 16 [a, b, c, d] = some n := by
  have hdigits : (Nat.toDigits 16 n).length ≤ 4 :=
    (Nat.length_toDigits_le_iff (by decide) (by decide)).2 h
  have hlength : (hexPadded 4 n).length = 4 := by
    rw [hexPadded, List.length_append, List.length_replicate]
    omega
  have hread : ofRadix? 16 (hexPadded 4 n) = some n := ofRadix?_hexPadded 4 n
  generalize hexPadded 4 n = digits at hlength hread
  match digits, hlength with
  | [a, b, c, d], _ => exact ⟨a, b, c, d, rfl, hread⟩

/-! ## Halves of surrogate pairs -/

/-- The first half of the pair that stands for a code point beyond sixteen bits. -/
def highHalf (n : Nat) : Nat :=
  0xD800 + (n - 0x10000) / 0x400

/-- The second half of that pair. -/
def lowHalf (n : Nat) : Nat :=
  0xDC00 + (n - 0x10000) % 0x400

theorem isHighHalf_highHalf {n : Nat} (h : n ≤ lastCode) : isHighHalf (highHalf n) = true := by
  unfold lastCode at h
  unfold isHighHalf highHalf
  rw [Bool.and_eq_true, decide_eq_true_eq, decide_eq_true_eq]
  omega

theorem isLowHalf_lowHalf (n : Nat) : isLowHalf (lowHalf n) = true := by
  unfold isLowHalf lowHalf
  rw [Bool.and_eq_true, decide_eq_true_eq, decide_eq_true_eq]
  omega

/-- A character has a code point that is no half of a pair. -/
theorem isHighHalf_toNat (c : Char) : isHighHalf c.toNat = false := by
  have hvalid : c.toNat < 0xD800 ∨ 0xDFFF < c.toNat ∧ c.toNat < 0x110000 := c.valid
  simp only [isHighHalf, Bool.and_eq_false_iff, decide_eq_false_iff_not]
  omega

theorem toNat_le_lastCode (c : Char) : c.toNat ≤ lastCode := by
  have hvalid : c.toNat < 0xD800 ∨ 0xDFFF < c.toNat ∧ c.toNat < 0x110000 := c.valid
  unfold lastCode
  omega

theorem ofCode?_toNat (c : Char) : ofCode? c.toNat = some c := by
  have hvalid : c.toNat.isValidChar := c.valid
  rw [ofCode?, if_pos hvalid, Char.ofNat_toNat]

/-- The two halves for a character stand for it. -/
theorem joinHalves_halves {c : Char} (h : 0x10000 ≤ c.toNat) :
    joinHalves (highHalf c.toNat) (lowHalf c.toNat) = c := by
  have hsum : 0x10000 + 0x400 * (highHalf c.toNat - 0xD800) + (lowHalf c.toNat - 0xDC00) =
      c.toNat := by
    unfold highHalf lowHalf
    omega
  rw [joinHalves, hsum, Char.ofNat_toNat]

end StoreTuning.Text
