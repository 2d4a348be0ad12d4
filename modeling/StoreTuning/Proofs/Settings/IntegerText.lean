import StoreTuning.Proofs.Settings.Conversion

/-!
# Integers as text

A setting that is text is read as an integer by the grammar of numerals alone: a text that spells an
integer gives what that integer would give in its place, and any other text is refused as it stands
(`Settings.getInteger_numeral`). How an integer is printed spells it, so that each integer that a
width holds comes back from its text.
-/

namespace StoreTuning

open Text.Numeral (Spells)

/-- An integer that a width holds has few digits. -/
theorem Width.withinLimit_of_holds {w : Width} {n : Int} (h : w.Holds n) :
    Text.Numeral.withinLimit n = true := by
  have hpow : ∀ k, 19 ≤ k → n.natAbs < Nat.pow 10 k := by
    intro k hk
    have hnat : n.natAbs < Nat.pow 10 19 := by
      obtain ⟨hlow, hhigh⟩ := h
      cases w <;> simp only [bits] at hlow hhigh <;> simp only [Nat.pow_eq] <;> omega
    exact lt_of_lt_of_le hnat (Nat.pow_le_pow_right (by decide) hk)
  exact decide_eq_true (hpow Text.Numeral.digitLimit (by decide))

namespace Settings

variable {s : Settings} {key t : String} {n : Int}

/-- A text that spells an integer is read like that integer. -/
theorem getInteger_of_spells (h : s.get? key = some (.text t)) (ht : Spells t n) (w : Width)
    (fallback? : Option Value) : s.getInteger key w fallback? = Value.checkWidth key w n := by
  rw [getInteger, lookup_of_get? h ht.not_blank]
  exact Value.readInteger_text_of_some key w (Text.Numeral.parse?_eq_some_iff.2 ht)

/-- A text that spells no integer is refused, and the error shows it as it stands. -/
theorem getInteger_of_not_spells (h : s.get? key = some (.text t)) (hblank : Text.blank t = false)
    (ht : ∀ n, ¬ Spells t n) (w : Width) (fallback? : Option Value) :
    s.getInteger key w fallback? = .error (.invalid key (.text t) (.integer w)) := by
  rw [getInteger, lookup_of_get? h hblank]
  exact Value.readInteger_text_of_none key w (Text.Numeral.parse?_eq_none_iff.2 ht)

/-- An integer that can be printed is checked against the width as it is. -/
theorem getInteger_insert (s : Settings) (key : String) (n : Int) (w : Width)
    (fallback? : Option Value) :
    (s.insert key (.int n)).getInteger key w fallback? = Value.checkWidth key w n := by
  rw [getInteger, lookup_of_get? (get?_insert_self s key (.int n)) rfl]
  rfl

/-- A text that is not blank is read as an integer by the grammar alone. If it spells an integer, it
is read like that integer: it gives the integer if the width holds it, and else an error that shows
the integer and not the text. If it spells none, the error shows the text as it stands. In
particular an integer that the width holds is read back from its printed text. -/
theorem getInteger_numeral (h : s.get? key = some (.text t)) (w : Width)
    (fallback? : Option Value) :
    (∀ n, Spells t n →
      s.getInteger key w fallback? = (s.insert key (.int n)).getInteger key w fallback? ∧
      (w.Holds n → s.getInteger key w fallback? = .ok n) ∧
      (¬ w.Holds n →
        s.getInteger key w fallback? = .error (.invalid key (.int n) (.integer w)))) ∧
    (Text.blank t = false → (∀ n, ¬ Spells t n) →
      s.getInteger key w fallback? = .error (.invalid key (.text t) (.integer w))) ∧
    (∀ n, w.Holds n → (Value.int n).toText = t → s.getInteger key w fallback? = .ok n) := by
  have hheld : ∀ n, Spells t n → w.Holds n → s.getInteger key w fallback? = .ok n := by
    intro n ht hn
    rw [getInteger_of_spells h ht, Value.checkWidth_of_holds key hn]
  refine ⟨fun n ht => ⟨?_, hheld n ht, fun hn => ?_⟩,
    fun hblank ht => getInteger_of_not_spells h hblank ht w fallback?, fun n hn ht => ?_⟩
  · rw [getInteger_of_spells h ht, getInteger_insert]
  · rw [getInteger_of_spells h ht, Value.checkWidth_of_not_holds key hn ht.withinLimit]
  · have hprinted : Spells t n := ht ▸ Text.Numeral.spells_spell (Width.withinLimit_of_holds hn)
    exact hheld n hprinted hn

/-- Settings with integers as text, in digits of several scripts, and with a text that is none. -/
def spelledIntegers : Settings :=
  .ofPairs [("low", .text "\u3000-\u0968_147_4\uff18\u0663_648\n"),
    ("high", .text " +0002147483648"), ("printed", .text "-9223372036854775808"),
    ("none", .text " 1__0")]

/-- The lowest integer of 32 bits is read in mixed scripts, and the first above the highest is
shown. Two underscores in a row are refused as they stand, and what is printed is read back. -/
theorem getInteger_numeral_spelledIntegers :
    spelledIntegers.getInteger "low" .int none = .ok (-2147483648) ∧
    spelledIntegers.getInteger "high" .int (some .null) =
      .error (.invalid "high" (.int 2147483648) (.integer .int)) ∧
    spelledIntegers.getInteger "high" .long none =
      (spelledIntegers.insert "high" (.int 2147483648)).getInteger "high" .long none ∧
    spelledIntegers.getInteger "none" .long (some (.int 10)) =
      .error (.invalid "none" (.text " 1__0") (.integer .long)) ∧
    spelledIntegers.getInteger "printed" .long none = .ok (-9223372036854775808) := by
  have hlow : Spells "\u3000-\u0968_147_4\uff18\u0663_648\n" (-2147483648) := by decide +kernel
  have hhigh : Spells " +0002147483648" 2147483648 := by decide +kernel
  have hnone : ∀ n, ¬ Spells " 1__0" n := Text.Numeral.parse?_eq_none_iff.1 (by decide +kernel)
  have hget : spelledIntegers.get? "high" = some (.text " +0002147483648") := rfl
  refine ⟨?_, ?_, ?_, ?_, ?_⟩
  · have hget : spelledIntegers.get? "low" =
        some (.text "\u3000-\u0968_147_4\uff18\u0663_648\n") := rfl
    obtain ⟨hspelled, -⟩ := getInteger_numeral hget .int none
    exact (hspelled _ hlow).2.1 ⟨by decide, by decide⟩
  · obtain ⟨hspelled, -⟩ := getInteger_numeral hget .int (some .null)
    exact (hspelled _ hhigh).2.2 fun h => absurd h.2 (by decide)
  · obtain ⟨hspelled, -⟩ := getInteger_numeral hget .long none
    exact (hspelled _ hhigh).1
  · have hget : spelledIntegers.get? "none" = some (.text " 1__0") := rfl
    obtain ⟨-, hrefused, -⟩ := getInteger_numeral hget .long (some (.int 10))
    exact hrefused (by decide +kernel) hnone
  · have hget : spelledIntegers.get? "printed" = some (.text "-9223372036854775808") := rfl
    obtain ⟨-, -, hprinted⟩ := getInteger_numeral hget .long none
    exact hprinted _ ⟨by decide, by decide⟩ (by decide +kernel)

end Settings

end StoreTuning
