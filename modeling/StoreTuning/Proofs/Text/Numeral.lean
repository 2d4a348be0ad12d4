import StoreTuning.Text.Numeral

/-!
# Numerals that are printed

An integer within the digit limit is read back from its spelling (`Text.Numeral.parse?_spell`). A
spelling holds nothing but digits and a minus sign (`Text.Numeral.mem_spell`), so that it is never
blank and has no white space to take off.
-/

namespace StoreTuning.Text

/-- A text without white space has none to take off. -/
theorem stripChars_eq_self {cs : List Char} (h : ∀ c ∈ cs, isBlank c = false) :
    stripChars cs = cs := by
  have hdrop : ∀ ds : List Char, (∀ c ∈ ds, isBlank c = false) → ds.dropWhile isBlank = ds := by
    intro ds hds
    cases ds with
    | nil => rfl
    | cons c ds => rw [List.dropWhile_cons, hds c List.mem_cons_self, if_neg Bool.false_ne_true]
  have hreverse : ∀ c ∈ cs.reverse, isBlank c = false := fun c hc => h c (List.mem_reverse.1 hc)
  rw [stripChars, trim, hdrop cs h, hdrop cs.reverse hreverse, List.reverse_reverse]

/-- A digit of ASCII has its distance from zero as its value. -/
theorem digitValue?_of_isDigit {c : Char} (h : c.isDigit = true) :
    digitValue? c = some (c.toNat - '0'.toNat) := by
  have hrange : 48 ≤ c.toNat ∧ c.toNat ≤ 57 := by
    simpa [Char.isDigit, UInt32.le_iff_toNat_le] using h
  have hzeros : digitZeros = 0x30 :: digitZeros.tail := rfl
  have hfind : digitZeros.find? (fun z => z ≤ c.toNat && c.toNat < z + 10) = some 0x30 := by
    rw [hzeros]
    refine List.find?_cons_of_pos ?_
    simp only [Bool.and_eq_true, decide_eq_true_eq]
    omega
  rw [digitValue?, hfind]
  rfl

namespace Numeral

/-- Digits of ASCII are a numeral with their values. -/
theorem digits?_of_isDigit {cs : List Char} (hne : cs ≠ []) (h : ∀ c ∈ cs, c.isDigit = true) :
    digits? cs = some (cs.map fun c => c.toNat - '0'.toNat) := by
  induction cs with
  | nil => exact absurd rfl hne
  | cons c cs ih =>
    have hc := digitValue?_of_isDigit (h c List.mem_cons_self)
    cases cs with
    | nil => rw [digits?, hc]; rfl
    | cons d ds =>
      have hd : d ≠ '_' := by
        rintro rfl
        exact absurd (h '_' (by simp)) (by decide)
      have hrest := ih (List.cons_ne_nil d ds) fun e he => h e (List.mem_cons_of_mem c he)
      rw [digits?.eq_4 _ _ (by simp) (by simpa using hd), hc, hrest]
      rfl

/-- A number below a power of ten has no more digits than that power has zeros. -/
theorem length_toDigits_le {n k : Nat} (hk : 0 < k) (h : n < Nat.pow 10 k) :
    (Nat.toDigits 10 n).length ≤ k :=
  (Nat.length_toDigits_le_iff (by decide) hk).2 h

/-- A natural number is read back from its digits if there are not too many of them. -/
theorem natural?_toDigits {n : Nat} (h : n < Nat.pow 10 digitLimit) :
    natural? (Nat.toDigits 10 n) = some n := by
  have hdigit : ∀ c ∈ Nat.toDigits 10 n, c.isDigit = true :=
    fun c hc => Nat.isDigit_of_mem_toDigits (by decide) (by decide) hc
  have hlength : (Nat.toDigits 10 n).length ≤ digitLimit := length_toDigits_le (by decide) h
  have hvalue : ofDigits ((Nat.toDigits 10 n).map fun c => c.toNat - '0'.toNat) = n := by
    rw [ofDigits, List.foldl_map, ← Nat.ofDigitChars_eq_foldl, Nat.ofDigitChars_ten_toDigits]
  rw [natural?, digits?_of_isDigit Nat.toDigits_ne_nil hdigit]
  show (if _ then _ else _) = _
  rw [List.length_map, if_pos hlength, hvalue]

/-- The characters of a spelling are digits and a minus sign. -/
theorem mem_spell {n : Int} {c : Char} (h : c ∈ (spell n).toList) : c.isDigit = true ∨ c = '-' := by
  cases n with
  | ofNat n =>
    rw [spell, Nat.toList_repr] at h
    exact .inl (Nat.isDigit_of_mem_toDigits (by decide) (by decide) h)
  | negSucc n =>
    rw [spell, String.toList_append, Nat.toList_repr, List.mem_append] at h
    obtain h | h := h
    · exact .inr (by simpa using h)
    · exact .inl (Nat.isDigit_of_mem_toDigits (by decide) (by decide) h)

/-- A spelling holds no white space. -/
theorem isBlank_of_mem_spell {n : Int} {c : Char} (h : c ∈ (spell n).toList) :
    isBlank c = false := by
  obtain h | rfl := mem_spell h
  · have hrange : 48 ≤ c.toNat ∧ c.toNat ≤ 57 := by
      simpa [Char.isDigit, UInt32.le_iff_toNat_le] using h
    simp only [isBlank, CharClass.contains, whiteSpace, List.any_cons, List.any_nil,
      Bool.or_false, Bool.or_eq_false_iff, Bool.and_eq_false_iff, decide_eq_false_iff_not]
    omega
  · decide

/-- A spelling is never empty. -/
theorem spell_toList_ne_nil (n : Int) : (spell n).toList ≠ [] := by
  cases n with
  | ofNat n => rw [spell, Nat.toList_repr]; exact Nat.toDigits_ne_nil
  | negSucc n => simp [spell]

/-- A spelling is never blank. -/
theorem blank_spell (n : Int) : blank (spell n) = false := by
  obtain ⟨c, hc⟩ := List.exists_mem_of_ne_nil _ (spell_toList_ne_nil n)
  rw [blank, List.all_eq_false]
  exact ⟨c, hc, by rw [isBlank_of_mem_spell hc]; decide⟩

/-- A spelling has no white space to take off. -/
theorem strip_spell (n : Int) : strip (spell n) = spell n := by
  rw [strip, stripChars_eq_self fun c => isBlank_of_mem_spell, String.ofList_toList]

/-- Digits have no sign in front. -/
theorem integer?_toDigits (n : Nat) :
    integer? (Nat.toDigits 10 n) = (natural? (Nat.toDigits 10 n)).map Int.ofNat := by
  have hdigit : ∀ c ∈ Nat.toDigits 10 n, c.isDigit = true :=
    fun c hc => Nat.isDigit_of_mem_toDigits (by decide) (by decide) hc
  unfold integer?
  split
  next cs hcs => exact absurd (hdigit '+' (hcs ▸ List.mem_cons_self)) (by decide)
  next cs hcs => exact absurd (hdigit '-' (hcs ▸ List.mem_cons_self)) (by decide)
  next => rfl

/-- An integer within the digit limit is read back from its spelling. -/
theorem parse?_spell {n : Int} (h : withinLimit n = true) : parse? (spell n) = some n := by
  have hlimit : n.natAbs < Nat.pow 10 digitLimit := of_decide_eq_true h
  rw [parse?, stripChars_eq_self fun c => isBlank_of_mem_spell]
  cases n with
  | ofNat n =>
    rw [spell, Nat.toList_repr, integer?_toDigits, natural?_toDigits (n := n) hlimit]
    rfl
  | negSucc n =>
    rw [spell, String.toList_append, Nat.toList_repr]
    show (natural? (Nat.toDigits 10 (n + 1))).map _ = _
    rw [natural?_toDigits (n := n + 1) hlimit]
    rfl

end Numeral

end StoreTuning.Text
