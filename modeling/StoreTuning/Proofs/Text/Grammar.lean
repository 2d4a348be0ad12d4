import Mathlib.Data.Nat.Digits.Defs
import StoreTuning.Proofs.Text.Numeral
import StoreTuning.Proofs.Text.Strip

/-!
# The grammar of numerals

How an integer may be spelled, with nothing said of how a text is read: white space on both sides,
at most one sign, and decimal digits of any scripts, at most 4300 of them, between any two of which
there may be one underscore (`Text.Numeral.Spelling`). The number that is spelled has each digit at
the place value of its position. A text is read as an integer exactly when that integer is what it
spells (`Text.Numeral.parse?_eq_some_iff`).
-/

namespace StoreTuning.Text

/-- A digit of any script is no white space. -/
theorem isBlank_of_digitValue? {c : Char} {d : Nat} (h : digitValue? c = some d) :
    isBlank c = false := by
  have hapart : ∀ z ∈ digitZeros, ∀ r ∈ whiteSpace.ranges, r.2 < z ∨ z + 10 ≤ r.1 := by
    decide +kernel
  obtain ⟨z, hz, -⟩ := Option.map_eq_some_iff.1 h
  have hrun := List.find?_some hz
  simp only [Bool.and_eq_true, decide_eq_true_eq] at hrun
  rw [← Bool.not_eq_true, isBlank, CharClass.contains_iff]
  rintro ⟨r, hr, hlow, hhigh⟩
  obtain h | h := hapart z (List.mem_of_find?_eq_some hz) r hr
  all_goals omega

namespace Numeral

/-! ## Spellings -/

/-- A character is a decimal digit of some script. -/
def IsDigit (c : Char) : Prop :=
  (digitValue? c).isSome = true

/-- Characters are decimal digits, with single underscores between them and none at the ends. -/
structure Grouped (cs : List Char) : Prop where
  /-- There is nothing else. -/
  char : ∀ c ∈ cs, IsDigit c ∨ c = '_'
  /-- A digit comes first. -/
  first : ∃ c ∈ cs.head?, IsDigit c
  /-- A digit comes last. -/
  last : ∃ c ∈ cs.getLast?, IsDigit c
  /-- No two underscores are next to each other. -/
  apart : cs.IsChain fun c d => ¬ (c = '_' ∧ d = '_')

/-- The values of the digits among characters, in order. -/
def digitsOf (cs : List Char) : List Nat :=
  cs.filterMap digitValue?

/-- The number that the digits among characters denote, the last one being that of the units. -/
def valueOf (cs : List Char) : Nat :=
  Nat.ofDigits 10 (digitsOf cs).reverse

/-- The sign in front of the digits, if there is one. -/
inductive Sign where
  | none
  | plus
  | minus

/-- The characters of a sign. -/
def Sign.chars : Sign → List Char
  | none => []
  | plus => ['+']
  | minus => ['-']

/-- What a sign makes of the number after it. -/
def Sign.apply : Sign → Nat → Int
  | none, n => n
  | plus, n => n
  | minus, n => -n

/-- The spelling of an integer. -/
structure Spelling where
  /-- The white space in front. -/
  before : List Char
  /-- The sign. -/
  sign : Sign
  /-- The digits, with the underscores between them. -/
  body : List Char
  /-- The white space at the end. -/
  after : List Char
  blank_before : AllBlank before
  blank_after : AllBlank after
  grouped : Grouped body
  /-- There are not too many digits. -/
  limit : (digitsOf body).length ≤ digitLimit

namespace Spelling

/-- The text of a spelling. -/
def text (p : Spelling) : String :=
  String.ofList (p.before ++ p.sign.chars ++ p.body ++ p.after)

/-- The integer that is spelled. -/
def number (p : Spelling) : Int :=
  p.sign.apply (valueOf p.body)

end Spelling

/-- A text spells an integer when it is the text of one of the spellings of that integer. -/
def Spells (s : String) (n : Int) : Prop :=
  ∃ p : Spelling, p.text = s ∧ p.number = n

/-! ## Digits -/

theorem not_isDigit_underscore : ¬ IsDigit '_' := by
  unfold IsDigit
  decide +kernel

theorem Grouped.ne_nil {cs : List Char} (h : Grouped cs) : cs ≠ [] := by
  rintro rfl
  obtain ⟨c, hc, -⟩ := h.first
  cases hc

theorem grouped_singleton {c : Char} : Grouped [c] ↔ IsDigit c := by
  constructor
  · intro h
    obtain ⟨c', hc, hdigit⟩ := h.first
    cases hc
    exact hdigit
  · intro h
    exact ⟨by simp [h], ⟨c, rfl, h⟩, ⟨c, rfl, h⟩, .singleton c⟩

theorem ne_underscore_of_isDigit {c : Char} (h : IsDigit c) : c ≠ '_' := by
  rintro rfl
  exact not_isDigit_underscore h

/-- After a digit there are digits, if no underscore. -/
theorem grouped_cons {c d : Char} {cs : List Char} (hd : d ≠ '_') :
    Grouped (c :: d :: cs) ↔ IsDigit c ∧ Grouped (d :: cs) := by
  constructor
  · rintro ⟨hchar, ⟨c', hc', hc⟩, hlast, hapart⟩
    cases hc'
    have htail := (List.forall_mem_cons.1 hchar).2
    have hdigit : IsDigit d := (htail d List.mem_cons_self).resolve_right hd
    rw [List.getLast?_cons_cons] at hlast
    exact ⟨hc, htail, ⟨d, rfl, hdigit⟩, hlast, (List.isChain_cons_cons.1 hapart).2⟩
  · rintro ⟨hc, hchar, -, hlast, hapart⟩
    have hne : ¬ (c = '_' ∧ d = '_') := fun h => hd h.2
    refine ⟨List.forall_mem_cons.2 ⟨.inl hc, hchar⟩, ⟨c, rfl, hc⟩, ?_,
      List.isChain_cons_cons.2 ⟨hne, hapart⟩⟩
    rwa [List.getLast?_cons_cons]

/-- After a digit and an underscore there are digits again. -/
theorem grouped_underscore {c : Char} {cs : List Char} :
    Grouped (c :: '_' :: cs) ↔ IsDigit c ∧ Grouped cs := by
  constructor
  · rintro ⟨hchar, ⟨c', hc', hc⟩, hlast, hapart⟩
    cases hc'
    cases cs with
    | nil =>
      -- The underscore would be the last character.
      obtain ⟨c', hc', hdigit⟩ := hlast
      cases hc'
      exact absurd hdigit not_isDigit_underscore
    | cons d cs =>
      obtain ⟨-, hapart⟩ := List.isChain_cons_cons.1 hapart
      obtain ⟨hd, hapart⟩ := List.isChain_cons_cons.1 hapart
      have htail : ∀ e ∈ d :: cs, IsDigit e ∨ e = '_' :=
        (List.forall_mem_cons.1 (List.forall_mem_cons.1 hchar).2).2
      have hdigit : IsDigit d :=
        (htail d List.mem_cons_self).resolve_right fun h => hd ⟨rfl, h⟩
      rw [List.getLast?_cons_cons, List.getLast?_cons_cons] at hlast
      exact ⟨hc, htail, ⟨d, rfl, hdigit⟩, hlast, hapart⟩
  · rintro ⟨hc, hchar, ⟨d, hd, hdigit⟩, hlast, hapart⟩
    cases cs with
    | nil => cases hd
    | cons e cs =>
      obtain rfl : e = d := Option.some.inj hd
      have hfirst : ¬ (c = '_' ∧ '_' = '_') := fun h => ne_underscore_of_isDigit hc h.1
      have hsecond : ¬ ('_' = '_' ∧ e = '_') := fun h => ne_underscore_of_isDigit hdigit h.2
      refine ⟨List.forall_mem_cons.2 ⟨.inl hc, List.forall_mem_cons.2 ⟨.inr rfl, hchar⟩⟩,
        ⟨c, rfl, hc⟩, ?_,
        List.isChain_cons_cons.2 ⟨hfirst, List.isChain_cons_cons.2 ⟨hsecond, hapart⟩⟩⟩
      rwa [List.getLast?_cons_cons, List.getLast?_cons_cons]

/-- One digit and the digits after it are read when each of the two is. -/
theorem bind_digitValue?_eq_some_iff {c : Char} {rest : List Char}
    (hrest : ∀ {ds}, digits? rest = some ds ↔ Grouped rest ∧ digitsOf rest = ds) {ds : List Nat} :
    ((digitValue? c).bind fun d => (digits? rest).bind fun ds => some (d :: ds)) = some ds ↔
      (IsDigit c ∧ Grouped rest) ∧ digitsOf (c :: rest) = ds := by
  rw [IsDigit, digitsOf, List.filterMap_cons]
  cases digitValue? c with
  | none => simp
  | some d =>
    simp only [Option.bind_some, Option.bind_eq_some_iff, hrest, Option.isSome_some, true_and,
      Option.some.injEq]
    constructor
    · rintro ⟨_, ⟨hgrouped, rfl⟩, hds⟩
      exact ⟨hgrouped, hds⟩
    · rintro ⟨hgrouped, hds⟩
      exact ⟨_, ⟨hgrouped, rfl⟩, hds⟩

/-- Characters are read as digits exactly when they are digits with single underscores between them,
and then every digit is read. -/
theorem digits?_eq_some_iff {cs : List Char} {ds : List Nat} :
    digits? cs = some ds ↔ Grouped cs ∧ digitsOf cs = ds := by
  fun_induction digits? cs generalizing ds with
  | case1 => exact ⟨nofun, fun h => absurd rfl h.1.ne_nil⟩
  | case2 c =>
    rw [grouped_singleton, IsDigit, digitsOf]
    cases h : digitValue? c <;> simp [h]
  | case3 c rest ih =>
    have hskip : digitsOf (c :: '_' :: rest) = digitsOf (c :: rest) := by
      have hnone : digitValue? '_' = none := by decide +kernel
      simp only [digitsOf, List.filterMap_cons, hnone]
    rw [grouped_underscore, hskip]
    exact bind_digitValue?_eq_some_iff ih
  | case4 c rest hne hunderscore ih =>
    cases rest with
    | nil => exact absurd rfl hne
    | cons d rest =>
      have hd : d ≠ '_' := fun h => hunderscore rest (by rw [h])
      rw [grouped_cons hd]
      exact bind_digitValue?_eq_some_iff ih

/-- The number of digits is the one that their places give. -/
theorem ofDigits_digitsOf (cs : List Char) : ofDigits (digitsOf cs) = valueOf cs := by
  rw [valueOf, Nat.ofDigits_eq_foldr, List.foldr_reverse, ofDigits]
  congr 1
  funext n d
  exact Nat.add_comm _ _

/-- Every digit is below ten. -/
theorem lt_ten_of_mem_digitsOf {cs : List Char} {d : Nat} (h : d ∈ digitsOf cs) : d < 10 := by
  obtain ⟨c, -, hc⟩ := List.mem_filterMap.1 h
  exact digitValue?_lt hc

/-- The number that some digits denote is below the power of ten with as many zeros. -/
theorem valueOf_lt {cs : List Char} {k : Nat} (h : (digitsOf cs).length ≤ k) :
    valueOf cs < Nat.pow 10 k := by
  have hdigits : ∀ d ∈ (digitsOf cs).reverse, d < 10 :=
    fun d hd => lt_ten_of_mem_digitsOf (List.mem_reverse.1 hd)
  have hlt := Nat.ofDigits_lt_base_pow_length (by decide) hdigits
  rw [List.length_reverse] at hlt
  exact lt_of_lt_of_le hlt (Nat.pow_le_pow_right (by decide) h)

/-! ## Numerals -/

/-- An unsigned numeral is read exactly when it is made of digits, and not of too many. -/
theorem natural?_eq_some_iff {cs : List Char} {n : Nat} :
    natural? cs = some n ↔
      Grouped cs ∧ (digitsOf cs).length ≤ digitLimit ∧ valueOf cs = n := by
  constructor
  · intro h
    obtain ⟨ds, hds, h⟩ := Option.bind_eq_some_iff.1 h
    obtain ⟨hgrouped, rfl⟩ := digits?_eq_some_iff.1 hds
    split at h
    next hlimit =>
      rw [ofDigits_digitsOf] at h
      exact ⟨hgrouped, hlimit, Option.some.inj h⟩
    next => cases h
  · rintro ⟨hgrouped, hlimit, rfl⟩
    refine Option.bind_eq_some_iff.2 ⟨_, digits?_eq_some_iff.2 ⟨hgrouped, rfl⟩, ?_⟩
    rw [if_pos hlimit, ofDigits_digitsOf]

/-- Digits without a sign are read as an unsigned numeral. -/
theorem integer?_of_grouped {cs : List Char} (h : Grouped cs) :
    integer? cs = (natural? cs).map Int.ofNat := by
  obtain ⟨c, hc, hdigit⟩ := h.first
  unfold integer?
  split
  next => cases hc; exact absurd hdigit (by unfold IsDigit; decide +kernel)
  next => cases hc; exact absurd hdigit (by unfold IsDigit; decide +kernel)
  next => rfl

/-- A numeral is read exactly when it is made of a sign, or none, and digits. -/
theorem integer?_eq_some_iff {cs : List Char} {n : Int} :
    integer? cs = some n ↔ ∃ (sign : Sign) (body : List Char), cs = sign.chars ++ body ∧
      Grouped body ∧ (digitsOf body).length ≤ digitLimit ∧ sign.apply (valueOf body) = n := by
  constructor
  · intro h
    unfold integer? at h
    split at h
    next cs =>
      obtain ⟨m, hm, rfl⟩ := Option.map_eq_some_iff.1 h
      obtain ⟨hgrouped, hlimit, rfl⟩ := natural?_eq_some_iff.1 hm
      exact ⟨.plus, cs, rfl, hgrouped, hlimit, rfl⟩
    next cs =>
      obtain ⟨m, hm, rfl⟩ := Option.map_eq_some_iff.1 h
      obtain ⟨hgrouped, hlimit, rfl⟩ := natural?_eq_some_iff.1 hm
      exact ⟨.minus, cs, rfl, hgrouped, hlimit, rfl⟩
    next =>
      obtain ⟨m, hm, rfl⟩ := Option.map_eq_some_iff.1 h
      obtain ⟨hgrouped, hlimit, rfl⟩ := natural?_eq_some_iff.1 hm
      exact ⟨.none, cs, rfl, hgrouped, hlimit, rfl⟩
  · rintro ⟨sign, body, rfl, hgrouped, hlimit, rfl⟩
    have hnatural := natural?_eq_some_iff.2 ⟨hgrouped, hlimit, rfl⟩
    cases sign with
    | none =>
      show integer? body = _
      rw [integer?_of_grouped hgrouped, hnatural]
      rfl
    | plus =>
      show (natural? body).map _ = _
      rw [hnatural]
      rfl
    | minus =>
      show (natural? body).map _ = _
      rw [hnatural]
      rfl

/-- A character that is known to be a digit is no white space. -/
theorem isBlank_of_mem_ends {c? : Option Char} (h : ∃ c ∈ c?, IsDigit c) {c : Char} (hc : c ∈ c?) :
    isBlank c = false := by
  obtain ⟨c', hc', hdigit⟩ := h
  obtain rfl : c' = c := Option.mem_unique hc' hc
  obtain ⟨d, hd⟩ := Option.isSome_iff_exists.1 hdigit
  exact isBlank_of_digitValue? hd

/-- Neither end of a numeral is white space. -/
theorem bare_signed {body : List Char} (h : Grouped body) (sign : Sign) :
    Bare (sign.chars ++ body) := by
  constructor
  · intro c hc
    cases sign with
    | none => exact isBlank_of_mem_ends h.first hc
    | plus => cases hc; decide
    | minus => cases hc; decide
  · intro c hc
    rw [List.getLast?_append_of_ne_nil _ h.ne_nil] at hc
    exact isBlank_of_mem_ends h.last hc

/-- A text is read as an integer exactly when it spells that integer. -/
theorem parse?_eq_some_iff {s : String} {n : Int} : parse? s = some n ↔ Spells s n := by
  constructor
  · intro h
    obtain ⟨sign, body, hcore, hgrouped, hlimit, hnumber⟩ := integer?_eq_some_iff.1 h
    obtain ⟨before, after, hbefore, hafter, hpadded⟩ := exists_padding s.toList
    refine ⟨⟨before, sign, body, after, hbefore, hafter, hgrouped, hlimit⟩, ?_, hnumber⟩
    rw [Spelling.text, List.append_assoc before, ← hcore, ← hpadded, String.ofList_toList]
  · rintro ⟨p, rfl, rfl⟩
    have hcore : stripChars p.text.toList = p.sign.chars ++ p.body := by
      rw [Spelling.text, String.toList_ofList, List.append_assoc p.before]
      exact stripChars_padded p.blank_before (bare_signed p.grouped p.sign) p.blank_after
    rw [parse?, hcore, integer?_eq_some_iff]
    exact ⟨p.sign, p.body, rfl, p.grouped, p.limit, rfl⟩

instance {s : String} {n : Int} : Decidable (Spells s n) :=
  decidable_of_iff _ parse?_eq_some_iff

/-- A text that spells no integer is not read as one. -/
theorem parse?_eq_none_iff {s : String} : parse? s = none ↔ ∀ n, ¬ Spells s n := by
  rw [Option.eq_none_iff_forall_ne_some]
  exact forall_congr' fun n => not_congr parse?_eq_some_iff

namespace Spells

variable {s : String} {n : Int}

/-- A text spells one integer at most. -/
theorem unique {m : Int} (hm : Spells s m) (hn : Spells s n) : m = n :=
  Option.some.inj ((parse?_eq_some_iff.2 hm).symm.trans (parse?_eq_some_iff.2 hn))

/-- What is spelled can be printed. -/
theorem withinLimit (h : Spells s n) : withinLimit n = true := by
  obtain ⟨p, -, rfl⟩ := h
  have hnat : p.number.natAbs = valueOf p.body := by
    rw [Spelling.number]
    cases p.sign with
    | none => rfl
    | plus => rfl
    | minus => exact Int.natAbs_neg _
  rw [Numeral.withinLimit, hnat]
  exact decide_eq_true (valueOf_lt p.limit)

/-- What spells an integer is not blank. -/
theorem not_blank (h : Spells s n) : blank s = false := by
  obtain ⟨p, rfl, -⟩ := h
  obtain ⟨c, hc, -⟩ := p.grouped.first
  have hbody : c ∈ p.body := List.mem_of_mem_head? hc
  rw [blank, List.all_eq_false]
  refine ⟨c, ?_, by rw [isBlank_of_mem_ends p.grouped.first hc]; decide⟩
  simp [Spelling.text, hbody]

end Spells

/-- How an integer is printed spells it. -/
theorem spells_spell {n : Int} (h : withinLimit n = true) : Spells (spell n) n :=
  parse?_eq_some_iff.1 (parse?_spell h)

end Numeral

end StoreTuning.Text
