import Mathlib
import StoreTuning.Compile.OptionTable
import StoreTuning.Proofs.Settings.Lookup
import StoreTuning.Proofs.Settings.Spelling
import StoreTuning.Proofs.Text.Grammar

/-!
# What a value is taken for

A setting is asked for as text, as a truth value, or as an integer of a width, and for each of these
it is laid down what every value is taken for (`Converts`), and which value the error shows where it
is taken for nothing (`Offends`). A value has one outcome by that (`Outcome.unique`), which is what
reading it gives (`Value.outcome_read`). A lookup gives the outcome of the value under its key,
whatever the fallback is. Where the key is unspecified it gives the outcome of the fallback, and
without one the key is missing (`Settings.getAs_outcome`).
-/

namespace StoreTuning

/-! ## Truth values as text -/

namespace Text

/-- A letter is a small letter in lower case when it is that letter or its capital. -/
theorem toLower_eq_iff {c d : Char} (hd : d.isLower = true) :
    c.toLower = d ↔ c = d ∨ c = d.toUpper := by
  have hsmall : d.toLower = d := Char.toLower_eq_of_not_isUpper (Char.not_isUpper_of_isLower hd)
  constructor
  · intro h
    by_cases hc : c.isUpper = true
    · right
      calc c = c.toUpper := (Char.toUpper_eq_of_not_isLower (Char.not_isLower_of_isUpper hc)).symm
        _ = c.toLower.toUpper := (Char.toUpper_toLower_eq_toUpper c).symm
        _ = d.toUpper := by rw [h]
    · left
      rw [← h, Char.toLower_eq_of_not_isUpper hc]
  · rintro (rfl | rfl)
    · exact hsmall
    · rw [Char.toLower_toUpper_eq_toLower, hsmall]

/-- Characters are small letters, each in either case, when they are those letters in lower case. -/
theorem forall₂_letter_iff {letters word : List Char} (h : ∀ l ∈ letters, l.isLower = true) :
    List.Forall₂ (fun c l => c = l ∨ c = l.toUpper) word letters ↔
      word.map Char.toLower = letters := by
  induction letters generalizing word with
  | nil => rw [List.forall₂_nil_right_iff, List.map_eq_nil_iff]
  | cons l letters ih =>
    obtain ⟨hl, hletters⟩ := List.forall_mem_cons.1 h
    rw [List.forall₂_cons_right_iff, List.map_eq_cons_iff]
    constructor
    · rintro ⟨c, rest, hc, hrest, rfl⟩
      exact ⟨c, rest, rfl, (toLower_eq_iff hl).2 hc, (ih hletters).1 hrest⟩
    · rintro ⟨c, rest, rfl, hc, hrest⟩
      exact ⟨c, rest, (toLower_eq_iff hl).1 hc, (ih hletters).2 hrest, rfl⟩

end Text

/-- The word for a truth value. -/
def flagWord (b : Bool) : String :=
  if b then "true" else "false"

/-- A text spells a truth value: its word with each letter in either case, and white space around
it. -/
def SpellsFlag (s : String) (b : Bool) : Prop :=
  ∃ before word after, Text.AllBlank before ∧ Text.AllBlank after ∧
    List.Forall₂ (fun c l => c = l ∨ c = l.toUpper) word (flagWord b).toList ∧
    s.toList = before ++ word ++ after

/-- The words are of small letters. -/
theorem isLower_of_mem_flagWord {b : Bool} : ∀ l ∈ (flagWord b).toList, l.isLower = true := by
  refine List.all_eq_true.1 ?_
  cases b <;> decide +kernel

/-- What is one of the words in lower case has no white space. -/
theorem isBlank_of_map_toLower {b : Bool} {word : List Char}
    (h : word.map Char.toLower = (flagWord b).toList) : ∀ c ∈ word, Text.isBlank c = false := by
  have hall : (flagWord b).toList.all
      (fun l => !Text.isBlank l && !Text.isBlank l.toUpper) = true := by
    cases b <;> decide +kernel
  intro c hc
  have hmem : c.toLower ∈ (flagWord b).toList := h ▸ List.mem_map_of_mem hc
  obtain ⟨hsmall, hcapital⟩ : Text.isBlank c.toLower = false ∧
      Text.isBlank c.toLower.toUpper = false := by
    simpa using List.all_eq_true.1 hall _ hmem
  obtain heq | heq := (Text.toLower_eq_iff (isLower_of_mem_flagWord _ hmem)).1 rfl
  · rwa [heq]
  · rwa [heq]

/-- A text without the white space around it is a word in lower case exactly when it spells the
truth value. -/
theorem lowerCase_strip_eq_iff {s : String} {b : Bool} :
    Value.lowerCase (Text.strip s) = flagWord b ↔ SpellsFlag s b := by
  have hchars : Value.lowerCase (Text.strip s) = flagWord b ↔
      (Text.stripChars s.toList).map Char.toLower = (flagWord b).toList := by
    rw [← String.toList_inj, Value.lowerCase, Text.strip, String.toList_ofList,
      String.toList_ofList]
  rw [hchars]
  constructor
  · intro h
    obtain ⟨before, after, hbefore, hafter, hpadded⟩ := Text.exists_padding s.toList
    exact ⟨before, _, after, hbefore, hafter, (Text.forall₂_letter_iff isLower_of_mem_flagWord).2 h,
      hpadded⟩
  · rintro ⟨before, word, after, hbefore, hafter, hletters, hpadded⟩
    have hword := (Text.forall₂_letter_iff isLower_of_mem_flagWord).1 hletters
    have hbare : Text.Bare word :=
      { first := fun c hc => isBlank_of_map_toLower hword c (List.mem_of_mem_head? hc)
        last := fun c hc => isBlank_of_map_toLower hword c (List.mem_of_mem_getLast? hc) }
    rw [hpadded, Text.stripChars_padded hbefore hbare hafter, hword]

/-- A text is read as a truth value exactly when it spells it. -/
theorem flagOfText?_eq_some_iff {s : String} {b : Bool} :
    Value.flagOfText? s = some b ↔ SpellsFlag s b := by
  rw [← lowerCase_strip_eq_iff, Value.flagOfText?]
  generalize Value.lowerCase (Text.strip s) = word
  split
  next h => subst h; cases b <;> simp [flagWord]
  next htrue =>
    split
    next h => subst h; cases b <;> simp [flagWord]
    next hfalse => cases b <;> simp [flagWord, htrue, hfalse]

instance {s : String} {b : Bool} : Decidable (SpellsFlag s b) :=
  decidable_of_iff _ flagOfText?_eq_some_iff

/-! ## The rule -/

/-- The number of bits of an integer of a width. -/
def Width.bits : Width → Nat
  | int => 32
  | long => 64

/-- An integer can be held in the bits of a width, one of which is for the sign. -/
def Width.Holds (w : Width) (n : Int) : Prop :=
  -2 ^ (w.bits - 1) ≤ n ∧ n < 2 ^ (w.bits - 1)

theorem Width.fits_iff_holds {w : Width} {n : Int} : w.fits n = true ↔ w.Holds n := by
  rw [fits_iff, Holds]
  cases w <;> simp only [low, high, bits] <;> omega

/-- What a value is taken for when it is asked for as a kind. -/
inductive Converts : SettingKind → Value → Scalar → Prop where
  /-- A text is kept. -/
  | text (s : String) : Converts .text (.text s) (.text s)
  /-- Anything else is printed. -/
  | printed {v : Value} (h : ∀ s, v ≠ .text s) : Converts .text v (.text v.toText)
  | flag (b : Bool) : Converts .flag (.bool b) (.bool b)
  | flagText {s : String} {b : Bool} (h : SpellsFlag s b) : Converts .flag (.text s) (.bool b)
  | integer {w : Width} {n : Int} (h : w.Holds n) : Converts (.integer w) (.int n) (.int n)
  | integerText {w : Width} {s : String} {n : Int} (hspells : Text.Numeral.Spells s n)
    (h : w.Holds n) : Converts (.integer w) (.text s) (.int n)

/-- The value that is shown when a value is taken for nothing: the integer that a text spells when
it is asked for as an integer, and else the value itself. -/
inductive Offends : SettingKind → Value → Value → Prop where
  | spelled {w : Width} {s : String} {n : Int} (h : Text.Numeral.Spells s n) :
    Offends (.integer w) (.text s) (.int n)
  | itself {kind : SettingKind} {v : Value}
    (h : ∀ w s n, kind = .integer w → v = .text s → ¬ Text.Numeral.Spells s n) : Offends kind v v

/-- The word for what was expected. As text anything will do. -/
def SettingKind.word? : SettingKind → Option String
  | .text => none
  | .flag => some "true or false"
  | .integer .int => some "int"
  | .integer .long => some "long"

/-- What becomes of a value that is asked for as a kind under a key. -/
inductive Outcome (key : String) (kind : SettingKind) (v : Value) :
    Except LookupError Scalar → Prop where
  /-- It is taken for something. -/
  | taken {r : Scalar} (h : Converts kind v r) : Outcome key kind v (.ok r)
  /-- It is taken for nothing, and the error says what was there and what was expected. -/
  | refused {shown : Value} {expected : Expectation} (h : ∀ r, ¬ Converts kind v r)
    (hshown : Offends kind v shown) (hword : kind.word? = some expected.words) :
    Outcome key kind v (.error (.invalid key shown expected))

/-! ## One outcome for each value -/

/-- A text spells one truth value at most. -/
theorem SpellsFlag.unique {s : String} {a b : Bool} (ha : SpellsFlag s a) (hb : SpellsFlag s b) :
    a = b :=
  Option.some.inj ((flagOfText?_eq_some_iff.2 ha).symm.trans (flagOfText?_eq_some_iff.2 hb))

/-- A value is taken for one thing at most. -/
theorem Converts.unique {kind : SettingKind} {v : Value} {r r' : Scalar} (h : Converts kind v r)
    (h' : Converts kind v r') : r = r' := by
  cases h with
  | text s =>
    cases h' with
    | text => rfl
    | printed hno => exact absurd rfl (hno s)
  | printed hno =>
    cases h' with
    | text s => exact absurd rfl (hno s)
    | printed => rfl
  | flag b => cases h'; rfl
  | flagText hs =>
    cases h' with
    | flagText hs' => rw [hs.unique hs']
  | integer => cases h'; rfl
  | integerText hs =>
    cases h' with
    | integerText hs' => rw [hs.unique hs']

/-- One value is shown. -/
theorem Offends.unique {kind : SettingKind} {v shown shown' : Value} (h : Offends kind v shown)
    (h' : Offends kind v shown') : shown = shown' := by
  cases h with
  | spelled hs =>
    cases h' with
    | spelled hs' => rw [hs.unique hs']
    | itself hno => exact absurd hs (hno _ _ _ rfl rfl)
  | itself hno =>
    cases h' with
    | spelled hs => exact absurd hs (hno _ _ _ rfl rfl)
    | itself => rfl

/-- No kind asks for one of some names. -/
theorem SettingKind.word?_ne_oneOf (kind : SettingKind) (names : List String) :
    kind.word? ≠ some (Expectation.oneOf names).words := by
  intro h
  -- The words differ in their first letter.
  have hhead := congrArg (·.bind fun s : String => s.toList.head?) h
  rcases kind with _ | _ | (_ | _) <;> simp [word?, Expectation.words] at hhead

/-- What was expected can be told from the word for it. -/
theorem Expectation.eq_of_words {kind : SettingKind} {x y : Expectation}
    (hx : kind.word? = some x.words) (hy : kind.word? = some y.words) : x = y := by
  have hwords : x.words = y.words := Option.some.inj (hx.symm.trans hy)
  cases x with
  | oneOf names => exact absurd hx (kind.word?_ne_oneOf names)
  | flag =>
    cases y with
    | oneOf names => exact absurd hy (kind.word?_ne_oneOf names)
    | flag => rfl
    | integer w => cases w <;> simp [words, Width.name] at hwords
  | integer w =>
    cases y with
    | oneOf names => exact absurd hy (kind.word?_ne_oneOf names)
    | flag => cases w <;> simp [words, Width.name] at hwords
    | integer w' => cases w <;> cases w' <;> simp [words, Width.name] at hwords ⊢

/-- A value has one outcome. -/
theorem Outcome.unique {key : String} {kind : SettingKind} {v : Value}
    {x y : Except LookupError Scalar} (hx : Outcome key kind v x) (hy : Outcome key kind v y) :
    x = y := by
  cases hx with
  | taken h =>
    cases hy with
    | taken h' => rw [h.unique h']
    | refused hno => exact absurd h (hno _)
  | refused hno hshown hword =>
    cases hy with
    | taken h => exact absurd h (hno _)
    | refused _ hshown' hword' =>
      rw [hshown.unique hshown', Expectation.eq_of_words hword hword']

/-! ## What reading gives -/

namespace Value

variable {v : Value}

/-- As text a value is taken for what it prints as. -/
theorem outcome_readText (key : String) (h : v.withinDigitLimit = true) :
    Outcome key .text v (v.readText.map .text) := by
  rw [readText_of_withinDigitLimit h]
  by_cases htext : ∃ s, v = .text s
  · obtain ⟨s, rfl⟩ := htext
    exact .taken (.text s)
  · exact .taken (.printed fun s hs => htext ⟨s, hs⟩)

/-- A value that is taken for nothing, and is shown as it stands, is refused. -/
theorem outcome_reject (key : String) {kind : SettingKind} {expected : Expectation}
    (h : v.withinDigitLimit = true) (hno : ∀ r, ¬ Converts kind v r) (hshown : Offends kind v v)
    (hword : kind.word? = some expected.words) :
    Outcome key kind v (.error (.reject key v expected)) := by
  rw [LookupError.reject, if_pos h]
  exact .refused hno hshown hword

theorem outcome_readFlag (key : String) (h : v.withinDigitLimit = true) :
    Outcome key .flag v ((v.readFlag key).map .bool) := by
  have hrefused : (∀ r, ¬ Converts .flag v r) →
      Outcome key .flag v (.error (.reject key v .flag)) :=
    fun hno => outcome_reject key h hno (.itself fun _ _ _ hkind => by cases hkind) rfl
  unfold readFlag
  split
  next b => exact .taken (.flag b)
  next s =>
    split
    next b hb => exact .taken (.flagText (flagOfText?_eq_some_iff.1 hb))
    next hnone =>
      refine hrefused fun r hr => ?_
      cases hr with
      | flagText hs => cases hnone.symm.trans (flagOfText?_eq_some_iff.2 hs)
  next hbool htext =>
    refine hrefused fun r hr => ?_
    cases hr with
    | flag b => exact hbool b rfl
    | flagText => exact htext _ rfl

/-- An integer that the width holds is taken as it is. -/
theorem checkWidth_of_holds (key : String) {w : Width} {n : Int} (h : w.Holds n) :
    checkWidth key w n = .ok n := by
  rw [checkWidth, if_pos (Width.fits_iff_holds.2 h)]

/-- An integer that the width does not hold is refused, and the error shows it. -/
theorem checkWidth_of_not_holds (key : String) {w : Width} {n : Int} (h : ¬ w.Holds n)
    (hlimit : Text.Numeral.withinLimit n = true) :
    checkWidth key w n = .error (.invalid key (.int n) (.integer w)) := by
  rw [checkWidth, if_neg (mt Width.fits_iff_holds.1 h), LookupError.reject,
    if_pos ((withinDigitLimit_int n).trans hlimit)]

/-- An integer has its outcome by the width, whether it came as such or spelled out. -/
theorem outcome_checkWidth (key : String) (w : Width) {n : Int}
    (hlimit : Text.Numeral.withinLimit n = true)
    (hconverts : ∀ r, Converts (.integer w) v r ↔ r = .int n ∧ w.Holds n)
    (hshown : Offends (.integer w) v (.int n)) :
    Outcome key (.integer w) v ((checkWidth key w n).map .int) := by
  by_cases h : w.Holds n
  · rw [checkWidth_of_holds key h]
    exact .taken ((hconverts _).2 ⟨rfl, h⟩)
  · rw [checkWidth_of_not_holds key h hlimit]
    exact .refused (fun r hr => h ((hconverts r).1 hr).2) hshown (by cases w <;> rfl)

theorem outcome_readInteger (key : String) (w : Width) (h : v.withinDigitLimit = true) :
    Outcome key (.integer w) v ((v.readInteger key w).map .int) := by
  have hrefused : (∀ r, ¬ Converts (.integer w) v r) →
      (∀ s n, v = .text s → ¬ Text.Numeral.Spells s n) →
      Outcome key (.integer w) v (.error (.reject key v (.integer w))) :=
    fun hno hspells =>
      outcome_reject key h hno (.itself fun _ s n _ => hspells s n) (by cases w <;> rfl)
  unfold readInteger
  split
  next n =>
    refine outcome_checkWidth key w ((withinDigitLimit_int n).symm.trans h) (fun r => ?_)
      (.itself fun _ _ _ _ hv => by cases hv)
    constructor
    · intro hr
      cases hr with
      | integer hn => exact ⟨rfl, hn⟩
    · rintro ⟨rfl, hn⟩
      exact .integer hn
  next s =>
    split
    next n hn =>
      have hspells := Text.Numeral.parse?_eq_some_iff.1 hn
      refine outcome_checkWidth key w hspells.withinLimit (fun r => ?_) (.spelled hspells)
      constructor
      · intro hr
        cases hr with
        | integerText hs hm =>
          obtain rfl := hs.unique hspells
          exact ⟨rfl, hm⟩
      · rintro ⟨rfl, hm⟩
        exact .integerText hspells hm
    next hnone =>
      have hno := Text.Numeral.parse?_eq_none_iff.1 hnone
      refine hrefused (fun r hr => ?_) fun t n ht => ?_
      · cases hr with
        | integerText hs => exact hno _ hs
      · cases ht
        exact hno n
  next hint htext =>
    refine hrefused (fun r hr => ?_) fun s n hs => absurd hs (htext s)
    cases hr with
    | integer => exact hint _ rfl
    | integerText => exact htext _ rfl

/-- The outcome of a value that can be printed is what reading it gives. -/
theorem outcome_read (key : String) (kind : SettingKind) (h : v.withinDigitLimit = true) :
    Outcome key kind v (Reader.read kind key v) :=
  match kind with
  | .text => outcome_readText key h
  | .flag => outcome_readFlag key h
  | .integer w => outcome_readInteger key w h

/-- A value counts as unspecified that is nothing, or text that is all white space. -/
theorem unspecified_iff :
    v.unspecified = true ↔ v = .null ∨ ∃ t, v = .text t ∧ Text.AllBlank t.toList := by
  unfold unspecified
  split
  next => simp
  next s => simp [Text.blank_iff_allBlank]
  next hnull htext =>
    refine ⟨nofun, ?_⟩
    rintro (rfl | ⟨t, rfl, -⟩)
    · exact absurd rfl hnull
    · exact absurd rfl (htext t)

end Value

namespace Settings

/-- A setting that is asked for as a kind. -/
def getAs (s : Settings) (key : String) (fallback? : Option Value) :
    SettingKind → Except LookupError Scalar
  | .text => (s.getText key fallback?).map .text
  | .flag => (s.getFlag key fallback?).map .bool
  | .integer w => (s.getInteger key w fallback?).map .int

/-- A key is unspecified that is absent, or under which there is nothing, or text that is all white
space. -/
def Unspecified (s : Settings) (key : String) : Prop :=
  ∀ v ∈ s.get? key, v = .null ∨ ∃ t, v = .text t ∧ Text.AllBlank t.toList

/-- A setting of any kind is what is read of the value that is looked up. -/
theorem getAs_eq (s : Settings) (key : String) (fallback? : Option Value) (kind : SettingKind) :
    s.getAs key fallback? kind = s.lookup key fallback? >>= Reader.read kind key := by
  cases kind with
  | text =>
    rw [getAs, getText]
    cases s.lookup key fallback? <;> rfl
  | flag =>
    rw [getAs, getFlag]
    cases s.lookup key fallback? <;> rfl
  | integer w =>
    rw [getAs, getInteger]
    cases s.lookup key fallback? <;> rfl

/-- The outcome of the value that is looked up is the outcome of the lookup. -/
theorem outcome_iff_of_lookup {s : Settings} {key : String} {fallback? : Option Value} {v : Value}
    (hlookup : s.lookup key fallback? = .ok v) (hv : v.withinDigitLimit = true)
    (kind : SettingKind) (x : Except LookupError Scalar) :
    Outcome key kind v x ↔ x = s.getAs key fallback? kind := by
  have hread : Outcome key kind v (s.getAs key fallback? kind) := by
    rw [getAs_eq, hlookup]
    exact Value.outcome_read key kind hv
  exact ⟨fun hx => hx.unique hread, fun hx => hx ▸ hread⟩

/-- An unspecified key has no value to read. -/
theorem specified?_eq_none_iff {s : Settings} {key : String} :
    s.specified? key = none ↔ s.Unspecified key := by
  rw [specified?, Option.filter_eq_none_iff, Unspecified]
  simp only [← Value.unspecified_iff, Bool.not_eq_true', Bool.not_eq_false, Option.mem_def]

instance {s : Settings} {key : String} : Decidable (s.Unspecified key) :=
  decidable_of_iff _ (Option.isNone_iff_eq_none.trans specified?_eq_none_iff)

/-- One rule for all kinds of settings: a key that is specified gives the outcome of its value,
whatever the fallback is, and one that is not gives the outcome of the fallback, so that a fallback
is checked like a value. Without a fallback the key is missing. -/
theorem getAs_outcome {s : Settings} {key : String} (fallback? : Option Value)
    (hs : ∀ v ∈ s.get? key, v.withinDigitLimit = true)
    (hfallback : ∀ d ∈ fallback?, d.withinDigitLimit = true) (kind : SettingKind) :
    (¬ s.Unspecified key → ∃ v, s.get? key = some v ∧
      ∀ x, Outcome key kind v x ↔ x = s.getAs key fallback? kind) ∧
    (s.Unspecified key → ∀ d, fallback? = some d →
      ∀ x, Outcome key kind d x ↔ x = s.getAs key fallback? kind) ∧
    (s.Unspecified key → fallback? = none →
      s.getAs key fallback? kind = .error (.missing key)) := by
  refine ⟨fun hspecified => ?_, fun hnone d hd => ?_, fun hnone hd => ?_⟩
  · rw [← specified?_eq_none_iff, ← ne_eq, Option.ne_none_iff_exists'] at hspecified
    obtain ⟨v, hv⟩ := hspecified
    have hget : s.get? key = some v := (Option.filter_eq_some_iff.1 hv).1
    have hlookup : s.lookup key fallback? = .ok v := by
      unfold lookup
      rw [hv]
    exact ⟨v, hget, outcome_iff_of_lookup hlookup (hs v hget) kind⟩
  · have hlookup : s.lookup key fallback? = .ok d := by
      rw [hd, lookup_default, specified?_eq_none_iff.2 hnone, Option.getD_none]
    exact outcome_iff_of_lookup hlookup (hfallback d hd) kind
  · have hlookup : s.lookup key fallback? = .error (.missing key) := by
      unfold lookup
      rw [specified?_eq_none_iff.2 hnone, hd]
    rw [getAs_eq, hlookup]
    rfl

/-- Settings with a truth value in mixed case, a list, and a key without a value. -/
def looseSettings : Settings :=
  .ofPairs [("wal.enabled", .text "\u00a0tRuE\n"), ("compression", .list [.int 1]),
    ("block.size.bytes", .text " \t")]

/-- The truth value is read whatever stands in for it, and the list is printed or refused. For the
blank text the fallback is read: nothing prints as a word, and an integer that is spelled but too
large is shown as an integer. -/
theorem getAs_outcome_looseSettings :
    looseSettings.getAs "wal.enabled" (some .null) .flag = .ok (.bool true) ∧
    looseSettings.getAs "compression" none .text = .ok (.text "[1]") ∧
    looseSettings.getAs "compression" (some (.int 1)) (.integer .long) =
      .error (.invalid "compression" (.list [.int 1]) (.integer .long)) ∧
    looseSettings.getAs "block.size.bytes" (some .null) .text = .ok (.text "None") ∧
    looseSettings.getAs "block.size.bytes" (some (.text "+2_147_483_648")) (.integer .int) =
      .error (.invalid "block.size.bytes" (.int 2147483648) (.integer .int)) ∧
    looseSettings.getAs "block.size.bytes" none .flag = .error (.missing "block.size.bytes") := by
  have hlimit : ∀ key, ∀ v ∈ looseSettings.get? key, v.withinDigitLimit = true := by
    intro key v hv
    have hall : ∀ e ∈ looseSettings.entries, e.2.withinDigitLimit = true := by decide +kernel
    exact hall _ (get?_eq_some_iff.1 hv)
  have hblank : looseSettings.Unspecified "block.size.bytes" := by decide +kernel
  refine ⟨?_, ?_, ?_, ?_, ?_, ?_⟩
  · obtain ⟨v, hv, hiff⟩ :=
      (getAs_outcome (some .null) (hlimit "wal.enabled") (by decide) .flag).1 (by decide +kernel)
    cases hv
    exact ((hiff _).1 (.taken (.flagText (by decide +kernel)))).symm
  · obtain ⟨v, hv, hiff⟩ :=
      (getAs_outcome none (hlimit "compression") nofun .text).1 (by decide +kernel)
    cases hv
    exact ((hiff _).1 (.taken (.printed nofun))).symm
  · obtain ⟨v, hv, hiff⟩ := (getAs_outcome (some (.int 1)) (hlimit "compression")
      (by decide +kernel) (.integer .long)).1 (by decide +kernel)
    cases hv
    exact ((hiff _).1 (.refused nofun (.itself nofun) rfl)).symm
  · obtain ⟨-, hfallback, -⟩ :=
      getAs_outcome (some .null) (hlimit "block.size.bytes") (by decide) .text
    exact ((hfallback hblank _ rfl _).1 (.taken (.printed nofun))).symm
  · obtain ⟨-, hfallback, -⟩ := getAs_outcome (some (.text "+2_147_483_648"))
      (hlimit "block.size.bytes") (by decide) (.integer .int)
    have hspells : Text.Numeral.Spells "+2_147_483_648" 2147483648 := by decide +kernel
    refine ((hfallback hblank _ rfl _).1 (.refused (fun r hr => ?_) (.spelled hspells) rfl)).symm
    cases hr with
    | integerText hs hn =>
      obtain rfl := hs.unique hspells
      exact absurd hn.2 (by decide)
  · obtain ⟨-, -, hmissing⟩ := getAs_outcome none (hlimit "block.size.bytes") nofun .flag
    exact hmissing hblank rfl

end Settings

end StoreTuning
