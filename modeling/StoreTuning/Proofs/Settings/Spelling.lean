import StoreTuning.Proofs.Settings.Lookup
import StoreTuning.Proofs.Text.Numeral

/-!
# Settings spelled out

Settings may hold truth values and integers as such, or spelled out as text (`Settings.spell`). Each
way of reading takes both alike: it gives the same result, or fails for the same key and for want of
the same (`Settings.getText_spell`, `Settings.getFlag_spell`, `Settings.getInteger_spell`). Only the
value that an error shows may differ (`LookupError.withoutValue`).
-/

namespace StoreTuning

variable {β : Type}

/-- The error without the value that it shows. -/
def LookupError.withoutValue : LookupError → LookupError
  | invalid key _ expected => invalid key .null expected
  | e => e

/-- What is refused for a value that can be printed is an invalid value. -/
theorem LookupError.withoutValue_reject (key : String) {v : Value} (x : Expectation)
    (h : v.withinDigitLimit = true) : (reject key v x).withoutValue = invalid key .null x := by
  rw [reject, if_pos h, withoutValue]

namespace Value

/-- A truth value or an integer spelled out as text; other values stay. -/
def spelled : Value → Value
  | bool b => text (bool b).toText
  | int n => text (int n).toText
  | v => v

/-- An integer can be printed within the digit limit. -/
theorem withinDigitLimit_int (n : Int) :
    (int n).withinDigitLimit = Text.Numeral.withinLimit n := by
  rw [withinDigitLimit, Scalar.withinDigitLimit]

/-- An integer prints as its spelling. -/
theorem toText_int (n : Int) : (int n).toText = Text.Numeral.spell n := rfl

/-- Whether a value can be spelled out: an integer has to stay within the digit limit. -/
def Spellable (v : Value) : Prop :=
  ∀ n, v = int n → Text.Numeral.withinLimit n = true

/-- An integer is no truth value, and neither is its spelling. -/
theorem flagOfText?_spell (n : Int) : flagOfText? (Text.Numeral.spell n) = none := by
  have hword : ∀ word : String, (∃ c ∈ word.toList, c.isDigit = false ∧ c ≠ '-') →
      lowerCase (Text.Numeral.spell n) ≠ word := by
    rintro word ⟨c, hc, hdigit, hminus⟩ rfl
    rw [lowerCase, String.toList_ofList, List.mem_map] at hc
    obtain ⟨d, hd, rfl⟩ := hc
    -- A digit or a minus sign stays what it is in lower case.
    obtain hd | rfl := Text.Numeral.mem_spell hd
    · have hrange : 48 ≤ d.toNat ∧ d.toNat ≤ 57 := by
        simpa [Char.isDigit, UInt32.le_iff_toNat_le] using hd
      have hlower : d.toLower = d := by
        refine dif_neg ?_
        rintro ⟨hupper, -⟩
        have : 65 ≤ d.toNat := by simpa [UInt32.le_iff_toNat_le] using hupper
        omega
      rw [hlower, hd] at hdigit
      cases hdigit
    · exact hminus (by decide)
  unfold flagOfText?
  rw [Text.Numeral.strip_spell]
  dsimp only
  rw [if_neg (hword "true" ⟨'t', by decide⟩), if_neg (hword "false" ⟨'f', by decide⟩)]

/-- Spelling a value out leaves it specified, or unspecified. -/
theorem unspecified_spelled (v : Value) : v.spelled.unspecified = v.unspecified := by
  cases v with
  | scalar s =>
    cases s with
    | bool b => cases b <;> decide
    | int n => exact Text.Numeral.blank_spell n
    | _ => rfl
  | _ => rfl

/-- A value that can be printed is read as text as it prints. -/
theorem readText_of_withinDigitLimit {v : Value} (h : v.withinDigitLimit = true) :
    v.readText = .ok v.toText := by
  unfold readText
  split
  · rfl
  · rw [if_pos h]

/-- As text a value is read as it is spelled. -/
theorem readText_spelled {v : Value} (h : v.Spellable) : v.spelled.readText = v.readText := by
  cases v with
  | scalar s =>
    cases s with
    | int n =>
      rw [readText_of_withinDigitLimit (v := int n) ((withinDigitLimit_int n).trans (h n rfl))]
      rfl
    | _ => rfl
  | _ => rfl

/-- A text that spells no truth value is refused. -/
theorem readFlag_text_of_none (key : String) {s : String} (h : flagOfText? s = none) :
    (text s).readFlag key = .error (.reject key (text s) .flag) := by
  rw [readFlag, h]

/-- A text that spells no integer is refused. -/
theorem readInteger_text_of_none (key : String) (w : Width) {s : String}
    (h : Text.Numeral.parse? s = none) :
    (text s).readInteger key w = .error (.reject key (text s) (.integer w)) := by
  rw [readInteger, h]

/-- A text that spells an integer is read as that integer. -/
theorem readInteger_text_of_some (key : String) (w : Width) {s : String} {n : Int}
    (h : Text.Numeral.parse? s = some n) : (text s).readInteger key w = checkWidth key w n := by
  rw [readInteger, h]

/-- What is refused for two values that can be printed differs in the value only. -/
theorem mapError_reject_congr (key : String) {v v' : Value} (x : Expectation)
    (h : v.withinDigitLimit = true) (h' : v'.withinDigitLimit = true) :
    (Except.error (.reject key v x) : Except LookupError β).mapError LookupError.withoutValue =
      (Except.error (.reject key v' x)).mapError LookupError.withoutValue := by
  show Except.error (LookupError.reject key v x).withoutValue = Except.error _
  rw [LookupError.withoutValue_reject key x h, ← LookupError.withoutValue_reject key x h']

/-- A truth value is read from its spelling, and what is none is refused with its spelling. -/
theorem readFlag_spelled (key : String) {v : Value} (h : v.Spellable) :
    (v.spelled.readFlag key).mapError LookupError.withoutValue =
      (v.readFlag key).mapError LookupError.withoutValue := by
  cases v with
  | scalar s =>
    cases s with
    | bool b => cases b <;> rfl
    | int n =>
      rw [spelled, toText_int, readFlag_text_of_none key (flagOfText?_spell n), readFlag]
      · exact mapError_reject_congr key .flag rfl ((withinDigitLimit_int n).trans (h n rfl))
      all_goals exact nofun
    | _ => rfl
  | _ => rfl

/-- An integer is read from its spelling, and what is none is refused with its spelling. -/
theorem readInteger_spelled (key : String) (w : Width) {v : Value} (h : v.Spellable) :
    (v.spelled.readInteger key w).mapError LookupError.withoutValue =
      (v.readInteger key w).mapError LookupError.withoutValue := by
  cases v with
  | scalar s =>
    cases s with
    | bool b =>
      have hparse : Text.Numeral.parse? (bool b).toText = none := by
        cases b <;> decide +kernel
      rw [spelled, readInteger_text_of_none key w hparse]
      exact mapError_reject_congr key (.integer w) rfl rfl
    | int n =>
      rw [spelled, toText_int,
        readInteger_text_of_some key w (Text.Numeral.parse?_spell (h n rfl)), readInteger]
    | _ => rfl
  | _ => rfl

end Value

namespace Settings

/-- The settings with the values under chosen keys spelled out. -/
def spell (chosen : String → Bool) (s : Settings) : Settings where
  entries := s.entries.map fun e => (e.1, if chosen e.1 then e.2.spelled else e.2)
  nodup := by
    have hkeys : Entries.keys (s.entries.map fun e =>
        (e.1, if chosen e.1 then e.2.spelled else e.2)) = Entries.keys s.entries := by
      rw [Entries.keys, List.map_map]
      rfl
    rw [hkeys]
    exact s.nodup

/-- What can be spelled out under each chosen key. -/
def Spellable (chosen : String → Bool) (s : Settings) : Prop :=
  ∀ key v, chosen key = true → s.get? key = some v → v.Spellable

variable {chosen : String → Bool} {s : Settings}

/-- Under a chosen key there is the value spelled out. -/
theorem get?_spell (chosen : String → Bool) (s : Settings) (key : String) :
    (s.spell chosen).get? key = (s.get? key).map fun v => if chosen key then v.spelled else v := by
  obtain ⟨es, hes⟩ := s
  show (es.map _).lookup key = (es.lookup key).map _
  clear hes
  induction es with
  | nil => rfl
  | cons e es ih =>
    rw [List.map_cons, List.lookup_cons, List.lookup_cons]
    cases hk : key == e.1 with
    | true => rw [eq_of_beq hk]; rfl
    | false => exact ih

/-- A key is present, spelled out or not. -/
theorem contains_spell (chosen : String → Bool) (s : Settings) (key : String) :
    (s.spell chosen).contains key = s.contains key := by
  rw [contains, contains, get?_spell, Option.isSome_map]

/-- A lookup goes on alike when what is read of a value is read alike of its spelling. -/
theorem lookup_spell {read : Value → Except LookupError β} {key : String}
    (hs : s.Spellable chosen)
    (hread : ∀ v : Value, v.Spellable → (read v.spelled).mapError LookupError.withoutValue =
      (read v).mapError LookupError.withoutValue) (fallback? : Option Value) :
    ((s.spell chosen).lookup key fallback? >>= read).mapError LookupError.withoutValue =
      (s.lookup key fallback? >>= read).mapError LookupError.withoutValue := by
  unfold lookup specified?
  rw [get?_spell]
  cases hv : s.get? key with
  | none => rfl
  | some v =>
    cases hc : chosen key with
    | false => rfl
    | true =>
      have hspelled := hread v (hs key v hc hv)
      rw [Option.map_some, if_pos rfl, Option.filter_some, Option.filter_some,
        Value.unspecified_spelled]
      -- Only a value that is specified is read, and then it is the spelling that is read.
      cases hu : v.unspecified with
      | true => rfl
      | false => exact hspelled

theorem getText_spell (hs : s.Spellable chosen) (key : String) (fallback? : Option Value) :
    ((s.spell chosen).getText key fallback?).mapError LookupError.withoutValue =
      (s.getText key fallback?).mapError LookupError.withoutValue :=
  lookup_spell hs (fun _ hv => by rw [Value.readText_spelled hv]) fallback?

theorem getFlag_spell (hs : s.Spellable chosen) (key : String) (fallback? : Option Value) :
    ((s.spell chosen).getFlag key fallback?).mapError LookupError.withoutValue =
      (s.getFlag key fallback?).mapError LookupError.withoutValue :=
  lookup_spell hs (fun _ => Value.readFlag_spelled key) fallback?

theorem getInteger_spell (hs : s.Spellable chosen) (key : String) (w : Width)
    (fallback? : Option Value) :
    ((s.spell chosen).getInteger key w fallback?).mapError LookupError.withoutValue =
      (s.getInteger key w fallback?).mapError LookupError.withoutValue :=
  lookup_spell hs (fun _ => Value.readInteger_spelled key w) fallback?

end Settings

end StoreTuning
