import StoreTuning.Proofs.Compile.Job
import StoreTuning.Proofs.Settings.Spelling
import StoreTuning.Proofs.Value.Text

/-!
# What choices resolve to

A choice by name resolves to the member that is named, or else to the fallback
(`Settings.resolved`). The codec and the compaction family that come out of a compilation are the
ones that their settings resolve to (`resolvedCompression_of_outcome`, `resolvedStyle_of_outcome`).

Only a text is a name, and only as it stands: no other value prints as one, and neither does blank
text (`Settings.resolved_of_get?`). So what is no name may be replaced by the fallback's, or
removed.
-/

namespace StoreTuning

variable {ε α : Type}

namespace Value

/-- A value of a kind that settings are read as, and whose integers can be printed. -/
structure Plain (v : Value) : Prop where
  /-- Its integers stay within the digit limit. -/
  printable : v.withinDigitLimit = true
  /-- It is not one that is known only by its texts. -/
  known : ∀ f, v ≠ other f

/-- A text is plain. -/
theorem plain_text (s : String) : (text s).Plain :=
  ⟨rfl, nofun⟩

/-- The text of a choice: nothing is said by a value that counts as unspecified. -/
def shown (v : Value) : String :=
  if v.unspecified then "" else v.toText

/-- Whether a value is one of some names, as it stands. -/
def isAmong (names : List String) (v : Value) : Bool :=
  v.text?.any names.contains

/-- The name that a value is, or else a default one. -/
def nameOr (names : List String) (default : String) : Option Value → Value
  | some v => if v.isAmong names then v else text default
  | none => text default

/-- Whether there is no value, or it is none of some names. -/
def unknown (names : List String) (v? : Option Value) : Bool :=
  !v?.any (isAmong names)

/-- The name that stands in for a plain value is plain. -/
theorem plain_nameOr {v? : Option Value} (h : ∀ v ∈ v?, v.Plain) (names : List String)
    (default : String) : ∀ v ∈ some (nameOr names default v?), v.Plain := by
  intro v hv
  obtain rfl := Option.some.inj hv
  unfold nameOr
  split
  next w =>
    split
    · exact h w rfl
    · exact plain_text default
  next => exact plain_text default

end Value

section

variable [Choice α]

/-- The values of an enumeration's members are words: nothing but a text prints as one, and none of
them is blank. -/
def Choice.Wordlike (α : Type) [Choice α] : Prop :=
  ∀ m ∈ (Choice.members : List α),
    Value.isNativeText (Choice.value m) = false ∧ Text.blank (Choice.value m) = false

/-- A text that differs from every member's value in some respect names no member. -/
theorem Choice.ofText?_eq_none {p : String → Bool}
    (hp : ∀ m ∈ (Choice.members : List α), p (Choice.value m) = false) {s : String}
    (h : p s = true) : (Choice.ofText? s : Option α) = none := by
  refine List.find?_eq_none.2 fun m hm heq => ?_
  have hvalue := hp m hm
  rw [eq_of_beq heq, h] at hvalue
  cases hvalue

/-- What a plain value shows names the member that the value names as a text, if it is one. -/
theorem Choice.ofText?_shown (hα : Choice.Wordlike α) {v : Value} (hv : v.Plain) :
    (Choice.ofText? v.shown : Option α) = v.text?.bind Choice.ofText? := by
  have hblank : ∀ {s}, Text.blank s = true → (Choice.ofText? s : Option α) = none :=
    ofText?_eq_none fun m hm => (hα m hm).2
  have hnative : ∀ {s}, Value.isNativeText s = true → (Choice.ofText? s : Option α) = none :=
    ofText?_eq_none fun m hm => (hα m hm).1
  unfold Value.shown
  cases htext : v.text? with
  | none =>
    rw [Option.bind_none]
    split
    · exact hblank rfl
    · exact hnative (Value.isNativeText_toText htext hv.known)
  | some s =>
    obtain rfl : v = .text s := by
      unfold Value.text? at htext
      split at htext <;> cases htext
      rfl
    rw [Option.bind_some]
    split
    next hs =>
      -- Blank text is read as empty text, and neither names anything.
      rw [hblank (s := "") rfl, hblank hs]
    next => rfl

/-- A value is one of the members' values exactly when it names a member. -/
theorem Choice.isAmong_eq {names : List String}
    (hnames : names = (Choice.members : List α).map Choice.value) (v : Value) :
    v.isAmong names = (v.text?.bind (Choice.ofText? : String → Option α)).isSome := by
  unfold Value.isAmong
  cases v.text? with
  | none => rfl
  | some s =>
    rw [Option.any_some, Option.bind_some, Bool.eq_iff_iff, hnames, Choice.ofText?,
      List.find?_isSome]
    simp

/-- The member that a value names as a text, if there is a value and it names one. -/
def Choice.named? (v? : Option Value) : Option α :=
  (v?.bind Value.text?).bind Choice.ofText?

section

variable {names : List String} {default : String} {fallback : α}
  (hnames : names = (Choice.members : List α).map Choice.value)

include hnames

/-- What is unknown names no member. -/
theorem Choice.named?_of_unknown {v? : Option Value} (h : Value.unknown names v? = true) :
    (Choice.named? v? : Option α) = none := by
  cases v? with
  | none => rfl
  | some v =>
    have hnot : v.isAmong names = false := by simpa [Value.unknown] using h
    rwa [isAmong_eq hnames, Option.isSome_eq_false_iff, Option.isNone_iff_eq_none] at hnot

/-- The name that stands in for a value names what the value resolves to. -/
theorem Choice.named?_nameOr (hdefault : Choice.ofText? default = some fallback)
    (v? : Option Value) :
    (Choice.named? (some (Value.nameOr names default v?))).getD fallback =
      (Choice.named? v?).getD fallback := by
  have htext : Choice.named? (some (.text default)) = some fallback := hdefault
  unfold Value.nameOr
  split
  next v =>
    split
    next => rfl
    next hnot =>
      have hunknown : Value.unknown names (some v) = true := by simpa [Value.unknown] using hnot
      rw [htext, named?_of_unknown hnames hunknown]
      rfl
  next => rw [htext]; rfl

end

/-- The record of a choice that is present and no name. -/
def choiceWarning (channel : Channel) (key : String) (names : List String) (member : String) :
    Option Value → List Record
  | some v => if v.isAmong names then [] else [⟨channel, .substituted key v.shown member⟩]
  | none => []

namespace Settings

variable {s : Settings} {key default : String} {fallback : α}

/-- A choice that is absent is read as the default. -/
theorem readChoice_of_absent (h : s.get? key = none) (default : String) :
    s.readChoice key default = .ok default := by
  rw [readChoice, contains, h]
  rfl

/-- A choice that is present is read as what its value shows. -/
theorem readChoice_of_present {v : Value} (h : s.get? key = some v)
    (hv : v.withinDigitLimit = true) (default : String) :
    s.readChoice key default = .ok v.shown := by
  rw [readChoice, contains, h, Option.isSome_some, if_pos rfl, getText, lookup_default,
    Value.shown]
  cases hu : v.unspecified with
  | true =>
    rw [specified?_eq_none_of_get? h hu]
    rfl
  | false =>
    rw [specified?_of_get? h hu]
    exact Value.readText_of_withinDigitLimit hv

/-- The member that a choice resolves to. A setting that cannot be read names none, so that the
fallback stands in for it too. -/
def resolved (s : Settings) (key default : String) (fallback : α) : α :=
  match s.readChoice key default with
  | .ok raw => (Choice.ofText? raw).getD fallback
  | .error _ => fallback

/-- A choice resolves to what the text that is read for it names. -/
theorem resolved_of_readChoice {raw : String} (h : s.readChoice key default = .ok raw)
    (fallback : α) : s.resolved key default fallback = (Choice.ofText? raw).getD fallback := by
  rw [resolved, h]

/-- A choice of a plain value, or of none, resolves to the member that the value names as a text, or
else to the fallback. -/
theorem resolved_of_get? (hα : Choice.Wordlike α)
    (hdefault : Choice.ofText? default = some fallback) {v? : Option Value}
    (h : s.get? key = v?) (hv : ∀ v ∈ v?, v.Plain) :
    s.resolved key default fallback = (Choice.named? v?).getD fallback := by
  cases v? with
  | none =>
    rw [resolved_of_readChoice (readChoice_of_absent h default), hdefault]
    rfl
  | some v =>
    rw [resolved_of_readChoice (readChoice_of_present h (hv v rfl).printable default),
      Choice.ofText?_shown hα (hv v rfl)]
    rfl

/-- A choice of a plain value, or of none, leaves a record exactly when there is a value and it is
no name. -/
theorem substitution_of_get? (hα : Choice.Wordlike α)
    (hdefault : Choice.ofText? default = some fallback) {names : List String}
    (hnames : names = (Choice.members : List α).map Choice.value) {v? : Option Value}
    (h : s.get? key = v?) (hv : ∀ v ∈ v?, v.Plain) (channel : Channel) :
    (match s.readChoice key default with
      | .ok raw => substitution channel key fallback raw
      | .error _ => []) =
      choiceWarning channel key names (Choice.memberName fallback) v? := by
  cases v? with
  | none =>
    simp only [readChoice_of_absent h, substitution, hdefault]
    rfl
  | some v =>
    simp only [readChoice_of_present h (hv v rfl).printable, substitution, choiceWarning,
      Choice.isAmong_eq hnames, ← Choice.ofText?_shown hα (hv v rfl)]
    cases (Choice.ofText? v.shown : Option α) <;> rfl

/-- A choice can be read when its value is plain, or absent. -/
theorem printable_of_plain {v? : Option Value} (h : s.get? key = v?) (hv : ∀ v ∈ v?, v.Plain) :
    s.printable key = true := by
  rw [printable, h]
  cases v? with
  | none => rfl
  | some v => exact (hv v rfl).printable

/-- A choice that can be printed is read. -/
theorem readChoice_of_printable (h : s.printable key = true) (default : String) :
    ∃ raw, s.readChoice key default = .ok raw := by
  rw [← errorOf?_eq_none_iff, errorOf?_readChoice, h, if_pos rfl]

end Settings

end

/-- The compaction family is a choice like others. -/
theorem Settings.resolvedStyle_eq (s : Settings) :
    s.resolvedStyle = s.resolved styleKey Defaults.compactionStyle fallbackStyle := rfl

/-- The codec that the settings resolve to. -/
def Settings.resolvedCompression (s : Settings) : Compression :=
  s.resolved compressionKey Defaults.compression fallbackCompression

/-- What is read of the codec is what the settings resolve to. -/
theorem resolvedCompression_of_outcome {channel : Channel} {s : Settings} {codec : Compression}
    (h : ((reading (s.readChoice compressionKey Defaults.compression) >>= fun raw =>
      resolveCompression channel compressionKey (.text raw) :
        Attempt (CompileError ε) Compression)).outcome = .ok codec) :
    s.resolvedCompression = codec := by
  obtain ⟨raw, hraw, hcodec⟩ := Attempt.outcome_bind_eq_ok_iff.1 h
  rw [resolveCompression_eq] at hcodec
  rw [Settings.resolvedCompression, Settings.resolved_of_readChoice (eq_ok_of_mapError hraw)]
  exact Except.ok.inj hcodec

end StoreTuning
