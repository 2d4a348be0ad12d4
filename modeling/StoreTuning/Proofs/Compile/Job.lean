import StoreTuning.Compile.Options
import StoreTuning.Proofs.Settings.Lookup

/-!
# A compilation and its parts

All that a compilation depends on as one record (`Job`), and what its parts do: a table is applied
row by row (`OptionTable.apply_cons`), and a choice is resolved to the member that is named or to
the fallback, with a record for the latter (`resolveCompression_eq`, `resolveStyle_eq`). A choice
cannot be read only when it holds an integer that is too long to print (`errorOf?_readChoice`).
-/

namespace StoreTuning

variable {ε ε' α β κ τ : Type}

/-- What a compilation is given. -/
structure Job (ε : Type) where
  /-- Where its records go. -/
  channel : Channel
  /-- The settings to compile. -/
  settings : Settings
  /-- The tasks that share the budgets. -/
  tasks : Int
  /-- The manifest limit where the settings have none. -/
  manifestDefault : Value
  /-- The directory that the store is opened from. -/
  directory : String
  /-- What the store is opened for. -/
  mode : OpenMode
  /-- Whether a directory holds a store. -/
  holdsStore : String → Except ε Bool

/-- A job of which only the settings are of interest. -/
def plainJob (s : Settings) : Job Empty where
  channel := .compiler
  settings := s
  tasks := 1
  manifestDefault := .int Defaults.maxManifestFileSize
  directory := "s"
  mode := .normal
  holdsStore := fun _ => .ok false

/-- The attempt to compile a job. -/
def Job.compile (j : Job ε) : Attempt (CompileError ε) EngineOptions :=
  StoreTuning.compile j.channel j.settings j.tasks j.manifestDefault j.directory j.mode j.holdsStore

namespace Attempt

/-- Renaming what went wrong in a computation of two parts renames it in each. -/
theorem mapError_bind (f : ε → ε') (x : Attempt ε α) (g : α → Attempt ε β) :
    (x >>= g).mapError f = x.mapError f >>= fun a => (g a).mapError f := by
  obtain ⟨rs, qs, o⟩ := x
  cases o <;> rfl

/-- Renaming what went wrong leaves the results. -/
theorem outcome_mapError_eq_ok_iff {f : ε → ε'} {x : Attempt ε α} {a : α} :
    (x.mapError f).outcome = .ok a ↔ x.outcome = .ok a := by
  obtain ⟨rs, qs, o⟩ := x
  cases o with
  | error e => constructor <;> intro h <;> cases h
  | ok b =>
    constructor
    · intro h
      cases h
      rfl
    · intro h
      cases h
      rfl

/-- What comes after a computation matters for its result only. -/
theorem bind_congr_of_outcome {x : Attempt ε α} {f g : α → Attempt ε β}
    (h : ∀ a, x.outcome = .ok a → f a = g a) : x >>= f = x >>= g := by
  obtain ⟨rs, qs, o⟩ := x
  cases o with
  | error e => rfl
  | ok a => rw [bind_ok, bind_ok, h a rfl]

/-- Two computations that ask nothing ask nothing one after the other. -/
theorem queries_bind_eq_nil {x : Attempt ε α} {f : α → Attempt ε β} (hx : x.queries = [])
    (hf : ∀ a, (f a).queries = []) : (x >>= f).queries = [] := by
  obtain ⟨rs, qs, o⟩ := x
  cases o with
  | error e => exact hx
  | ok a =>
    have hqs : qs = [] := hx
    rw [bind_ok, hqs, hf a, List.append_nil]

end Attempt

/-- A row of integers is skipped, or else reads the integer under its key. -/
theorem OptionRow.read?_eq (r : OptionRow α Width) (s : Settings) :
    r.read? s =
      if r.gated && !s.contains r.key then none
      else some (s.getInteger r.key r.kind r.fallback?) := rfl

namespace OptionTable

variable [Reader κ β]

/-- One row applied to a target. -/
def applyRow (recordName : String) (name : α → String) (set : τ → α → β → τ) (s : Settings)
    (r : OptionRow α κ) (target : τ) : Attempt LookupError τ :=
  match r.read? s with
  | none => pure target
  | some (.error e) => Attempt.ofExcept (.error e)
  | some (.ok v) =>
    ⟨[assignmentRecord (κ := κ) recordName name ⟨r.key, r.field, v⟩], [],
      .ok (set target r.field v)⟩

/-- A table is applied row by row. -/
theorem apply_cons (recordName : String) (name : α → String) (set : τ → α → β → τ) (s : Settings)
    (r : OptionRow α κ) (rs : List (OptionRow α κ)) (target : τ) :
    apply recordName name set s (r :: rs) target =
      applyRow recordName name set s r target >>= apply recordName name set s rs := by
  cases h : r.read? s with
  | none =>
    simp only [apply, applyRow, assignments, h, Attempt.pure_eq, Attempt.bind_ok, List.nil_append]
  | some o =>
    cases o with
    | error e =>
      simp only [apply, applyRow, assignments, h]
      rfl
    | ok v =>
      simp only [apply, applyRow, assignments, h]
      rfl

end OptionTable

namespace Settings

/-- A choice that is text and not blank is read as it is. -/
theorem readChoice_of_get? {s : Settings} {key raw : String} (h : s.get? key = some (.text raw))
    (hraw : Text.blank raw = false) (default : String) : s.readChoice key default = .ok raw := by
  rw [readChoice, contains, h, Option.isSome_some, if_pos rfl, getText_of_get? h hraw]

/-- Whether every integer in the value under a key can be printed. -/
def printable (s : Settings) (key : String) : Bool :=
  (s.get? key).all Value.withinDigitLimit

/-- The compaction family that the settings resolve to. A setting that cannot be read names none, so
that the fallback stands in for it too. -/
def resolvedStyle (s : Settings) : CompactionStyle :=
  match s.readChoice styleKey Defaults.compactionStyle with
  | .ok raw => (Choice.ofText? raw).getD fallbackStyle
  | .error _ => fallbackStyle

/-- The text of a choice cannot be had exactly when the value under its key cannot be printed. -/
theorem errorOf?_readChoice (s : Settings) (key default : String) :
    errorOf? (s.readChoice key default) = if s.printable key then none else some .unprintable := by
  unfold readChoice contains printable getText
  rw [lookup_default]
  cases h : s.get? key with
  | none => rfl
  | some v =>
    cases hv : v.unspecified with
    | true =>
      -- The value is left out, so that its digits do not matter: it has none.
      rw [specified?_eq_none_of_get? h hv]
      simp only [Option.all_some, Value.withinDigitLimit_of_unspecified hv]
      rfl
    | false =>
      rw [specified?_of_get? h hv]
      exact Value.errorOf?_readText v

end Settings

variable [Choice α]

/-- The record of a choice that names no member, for which a fallback stands in. -/
def substitution (channel : Channel) (key : String) (fallback : α) (raw : String) : List Record :=
  match (Choice.ofText? raw : Option α) with
  | some _ => []
  | none => [⟨channel, .substituted key raw (Choice.memberName fallback)⟩]

/-- A text is resolved to the member that it names, or else to the fallback with a record. -/
theorem chooseOr_ofText? (channel : Channel) (key raw : String) (fallback : α) :
    (chooseOr channel key (.text raw) (Choice.ofText? raw) fallback : Attempt ε α) =
      ⟨substitution channel key fallback raw, [], .ok ((Choice.ofText? raw).getD fallback)⟩ := by
  unfold substitution
  cases (Choice.ofText? raw : Option α) <;> rfl

/-- Where the names of a table are the values of the members, a text is resolved to the member with
that value, or else to the fallback with a record. -/
theorem NameTable.resolve_eq {t : NameTable α} (h : ∀ s, t.names.lookup s = Choice.ofText? s)
    (channel : Channel) (key raw : String) :
    (t.resolve channel key (.text raw) : Attempt ε α) =
      ⟨substitution channel key t.fallback raw, [],
        .ok ((Choice.ofText? raw).getD t.fallback)⟩ := by
  have hselected : (Value.text raw).text?.bind (t.names.lookup ·) = Choice.ofText? raw := h raw
  rw [resolve, hselected, chooseOr_ofText?]

/-- The codec that a text is resolved to. -/
theorem resolveCompression_eq (channel : Channel) (key raw : String) :
    (resolveCompression channel key (.text raw) : Attempt ε Compression) =
      ⟨substitution channel key fallbackCompression raw, [],
        .ok ((Choice.ofText? raw).getD fallbackCompression)⟩ :=
  NameTable.resolve_eq lookup_compressionCodecs channel key raw

/-- The compaction family that a text is resolved to. -/
theorem resolveStyle_eq (channel : Channel) (key raw : String) :
    (resolveStyle channel key (.text raw) : Attempt ε CompactionStyle) =
      ⟨substitution channel key fallbackStyle raw, [],
        .ok ((Choice.ofText? raw).getD fallbackStyle)⟩ :=
  NameTable.resolve_eq lookup_compactionStyles channel key raw

/-- What is read of the compaction family is what the settings resolve to. -/
theorem resolvedStyle_of_outcome {channel : Channel} {s : Settings} {style : CompactionStyle}
    (h : (Attempt.ofExcept (s.readChoice styleKey Defaults.compactionStyle) >>= fun raw =>
      resolveStyle channel styleKey (.text raw)).outcome = .ok style) :
    s.resolvedStyle = style := by
  obtain ⟨raw, hraw, hstyle⟩ := Attempt.outcome_bind_eq_ok_iff.1 h
  have hread : s.readChoice styleKey Defaults.compactionStyle = .ok raw := hraw
  rw [resolveStyle_eq] at hstyle
  rw [Settings.resolvedStyle, hread]
  exact Except.ok.inj hstyle

/-- In normal mode the options stay as they are, and nothing is asked. -/
theorem openFor_normal (channel : Channel) (directory : String)
    (holdsStore : String → Except ε Bool) (o : EngineOptions) :
    openFor channel .normal directory holdsStore o = pure o := rfl

/-- For a bulk load the directory is asked about once, and the answer decides: options stay as they
are over a store and take the profile where there is none. -/
theorem openFor_bulkLoad (channel : Channel) (directory : String)
    (holdsStore : String → Except ε Bool) (o : EngineOptions) :
    openFor channel .bulkLoad directory holdsStore o =
      match holdsStore directory with
      | .error e => ⟨[], [directory], .error (.presence e)⟩
      | .ok true => ⟨[⟨channel, .storePresent directory⟩], [directory], .ok o⟩
      | .ok false =>
        ⟨[⟨channel, .preparing directory⟩], [directory], .ok o.prepareForBulkLoad⟩ := by
  unfold openFor shouldPrepare Attempt.ask
  rcases holdsStore directory with e | present
  · rfl
  · cases present <;> rfl

/-- What compiles are the options of normal mode, prepared for a bulk load or not. -/
theorem Job.exists_configure (j : Job ε) {o : EngineOptions} (h : j.compile.outcome = .ok o) :
    ∃ p, (configure j.channel j.settings j.tasks j.manifestDefault :
      Attempt (CompileError ε) EngineOptions).outcome = .ok p ∧
        (o = p ∨ o = p.prepareForBulkLoad) := by
  obtain ⟨p, hp, hopen⟩ := Attempt.outcome_bind_eq_ok_iff.1 h
  refine ⟨p, hp, ?_⟩
  cases hmode : j.mode with
  | normal =>
    rw [hmode, openFor_normal] at hopen
    cases hopen
    exact .inl rfl
  | bulkLoad =>
    rw [hmode, openFor_bulkLoad] at hopen
    rcases hstore : j.holdsStore j.directory with e | present <;> rw [hstore] at hopen
    · cases hopen
    · cases present <;> cases hopen
      · exact .inr rfl
      · exact .inl rfl

end StoreTuning
