import StoreTuning.Compile.Journal

/-!
# Attempts

A computation that may fail, together with the traces it leaves: the records it wrote and the
directories it asked about. A failure keeps the traces made up to it, and what comes after a failure
leaves none (`Attempt.bind_error`).
-/

namespace StoreTuning

/-- The traces and the outcome of a computation. -/
structure Attempt (ε α : Type) where
  /-- The records written, in order. -/
  records : List Record
  /-- The directories asked about, in order. -/
  queries : List String
  /-- The result, or what went wrong. -/
  outcome : Except ε α

namespace Attempt

variable {ε ε' α β : Type}

/-- An outcome without traces. -/
def ofExcept (e : Except ε α) : Attempt ε α :=
  ⟨[], [], e⟩

/-- One computation after another, which is reached only if the first succeeds. -/
def andThen (x : Attempt ε α) (f : α → Attempt ε β) : Attempt ε β :=
  match x.outcome with
  | .error e => ⟨x.records, x.queries, .error e⟩
  | .ok a => ⟨x.records ++ (f a).records, x.queries ++ (f a).queries, (f a).outcome⟩

instance : Monad (Attempt ε) where
  pure a := ofExcept (.ok a)
  bind := andThen

/-- Writes a record. -/
def log (channel : Channel) (event : Event) : Attempt ε Unit :=
  ⟨[⟨channel, event⟩], [], .ok ()⟩

/-- Asks about a directory. -/
def ask (directory : String) (answer : String → Except ε α) : Attempt ε α :=
  ⟨[], [directory], answer directory⟩

/-- The same computation with another name for what went wrong. -/
def mapError (f : ε → ε') (x : Attempt ε α) : Attempt ε' α :=
  ⟨x.records, x.queries, x.outcome.mapError f⟩

@[simp]
theorem pure_eq (a : α) : (pure a : Attempt ε α) = ⟨[], [], .ok a⟩ := rfl

/-- What comes after a success adds its traces and decides the outcome. -/
@[simp]
theorem bind_ok (rs : List Record) (qs : List String) (a : α) (f : α → Attempt ε β) :
    ((⟨rs, qs, .ok a⟩ : Attempt ε α) >>= f) =
      ⟨rs ++ (f a).records, qs ++ (f a).queries, (f a).outcome⟩ := rfl

/-- What comes after a failure is not reached. -/
@[simp]
theorem bind_error (rs : List Record) (qs : List String) (e : ε) (f : α → Attempt ε β) :
    ((⟨rs, qs, .error e⟩ : Attempt ε α) >>= f) = ⟨rs, qs, .error e⟩ := rfl

/-- A computation in two parts succeeds exactly when both parts do. -/
theorem outcome_bind_eq_ok_iff {x : Attempt ε α} {f : α → Attempt ε β} {b : β} :
    (x >>= f).outcome = .ok b ↔ ∃ a, x.outcome = .ok a ∧ (f a).outcome = .ok b := by
  obtain ⟨rs, qs, o⟩ := x
  cases o <;> simp

end Attempt

instance {ε : Type} : LawfulMonad (Attempt ε) := by
  refine LawfulMonad.mk' (Attempt ε) ?_ ?_ ?_
  · rintro α ⟨rs, qs, o⟩
    cases o <;> simp [Functor.map, Attempt.andThen, Attempt.ofExcept]
  · intro α β a f
    simp
  · rintro α β γ ⟨rs, qs, o⟩ f g
    cases o with
    | error e => rfl
    | ok a =>
      rcases hf : f a with ⟨rs', qs', o'⟩
      cases o' <;> simp [hf]

end StoreTuning
