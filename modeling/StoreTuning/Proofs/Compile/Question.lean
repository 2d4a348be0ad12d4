import StoreTuning.Proofs.Compile.Order

/-!
# The question about the store

All that a compilation does with the question whether a store is present is to pass its answer on.
The options are configured before it is asked, in the same way whatever errors it may have
(`configure_mapError`), so that a compilation is what was configured, and for a bulk load the
question after it (`compile_eq`). Another question with the same answer leads to the same
(`compile_mapError_of`), and one without an answer to its error, where it is asked
(`outcome_of_asked`).
-/

namespace StoreTuning

variable {ε ε' α : Type}

/-- The same reason, with another name for an error of the question. -/
def CompileError.map (f : ε → ε') : CompileError ε → CompileError ε'
  | lookup e => lookup e
  | budget e => budget e
  | presence e => presence (f e)

section

variable (f : ε → ε')

theorem mapError_reading (x : Except LookupError α) :
    (reading x : Attempt (CompileError ε) α).mapError (CompileError.map f) = reading x := by
  cases x <;> rfl

theorem mapError_sharing (x : Except ShareError α) :
    (sharing x : Attempt (CompileError ε) α).mapError (CompileError.map f) = sharing x := by
  rcases x with (e | e) | a <;> rfl

theorem mapError_lookup (x : Attempt LookupError α) :
    (x.mapError CompileError.lookup).mapError (CompileError.map f) =
      x.mapError CompileError.lookup := by
  obtain ⟨rs, qs, o⟩ := x
  cases o <;> rfl

/-- The options are configured in the same way whatever errors the question may have. -/
theorem configure_mapError (channel : Channel) (s : Settings) (tasks : Int)
    (manifestDefault : Value) :
    (configure channel s tasks manifestDefault :
      Attempt (CompileError ε) EngineOptions).mapError (CompileError.map f) =
      configure channel s tasks manifestDefault := by
  -- A codec is resolved with a record at most, whatever the errors are.
  have hcompression (raw : String) :
      (resolveCompression channel compressionKey (.text raw) :
        Attempt (CompileError ε) Compression).mapError (CompileError.map f) =
        resolveCompression channel compressionKey (.text raw) := by
    rw [resolveCompression_eq, resolveCompression_eq]
    rfl
  have hpure (o : EngineOptions) :
      (pure o : Attempt (CompileError ε) EngineOptions).mapError (CompileError.map f) = pure o :=
    rfl
  simp only [configure, Attempt.mapError_bind, mapError_reading, mapError_sharing, mapError_lookup,
    hcompression, hpure]

end

/-- What configures options without a question in it. -/
def configured (channel : Channel) (s : Settings) (tasks : Int) (manifestDefault : Value) :
    Attempt (CompileError Empty) EngineOptions :=
  configure channel s tasks manifestDefault

/-- A compilation in normal mode, or where nothing could be configured, is what was configured. -/
theorem compile_eq (channel : Channel) (s : Settings) (tasks : Int) (manifestDefault : Value)
    (directory : String) (mode : OpenMode) (holdsStore : String → Except ε Bool) :
    let c := configured channel s tasks manifestDefault
    compile channel s tasks manifestDefault directory mode holdsStore =
      match c.outcome, mode with
      | .error e, _ => ⟨c.records, [], .error (e.map Empty.elim)⟩
      | .ok o, .normal => ⟨c.records, [], .ok o⟩
      | .ok o, .bulkLoad =>
        let q : Attempt (CompileError ε) EngineOptions :=
          openFor channel .bulkLoad directory holdsStore o
        ⟨c.records ++ q.records, q.queries, q.outcome⟩ := by
  intro c
  have hqueries : c.queries = [] := configure_queries channel s tasks manifestDefault
  have hconfigure : (configure channel s tasks manifestDefault :
      Attempt (CompileError ε) EngineOptions) = c.mapError (CompileError.map Empty.elim) :=
    (configure_mapError Empty.elim channel s tasks manifestDefault).symm
  rw [compile, hconfigure]
  obtain ⟨rs, qs, e | o⟩ := c
  · obtain rfl : qs = [] := hqueries
    rfl
  · obtain rfl : qs = [] := hqueries
    cases mode with
    | normal =>
      show (⟨rs, [], .ok o⟩ : Attempt (CompileError ε) EngineOptions) >>= _ = _
      rw [Attempt.bind_ok, openFor_normal]
      exact congrArg (fun rs => (⟨rs, [], .ok o⟩ : Attempt (CompileError ε) EngineOptions))
        (List.append_nil rs)
    | bulkLoad => rfl

section

variable {channel : Channel} {s : Settings} {tasks : Int} {manifestDefault : Value}
  {directory : String} {mode : OpenMode} {holdsStore : String → Except ε Bool}
  {holdsStore' : String → Except ε' Bool}

/-- A bulk load asks once. -/
theorem queries_openFor_bulkLoad (o : EngineOptions) :
    (openFor channel .bulkLoad directory holdsStore o).queries = [directory] := by
  rw [openFor_bulkLoad]
  rcases holdsStore directory with e | _ | _ <;> rfl

/-- A compilation is the same, with other names for errors, when it asks nothing or the question has
the same answer. -/
theorem compile_mapError_of {f : ε → ε'}
    (h : (compile channel s tasks manifestDefault directory mode holdsStore).queries = [] ∨
      holdsStore' directory = (holdsStore directory).mapError f) :
    compile channel s tasks manifestDefault directory mode holdsStore' =
      (compile channel s tasks manifestDefault directory mode holdsStore).mapError
        (CompileError.map f) := by
  rw [compile_eq] at h ⊢
  rw [compile_eq]
  generalize configured channel s tasks manifestDefault = c at *
  obtain ⟨rs, qs, (e | e | e) | o⟩ := c
  · rfl
  · rfl
  · exact e.elim
  · cases mode with
    | normal => rfl
    | bulkLoad =>
      -- The options are configured, so that the directory is asked about.
      rcases h with hnone | hsame
      · have hasked : [directory] = [] := (queries_openFor_bulkLoad o).symm.trans hnone
        cases hasked
      · simp only [openFor_bulkLoad, hsame]
        rcases holdsStore directory with e | _ | _ <;> rfl

/-- Where a compilation asks, a question without an answer is what goes wrong. -/
theorem outcome_of_asked {e : ε'}
    (hasked : (compile channel s tasks manifestDefault directory mode holdsStore).queries ≠ [])
    (he : holdsStore' directory = .error e) :
    (compile channel s tasks manifestDefault directory mode holdsStore').outcome =
      .error (.presence e) := by
  rw [compile_eq] at hasked ⊢
  generalize configured channel s tasks manifestDefault = c at *
  obtain ⟨rs, qs, e | o⟩ := c
  · exact absurd rfl hasked
  · cases mode with
    | normal => exact absurd rfl hasked
    | bulkLoad => simp only [openFor_bulkLoad, he]

end

end StoreTuning
