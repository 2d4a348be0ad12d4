import StoreTuning.Proofs.Compile.Checks

/-!
# The order of a compilation

A compilation follows the checks of its job, part by part (`Job.compile_follows`). Up to the options
of normal mode it asks about no directory (`configure_queries`).
-/

namespace StoreTuning

variable {ε α τ : Type} {j : Job ε}

/-- A read that leaves no record follows the check that fails as it does. -/
theorem reading_follows {e : Except LookupError α} {c : Check}
    (hfail : c.failure? j = (errorOf? e).map .lookup) (hrec : c.records j = []) :
    (reading e : Attempt (CompileError ε) α).Follows j [c] := by
  refine .of_silent ?_ rfl (by simpa using hrec)
  rw [List.findSome?_singleton, hfail]
  exact errorOf?_mapError _ _

/-- A budget is read before it is shared. -/
theorem sharing_shareOf (s : Settings) (key : String) (default tasks : Int) :
    (sharing (shareOf s key default tasks) : Attempt (CompileError ε) Int) =
      reading (s.getInteger key .long (some (.int default))) >>= fun total =>
        Attempt.ofExcept ((share total tasks).mapError CompileError.budget) := by
  unfold sharing shareOf
  cases s.getInteger key .long (some (.int default)) with
  | error e => rfl
  | ok total =>
    show Attempt.ofExcept
        (((share total tasks).mapError ShareError.budget).mapError CompileError.ofShare) =
      Attempt.ofExcept ((share total tasks).mapError CompileError.budget)
    cases share total tasks <;> rfl

/-- The task count is looked at before the sign of the budget. -/
theorem errorOf?_share (total tasks : Int) :
    errorOf? (share total tasks) =
      if tasks < 1 then some (.taskCount tasks)
      else if total < 0 then some (.negative total) else none := by
  unfold share
  split
  · rfl
  · split <;> rfl

/-- Sharing a budget reads it and then asks for a task and for a budget that is not negative. -/
theorem sharing_follows (key : String) (default : Int) :
    (sharing (shareOf j.settings key default j.tasks) : Attempt (CompileError ε) Int).Follows j
      [.integer key .long (.int default), .tasks, .budget key (.int default)] := by
  rw [sharing_shareOf]
  -- Nothing is written, so that only the order of the failures matters.
  refine .bind (reading_follows rfl rfl) (m := [.tasks, .budget key (.int default)])
    fun total htotal => .of_silent ?_ rfl (by simp [Check.records])
  have hget := eq_ok_of_mapError htotal
  show errorOf? ((share total j.tasks).mapError CompileError.budget) = _
  rw [errorOf?_mapError, errorOf?_share]
  simp only [List.findSome?, Check.failure?, hget]
  split
  · rfl
  · split <;> rfl

/-- Sharing a second budget need not ask for a task again. -/
theorem sharing_follows_of_tasks (key : String) (default : Int) (htasks : 1 ≤ j.tasks) :
    (sharing (shareOf j.settings key default j.tasks) : Attempt (CompileError ε) Int).Follows j
      [.integer key .long (.int default), .budget key (.int default)] := by
  refine (sharing_follows key default).drop_check (l := [.integer key .long (.int default)])
    (c := .tasks) ?_ rfl
  rw [Check.failure?, if_neg (by omega)]

/-- A row that is skipped, read or refused is its check. -/
theorem applyRow_follows (recordName : String) (name : α → String) (set : τ → α → Int → τ)
    (r : OptionRow α Width) (target : τ) :
    ((OptionTable.applyRow recordName name set j.settings r target).mapError .lookup :
      Attempt (CompileError ε) τ).Follows j [.ofRow recordName name r] := by
  unfold OptionTable.applyRow Check.ofRow
  by_cases hg : (r.gated && !j.settings.contains r.key) = true
  · rw [r.read?_eq, if_pos hg]
    apply Attempt.Follows.of_check
    · simp only [Check.failure?, if_pos hg]
      rfl
    · simp only [Check.records, if_pos hg, ite_self]
      rfl
  · rw [r.read?_eq, if_neg hg]
    cases hn : j.settings.getInteger r.key r.kind r.fallback? with
    | error e =>
      apply Attempt.Follows.of_check
      · simp only [Check.failure?, if_neg hg, hn]
        rfl
      · simp only [Check.records, if_neg hg, hn, ite_self]
        rfl
    | ok n =>
      apply Attempt.Follows.of_check
      · simp only [Check.failure?, if_neg hg, hn]
        rfl
      · simp only [Check.records, Check.passes, Check.failure?, if_neg hg, hn]
        rfl

/-- A table follows the checks of its rows. -/
theorem apply_follows (recordName : String) (name : α → String) (set : τ → α → Int → τ)
    (table : List (OptionRow α Width)) (target : τ) :
    ((OptionTable.apply recordName name set j.settings table target).mapError .lookup :
      Attempt (CompileError ε) τ).Follows j (table.map (.ofRow recordName name)) := by
  induction table generalizing target with
  | nil => exact .pure target
  | cons r rs ih =>
    rw [OptionTable.apply_cons, Attempt.mapError_bind]
    exact (applyRow_follows recordName name set r target).bind fun t _ => ih t

/-- A choice is read as text, and then resolved without a failure. -/
theorem choice_follows {c : Check} {key default : String}
    {resolve : String → Attempt (CompileError ε) α} {rs : String → List Record} {m : String → α}
    (hresolve : ∀ raw, resolve raw = ⟨rs raw, [], .ok (m raw)⟩)
    (hfail : c.failure? j = if j.settings.printable key then none else some (.lookup .unprintable))
    (hrec : c.records j = match j.settings.readChoice key default with
      | .ok raw => rs raw
      | .error _ => []) :
    (reading (j.settings.readChoice key default) >>= resolve).Follows j [c] := by
  have herror := Settings.errorOf?_readChoice j.settings key default
  cases hread : j.settings.readChoice key default with
  | error e =>
    rw [hread] at herror hrec
    have hp : j.settings.printable key = false := by
      cases hp : j.settings.printable key with
      | true => simp [hp] at herror
      | false => rfl
    have he : e = .unprintable := by simpa [hp] using herror
    subst he
    apply Attempt.Follows.of_check
    · rw [hfail, hp]
      rfl
    · rw [hrec, ite_self]
      rfl
  | ok raw =>
    rw [hread] at herror hrec
    have hp : j.settings.printable key = true := by
      cases hp : j.settings.printable key with
      | true => rfl
      | false => simp [hp] at herror
    apply Attempt.Follows.of_check
    · rw [hfail, hp, if_pos rfl]
      show errorOf? (resolve raw).outcome = none
      rw [hresolve]
      rfl
    · rw [hrec, Check.passes, hfail, hp]
      show [] ++ (resolve raw).records = _
      rw [hresolve]
      rfl

/-- Universal compaction follows the rows of its table and then the stop style. -/
theorem resolveUniversal_follows :
    ((resolveUniversal j.settings).mapError .lookup :
      Attempt (CompileError ε) UniversalCompaction).Follows j
      (universalTable.map (.ofRow "UniversalCompactionOptions" UniversalNumber.name) ++
        [.stopStyle]) := by
  unfold resolveUniversal
  rw [Attempt.mapError_bind]
  refine (apply_follows _ _ _ _ _).bind fun u _ => ?_
  rw [Attempt.mapError_bind]
  exact (reading_follows (c := .stopStyle) rfl rfl).bind (m := []) fun _ _ => .pure _

/-- Compaction follows its checks. -/
theorem resolveCompaction_follows :
    ((resolveCompaction j.channel j.settings).mapError .lookup :
      Attempt (CompileError ε) Compaction).Follows j j.settings.compactionChecks := by
  unfold resolveCompaction Settings.compactionChecks
  rw [Attempt.mapError_bind]
  refine (apply_follows _ _ _ _ _).bind fun c _ => ?_
  -- Reading the family and resolving it are one check.
  rw [← bind_assoc, Attempt.mapError_bind]
  refine .bind_cons ?_ fun style hstyle => ?_
  · rw [Attempt.mapError_bind]
    refine choice_follows (m := fun raw => (Choice.ofText? raw).getD fallbackStyle)
      (fun raw => ?_) rfl rfl
    rw [resolveStyle_eq]
    rfl
  · -- Which checks come next depends on the family that was just resolved.
    rw [resolvedStyle_of_outcome (Attempt.outcome_mapError_eq_ok_iff.1 hstyle)]
    by_cases h : style = .universal
    · rw [if_pos h, if_pos h, Attempt.mapError_bind, ← List.append_nil (_ ++ _)]
      exact resolveUniversal_follows.bind fun _ _ => .pure _
    · rw [if_neg h, if_neg h]
      exact .pure _

/-- Compaction is resolved without a question. -/
theorem resolveCompaction_queries (channel : Channel) (s : Settings) :
    (resolveCompaction channel s).queries = [] := by
  unfold resolveCompaction resolveUniversal
  refine Attempt.queries_bind_eq_nil rfl fun c => ?_
  refine Attempt.queries_bind_eq_nil rfl fun raw => ?_
  refine Attempt.queries_bind_eq_nil ?_ fun style => ?_
  · rw [resolveStyle_eq]
  · split
    · refine Attempt.queries_bind_eq_nil ?_ fun _ => rfl
      exact Attempt.queries_bind_eq_nil rfl fun u => Attempt.queries_bind_eq_nil rfl fun _ => rfl
    · rfl

/-- The decision about a bulk load follows the check for a store, if there is one to make. -/
theorem openFor_follows (o : EngineOptions) :
    (openFor j.channel j.mode j.directory j.holdsStore o).Follows j
      (if j.mode = .bulkLoad then [.presence] else []) := by
  cases hm : j.mode with
  | normal => exact .pure o
  | bulkLoad =>
    rw [if_pos rfl, openFor_bulkLoad]
    rcases h : j.holdsStore j.directory with e | present
    · exact .of_check (by simp [Check.failure?, h]) (by simp [Check.records, h])
    · cases present
      · exact .of_check (by simp [Check.failure?, h])
          (by simp [Check.records, Check.passes, Check.failure?, h])
      · exact .of_check (by simp [Check.failure?, h])
          (by simp [Check.records, Check.passes, Check.failure?, h])

/-- A budget that is shared has a task to go to. -/
theorem tasks_of_sharing {key : String} {default n : Int}
    (h : (sharing (shareOf j.settings key default j.tasks) : Attempt (CompileError ε) Int).outcome =
      .ok n) : 1 ≤ j.tasks := by
  have htasks := (sharing_follows key default).failure?_eq_none h .tasks (by simp)
  rw [Check.failure?] at htasks
  by_contra hlt
  rw [if_pos (by omega)] at htasks
  cases htasks

/-- The options of normal mode follow their checks. -/
theorem configure_follows :
    (configure j.channel j.settings j.tasks j.manifestDefault :
      Attempt (CompileError ε) EngineOptions).Follows j j.optionChecks := by
  unfold configure Job.optionChecks
  refine .bind_cons (reading_follows rfl rfl) fun wal _ => ?_
  refine (sharing_follows _ _).bind fun writeBuffer hwrite => ?_
  -- Reading the codec and resolving it are one check.
  rw [← bind_assoc]
  refine .bind_cons ?_ fun compression _ => ?_
  · exact choice_follows (fun raw => resolveCompression_eq _ _ raw) rfl rfl
  -- The first budget is shared by now, so that there is a task.
  refine (sharing_follows_of_tasks _ _ (tasks_of_sharing hwrite)).bind fun cache _ => ?_
  refine .bind_cons (reading_follows rfl rfl) fun blockSize _ => ?_
  refine resolveCompaction_follows.bind fun compaction _ => ?_
  refine (apply_follows _ _ _ _ _).bind fun o _ => ?_
  refine .bind_cons (reading_follows rfl rfl) fun manifest _ => ?_
  exact .pure _

/-- A compilation follows the checks of its job. -/
theorem Job.compile_follows (j : Job ε) : j.compile.Follows j j.checks :=
  configure_follows.bind fun o _ => openFor_follows o

/-- The options of normal mode are configured without a question. -/
theorem configure_queries (channel : Channel) (s : Settings) (tasks : Int)
    (manifestDefault : Value) :
    (configure channel s tasks manifestDefault : Attempt (CompileError ε) EngineOptions).queries =
      [] := by
  unfold configure
  refine Attempt.queries_bind_eq_nil rfl fun wal => ?_
  refine Attempt.queries_bind_eq_nil rfl fun writeBuffer => ?_
  refine Attempt.queries_bind_eq_nil rfl fun codec => ?_
  refine Attempt.queries_bind_eq_nil ?_ fun compression => ?_
  · rw [resolveCompression_eq]
  refine Attempt.queries_bind_eq_nil rfl fun cache => ?_
  refine Attempt.queries_bind_eq_nil rfl fun blockSize => ?_
  refine Attempt.queries_bind_eq_nil (resolveCompaction_queries channel s) fun compaction => ?_
  refine Attempt.queries_bind_eq_nil rfl fun o => ?_
  exact Attempt.queries_bind_eq_nil rfl fun manifest => rfl

end StoreTuning
