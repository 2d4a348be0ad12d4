import StoreTuning.Proofs.Compile.Order

/-!
# A bulk load and normal mode

A bulk load goes the way of normal mode to its end, asks there whether the directory holds a store,
and decides by the answer alone (`Job.bulkLoad_refines_normal`).
-/

namespace StoreTuning

variable {ε : Type}

/-- In normal mode the options are configured, and that is all. -/
theorem Job.compile_normal (j : Job ε) :
    ({ j with mode := .normal } : Job ε).compile =
      configure j.channel j.settings j.tasks j.manifestDefault :=
  bind_pure _

/-- A bulk load configures the options and then decides what to open the store with. -/
theorem Job.compile_bulkLoad (j : Job ε) :
    ({ j with mode := .bulkLoad } : Job ε).compile =
      ({ j with mode := .normal } : Job ε).compile >>=
        openFor j.channel .bulkLoad j.directory j.holdsStore := by
  rw [compile_normal]
  rfl

/-- A bulk load refines normal mode. Normal mode asks nothing, so that its result is the same for
every directory and every answer. Where it fails, the bulk load is the same failure, and nothing is
asked. Where it gives options, the bulk load asks about its directory once; over a store it gives
the same options, where there is none it gives the prepared ones, and a failure to answer is passed
on. The journal is that of normal mode, with one more record for an answer and none for a failure to
answer: at the lowest level that the preparation is skipped, or else that the options are prepared.
Both name the directory. -/
theorem Job.bulkLoad_refines_normal (j : Job ε) :
    let normal := ({ j with mode := .normal } : Job ε).compile
    let bulk := ({ j with mode := .bulkLoad } : Job ε).compile
    normal.queries = [] ∧
    (∀ directory holdsStore,
      ({ j with mode := .normal, directory, holdsStore } : Job ε).compile = normal) ∧
    (∀ e, normal.outcome = .error e →
      bulk.outcome = .error e ∧ bulk.queries = [] ∧ bulk.records = normal.records) ∧
    (∀ o, normal.outcome = .ok o → bulk.queries = [j.directory] ∧
      match j.holdsStore j.directory with
      | .ok true => bulk.outcome = .ok o ∧
          bulk.records = normal.records ++ [⟨j.channel, .storePresent j.directory⟩]
      | .ok false => bulk.outcome = .ok o.prepareForBulkLoad ∧
          bulk.records = normal.records ++ [⟨j.channel, .preparing j.directory⟩]
      | .error e => bulk.outcome = .error (.presence e) ∧ bulk.records = normal.records) ∧
    (Event.storePresent j.directory).level = .debug ∧
    (Event.storePresent j.directory).message =
      "Store already present at " ++ j.directory ++ ", skipping bulk-load preparation" ∧
    (Event.preparing j.directory).level = .info ∧
    (Event.preparing j.directory).message =
      "Using prepare_for_bulk_load for restore to " ++ j.directory := by
  intro normal bulk
  have hbulk : bulk = normal >>= openFor j.channel .bulkLoad j.directory j.holdsStore :=
    j.compile_bulkLoad
  have hnormal : normal.queries = [] := by
    rw [show normal = configure j.channel j.settings j.tasks j.manifestDefault from
      j.compile_normal, configure_queries]
  refine ⟨hnormal, fun directory holdsStore => ?_, fun e he => ?_, fun o ho => ?_, rfl, rfl, rfl,
    rfl⟩
  · exact (compile_normal { j with directory, holdsStore }).trans j.compile_normal.symm
  · -- What comes after a failure is not reached.
    generalize normal = x at *
    obtain ⟨rs, qs, _⟩ := x
    obtain rfl : _ = Except.error e := he
    rw [hbulk, Attempt.bind_error]
    exact ⟨rfl, hnormal, rfl⟩
  · -- What comes after a success adds its traces, and the answer decides which.
    generalize normal = x at *
    obtain ⟨rs, qs, _⟩ := x
    obtain rfl : _ = Except.ok o := ho
    obtain rfl : qs = [] := hnormal
    rw [hbulk, Attempt.bind_ok, openFor_bulkLoad]
    rcases j.holdsStore j.directory with e | present
    · exact ⟨rfl, rfl, List.append_nil rs⟩
    · cases present <;> exact ⟨rfl, rfl, rfl⟩

end StoreTuning
