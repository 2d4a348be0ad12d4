import StoreTuning.Proofs.Compile.Isolation
import StoreTuning.Proofs.Compile.ReadFrom
import StoreTuning.Proofs.Settings.Overlay

/-!
# The budgets of a store

The budgets are keys of the container, and a store can have one of its own. Since the view of a
store lays the store's keys over the container's, a compilation of the view shares the store's own
budget if there is one, and else that of the container (`Job.compile_storeView`).
-/

namespace StoreTuning

open Settings (startsWith containerStem storeStem Layered)

variable {ε : Type}

/-- A budget that is shared among tasks. -/
inductive Budget where
  | writeBuffers
  | blockCache
  deriving DecidableEq, Repr

namespace Budget

/-- The key of the budget. -/
def key : Budget → String
  | writeBuffers => writeBufferKey
  | blockCache => cacheKey

/-- The budget where none is given. -/
def fallback : Budget → Int
  | writeBuffers => Defaults.containerWriteBufferSize
  | blockCache => Defaults.containerCacheSize

/-- One task's share of the budget, as options hold it. -/
def share? : Budget → EngineOptions → Option Int
  | writeBuffers, o => o.writeBufferSize
  | blockCache, o => o.tableFormat.bind (·.blockCacheSize)

/-- The key that a store has its budget from: the store's own, if it is there. -/
def source (b : Budget) (s : Settings) (name : String) : String :=
  if s.contains ("stores." ++ name ++ "." ++ b.key) then "stores." ++ name ++ "." ++ b.key
  else b.key

/-- The profile for bulk loads leaves the shares. -/
theorem share?_prepareForBulkLoad (b : Budget) (o : EngineOptions) :
    b.share? o.prepareForBulkLoad = b.share? o := by
  cases b <;> rfl

/-- The key of a budget is the container's. -/
theorem startsWith_key (b : Budget) : startsWith containerStem b.key = true := by
  cases b <;> decide

end Budget

/-- Options that compile hold one task's share of each budget that the settings give. -/
theorem Job.share?_of_compile (j : Job ε) {o : EngineOptions} (h : j.compile.outcome = .ok o)
    (b : Budget) :
    ∃ total, j.settings.getInteger b.key .long (some (.int b.fallback)) = .ok total ∧
      0 ≤ total ∧ 1 ≤ j.tasks ∧ b.share? o = some (total / j.tasks) := by
  obtain ⟨p, hp, hprepared⟩ := j.exists_configure h
  have hshare : b.share? o = b.share? p := by
    obtain rfl | rfl := hprepared
    · rfl
    · exact b.share?_prepareForBulkLoad p
  have hread := configure_readFrom hp
  rw [hshare]
  cases b with
  | writeBuffers =>
    obtain ⟨n, hn, hfield⟩ := hread.writeBuffer
    obtain ⟨total, htotal, hnonneg, htasks, rfl⟩ := exists_budget_of_shareOf hn
    exact ⟨total, htotal, hnonneg, htasks, hfield⟩
  | blockCache =>
    obtain ⟨n, block, hn, -, hfield⟩ := hread.format
    obtain ⟨total, htotal, hnonneg, htasks, rfl⟩ := exists_budget_of_shareOf hn
    refine ⟨total, htotal, hnonneg, htasks, ?_⟩
    rw [Budget.share?, hfield]
    rfl

/-- The view of a store shows under the key of a budget what the source of the budget holds. -/
theorem Settings.get?_storeView_budget (s : Settings) (name : String) (b : Budget) :
    (s.storeView name).get? b.key = s.get? (b.source s name) := by
  rw [get?_storeView, if_pos b.startsWith_key, Budget.source, contains]
  show (s.get? ("stores." ++ name ++ "." ++ b.key)).or _ = _
  cases hown : s.get? ("stores." ++ name ++ "." ++ b.key) with
  | none => rfl
  | some v => rw [Option.some_or, Option.isSome_some, if_pos rfl, hown]

/-- The view of a store is what lays the store's keys over those of the container, and nothing else.
So the options that the view compiles to, in whichever mode, hold the shares of the store's own
budgets where it has any, and of the container's where it has none. What the container has under a
key of which the store has its own is of no matter to the store, and what the store has there
compiles as if the container had it. -/
theorem Job.compile_storeView (j : Job ε) (s : Settings) (name : String) :
    (∀ t, Layered s name t ↔ t = s.storeView name) ∧
    (∀ o, ({ j with settings := s.storeView name } : Job ε).compile.outcome = .ok o →
      ∀ b : Budget, ∃ total,
        s.getInteger (b.source s name) .long (some (.int b.fallback)) = .ok total ∧
          0 ≤ total ∧ 1 ≤ j.tasks ∧ b.share? o = some (total / j.tasks)) ∧
    ∀ key v, startsWith containerStem key = true → s.get? (storeStem name ++ key) = some v →
      (∀ v?, j.Unaffected name s (s.put key v?)) ∧
        j.Unaffected name s ((s.put (storeStem name ++ key) none).put key (some v)) := by
  refine ⟨fun t => Settings.layered_iff, fun o ho b => ?_,
    fun key v hkey hown => ⟨fun v? => ?_, ?_⟩⟩
  · obtain ⟨total, htotal, hshare⟩ := Job.share?_of_compile _ ho b
    exact ⟨total, Settings.getInteger_of_get?_eq (s.get?_storeView_budget name b) htotal, hshare⟩
  · exact j.unaffected_of_get? fun key' =>
      (Settings.get?_storeView_put_shared hkey hown v? key').symm
  · exact j.unaffected_of_get? fun key' => (Settings.get?_storeView_move hkey hown key').symm

/-- Settings with a store named like the container, which has a budget of its own and sees another
of the container's. -/
def namesakeStore : Settings :=
  .ofPairs [("container.write.buffer.size.bytes", .int 1000), ("stores.container.b", .int 7),
    ("stores.container.container.write.buffer.size.bytes", .text "66"), ("stores.container", .null),
    ("container.cache.size.bytes", .int 4099)]

/-- Four tasks that open the store for a bulk load. -/
def namesakeLoad : Job Empty :=
  { plainJob (namesakeStore.storeView "container") with tasks := 4, mode := .bulkLoad }

/-- The write buffers are from the store's own budget, in whose place the container's comes first,
and the block cache is from the container's. The container's budget for write buffers is of no
matter to the store, even if it cannot be shared. -/
theorem compile_storeView_namesakeLoad :
    (namesakeStore.storeView "container").entries =
      [("container.write.buffer.size.bytes", .text "66"), ("container.cache.size.bytes", .int 4099),
        ("b", .int 7)] ∧
    (∃ o, namesakeLoad.compile.outcome = .ok o ∧ o.writeBufferSize = some 16 ∧
      o.tableFormat.bind (·.blockCacheSize) = some 1024) ∧
    namesakeLoad.Unaffected "container" namesakeStore
      (namesakeStore.insert "container.write.buffer.size.bytes" (.int (-1))) := by
  obtain ⟨-, hbudget, hown⟩ := Job.compile_storeView namesakeLoad namesakeStore "container"
  obtain ⟨o, ho, -⟩ := exists_ok_of_any (x := namesakeLoad.compile.outcome) (p := fun _ => true)
    (by decide +kernel)
  refine ⟨rfl, ⟨o, ho, ?_, ?_⟩, ?_⟩
  · obtain ⟨total, htotal, -, -, hshare⟩ := hbudget o ho .writeBuffers
    have hread : namesakeStore.getInteger
        "stores.container.container.write.buffer.size.bytes" .long
        (some (.int Defaults.containerWriteBufferSize)) = .ok 66 := rfl
    cases hread.symm.trans htotal
    exact hshare
  · obtain ⟨total, htotal, -, -, hshare⟩ := hbudget o ho .blockCache
    have hread : namesakeStore.getInteger cacheKey .long
        (some (.int Defaults.containerCacheSize)) = .ok 4099 := rfl
    cases hread.symm.trans htotal
    exact hshare
  · obtain ⟨hshared, -⟩ := hown writeBufferKey (.text "66") (by decide) rfl
    exact hshared (some (.int (-1)))

end StoreTuning
