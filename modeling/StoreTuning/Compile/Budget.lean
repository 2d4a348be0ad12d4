import StoreTuning.Engine.Defaults
import StoreTuning.Settings.Lookup

/-!
# Budgets

The memory that a container gives its stores is shared evenly among its tasks. A share is rounded
down, so all shares together never exceed the budget (`share_mul_le`).
-/

namespace StoreTuning

/-- Why a budget cannot be shared. -/
inductive BudgetError where
  /-- There is no task to share it among. -/
  | taskCount (tasks : Int)
  /-- The budget is negative. -/
  | negative (total : Int)
  deriving DecidableEq, Repr

/-- The number that is wrong. -/
def BudgetError.number : BudgetError → Int
  | taskCount n => n
  | negative n => n

/-- The text of the error. A number that is too long to print has an error of its own. -/
def BudgetError.message (e : BudgetError) : String :=
  let spelled := Text.Numeral.spell e.number
  if !Text.Numeral.withinLimit e.number then LookupError.unprintableMessage
  else
    match e with
    | taskCount _ => "Invalid task count: " ++ spelled
    | negative _ => "Invalid budget: " ++ spelled ++ " bytes"

/-- One task's share of a budget. -/
def share (total tasks : Int) : Except BudgetError Int :=
  if tasks < 1 then .error (.taskCount tasks)
  else if total < 0 then .error (.negative total)
  else .ok (total / tasks)

/-- All shares together stay within the budget, and one byte more for each would exceed it. -/
theorem share_mul_le {total tasks n : Int} (h : share total tasks = .ok n) :
    tasks * n ≤ total ∧ total < tasks * (n + 1) := by
  unfold share at h
  split at h
  · cases h
  · split at h
    · cases h
    · cases h
      have hpos : 0 < tasks := by omega
      refine ⟨Int.mul_ediv_self_le (by omega), ?_⟩
      have := Int.lt_mul_ediv_self_add (x := total) hpos
      rw [Int.mul_add, Int.mul_one]
      exact this

/-- The key of the write-buffer budget. -/
def writeBufferKey : String := "container.write.buffer.size.bytes"

/-- The key of the block-cache budget. -/
def cacheKey : String := "container.cache.size.bytes"

/-- A failure to read a budget or to share it. -/
inductive ShareError where
  | lookup (e : LookupError)
  | budget (e : BudgetError)
  deriving Repr

/-- The share of the budget under a key. -/
def shareOf (s : Settings) (key : String) (default tasks : Int) : Except ShareError Int := do
  let total ← (s.getInteger key .long (some (.int default))).mapError .lookup
  (share total tasks).mapError .budget

/-- One task's write buffers. -/
def writeBufferSize (s : Settings) (tasks : Int) : Except ShareError Int :=
  shareOf s writeBufferKey Defaults.containerWriteBufferSize tasks

/-- One task's block cache. -/
def blockCacheSize (s : Settings) (tasks : Int) : Except ShareError Int :=
  shareOf s cacheKey Defaults.containerCacheSize tasks

end StoreTuning
