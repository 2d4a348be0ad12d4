import StoreTuning.Compile.Attempt
import StoreTuning.Engine.Choice

/-!
# When to prepare for a bulk load

The profile for bulk loads does not work over data, so it is laid over the options only when a bulk
load is asked for and the directory holds no store.
-/

namespace StoreTuning

variable {ε : Type}

/-- Whether the options are to be prepared. The directory is asked about only for a bulk load. -/
def shouldPrepare (channel : Channel) (mode : OpenMode) (directory : String)
    (holdsStore : String → Except ε Bool) : Attempt ε Bool :=
  match mode with
  | .normal => pure false
  | .bulkLoad => do
    let present ← Attempt.ask directory holdsStore
    if present then
      Attempt.log channel (.storePresent directory)
    return !present

end StoreTuning
