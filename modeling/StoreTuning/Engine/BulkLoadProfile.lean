import StoreTuning.Engine.Defaults
import StoreTuning.Engine.Options

/-!
# The profile for bulk loads

Options for the fastest load into an empty store: stalls and automatic compactions are off, so that
every flushed file stays in level 0 until it is compacted by hand.
-/

namespace StoreTuning

/-- Compaction with the profile laid over it. -/
def Compaction.prepareForBulkLoad (c : Compaction) : Compaction :=
  { c with
    level0FileNumCompactionTrigger := some Defaults.bulkLoadLevel0Trigger
    level0SlowdownWritesTrigger := some Defaults.bulkLoadLevel0Trigger
    level0StopWritesTrigger := some Defaults.bulkLoadLevel0Trigger
    softPendingCompactionBytesLimit := some 0
    hardPendingCompactionBytesLimit := some 0
    disableAutoCompactions := some true
    maxCompactionBytes := some Defaults.bulkLoadMaxCompactionBytes
    numLevels := some Defaults.bulkLoadNumLevels
    maxBackgroundCompactions := some Defaults.bulkLoadMaxBackgroundCompactions
    targetFileSizeBase := some Defaults.bulkLoadTargetFileSizeBase }

/-- Options with the profile laid over them. -/
def EngineOptions.prepareForBulkLoad (o : EngineOptions) : EngineOptions :=
  { o with
    compaction := o.compaction.map Compaction.prepareForBulkLoad
    maxWriteBufferNumber := some Defaults.bulkLoadMaxWriteBufferNumber
    minWriteBufferNumberToMerge := some Defaults.bulkLoadMinWriteBufferNumberToMerge
    maxBackgroundFlushes := some Defaults.bulkLoadMaxBackgroundFlushes
    preparedForBulkLoad := true }

/-- Laying the profile over options a second time changes nothing. -/
theorem EngineOptions.prepareForBulkLoad_idem (o : EngineOptions) :
    o.prepareForBulkLoad.prepareForBulkLoad = o.prepareForBulkLoad := by
  obtain ⟨_, _, _, _, c, _⟩ := o
  cases c <;> rfl

end StoreTuning
