import StoreTuning.Engine.Choice

/-!
# Engine options

The record of options that an engine is opened with, and the records inside it. A field that is not
set is `none`, and the engine's own default stands for it. The numeric fields of each record are
also given as a type of their own, by which tables of settings name them; setting one leaves the
others (`EngineOptions.number_setNumber` and its siblings).
-/

namespace StoreTuning

/-- The numeric fields of the table format. -/
inductive TableNumber where
  /-- The bytes of one task's block cache. -/
  | blockCacheSize
  /-- The bytes of a block before compression. -/
  | blockSize
  deriving DecidableEq, Repr

/-- The name of the field in reports. -/
def TableNumber.name : TableNumber → String
  | blockCacheSize => "block_cache_size"
  | blockSize => "block_size"

/-- The fields in the order of their declaration. -/
def TableNumber.all : List TableNumber :=
  [.blockCacheSize, .blockSize]

/-- The numeric fields of universal compaction. -/
inductive UniversalNumber where
  /-- The extra space that is tolerated, in percent. -/
  | maxSizeAmplificationPercent
  /-- The percentage by which sizes of merged files may differ. -/
  | sizeRatio
  /-- The fewest files in one merge. -/
  | minMergeWidth
  /-- The most files in one merge. -/
  | maxMergeWidth
  deriving DecidableEq, Repr

/-- The name of the field in reports. -/
def UniversalNumber.name : UniversalNumber → String
  | maxSizeAmplificationPercent => "max_size_amplification_percent"
  | sizeRatio => "size_ratio"
  | minMergeWidth => "min_merge_width"
  | maxMergeWidth => "max_merge_width"

/-- The fields in the order of their declaration. -/
def UniversalNumber.all : List UniversalNumber :=
  [.maxSizeAmplificationPercent, .sizeRatio, .minMergeWidth, .maxMergeWidth]

/-- The numeric fields of compaction. -/
inductive CompactionNumber where
  /-- The levels. -/
  | numLevels
  /-- The file count of level 0 that starts a compaction. -/
  | level0FileNumCompactionTrigger
  /-- The file count of level 0 that slows writes. -/
  | level0SlowdownWritesTrigger
  /-- The file count of level 0 that stops writes. -/
  | level0StopWritesTrigger
  /-- The compactions at the same time. -/
  | maxBackgroundCompactions
  /-- The flushes and compactions at the same time. -/
  | maxBackgroundJobs
  /-- The bytes of a file at level 1. -/
  | targetFileSizeBase
  /-- The growth of file sizes from level to level. -/
  | targetFileSizeMultiplier
  /-- The bytes in one compaction. -/
  | maxCompactionBytes
  /-- The pending bytes that slow writes. -/
  | softPendingCompactionBytesLimit
  /-- The pending bytes that stop writes. -/
  | hardPendingCompactionBytesLimit
  deriving DecidableEq, Repr

/-- The name of the field in reports. -/
def CompactionNumber.name : CompactionNumber → String
  | numLevels => "num_levels"
  | level0FileNumCompactionTrigger => "level0_file_num_compaction_trigger"
  | level0SlowdownWritesTrigger => "level0_slowdown_writes_trigger"
  | level0StopWritesTrigger => "level0_stop_writes_trigger"
  | maxBackgroundCompactions => "max_background_compactions"
  | maxBackgroundJobs => "max_background_jobs"
  | targetFileSizeBase => "target_file_size_base"
  | targetFileSizeMultiplier => "target_file_size_multiplier"
  | maxCompactionBytes => "max_compaction_bytes"
  | softPendingCompactionBytesLimit => "soft_pending_compaction_bytes_limit"
  | hardPendingCompactionBytesLimit => "hard_pending_compaction_bytes_limit"

/-- The fields in the order of their declaration. -/
def CompactionNumber.all : List CompactionNumber :=
  [.numLevels, .level0FileNumCompactionTrigger, .level0SlowdownWritesTrigger,
    .level0StopWritesTrigger, .maxBackgroundCompactions, .maxBackgroundJobs, .targetFileSizeBase,
    .targetFileSizeMultiplier, .maxCompactionBytes, .softPendingCompactionBytesLimit,
    .hardPendingCompactionBytesLimit]

/-- The numeric fields of the options themselves. -/
inductive EngineNumber where
  /-- The bytes of one task's write buffers. -/
  | writeBufferSize
  /-- The write buffers, in memory and being flushed. -/
  | maxWriteBufferNumber
  /-- The write buffers merged in one flush. -/
  | minWriteBufferNumberToMerge
  /-- The flushes at the same time. -/
  | maxBackgroundFlushes
  /-- The bytes of one log file. -/
  | maxLogFileSize
  /-- The log files that are kept. -/
  | keepLogFileNum
  /-- The microseconds between removals of obsolete files. -/
  | deleteObsoleteFilesPeriodMicros
  /-- The files that may be open. -/
  | maxOpenFiles
  /-- The threads that open files. -/
  | maxFileOpeningThreads
  /-- The bytes of a manifest file. -/
  | maxManifestFileSize
  deriving DecidableEq, Repr

/-- The name of the field in reports. -/
def EngineNumber.name : EngineNumber → String
  | writeBufferSize => "write_buffer_size"
  | maxWriteBufferNumber => "max_write_buffer_number"
  | minWriteBufferNumberToMerge => "min_write_buffer_number_to_merge"
  | maxBackgroundFlushes => "max_background_flushes"
  | maxLogFileSize => "max_log_file_size"
  | keepLogFileNum => "keep_log_file_num"
  | deleteObsoleteFilesPeriodMicros => "delete_obsolete_files_period_micros"
  | maxOpenFiles => "max_open_files"
  | maxFileOpeningThreads => "max_file_opening_threads"
  | maxManifestFileSize => "max_manifest_file_size"

/-- The fields in the order of their declaration. -/
def EngineNumber.all : List EngineNumber :=
  [.writeBufferSize, .maxWriteBufferNumber, .minWriteBufferNumberToMerge, .maxBackgroundFlushes,
    .maxLogFileSize, .keepLogFileNum, .deleteObsoleteFilesPeriodMicros, .maxOpenFiles,
    .maxFileOpeningThreads, .maxManifestFileSize]

/-- The format of table files. -/
structure TableFormat where
  /-- The bytes of one task's block cache. -/
  blockCacheSize : Option Int := none
  /-- The bytes of a block before compression. -/
  blockSize : Option Int := none
  deriving DecidableEq, Repr

/-- The parameters of universal compaction. -/
structure UniversalCompaction where
  /-- The extra space that is tolerated, in percent. -/
  maxSizeAmplificationPercent : Option Int := none
  /-- The percentage by which sizes of merged files may differ. -/
  sizeRatio : Option Int := none
  /-- The fewest files in one merge. -/
  minMergeWidth : Option Int := none
  /-- The most files in one merge. -/
  maxMergeWidth : Option Int := none
  /-- When to stop picking files. -/
  stopStyle : Option StopStyle := none
  deriving DecidableEq, Repr

/-- The compaction family and its parameters. -/
structure Compaction where
  /-- The family. -/
  style : Option CompactionStyle := none
  /-- The levels. -/
  numLevels : Option Int := none
  /-- The file count of level 0 that starts a compaction. -/
  level0FileNumCompactionTrigger : Option Int := none
  /-- The file count of level 0 that slows writes. -/
  level0SlowdownWritesTrigger : Option Int := none
  /-- The file count of level 0 that stops writes. -/
  level0StopWritesTrigger : Option Int := none
  /-- The compactions at the same time. -/
  maxBackgroundCompactions : Option Int := none
  /-- The flushes and compactions at the same time. -/
  maxBackgroundJobs : Option Int := none
  /-- The bytes of a file at level 1. -/
  targetFileSizeBase : Option Int := none
  /-- The growth of file sizes from level to level. -/
  targetFileSizeMultiplier : Option Int := none
  /-- The bytes in one compaction. -/
  maxCompactionBytes : Option Int := none
  /-- The pending bytes that slow writes. -/
  softPendingCompactionBytesLimit : Option Int := none
  /-- The pending bytes that stop writes. -/
  hardPendingCompactionBytesLimit : Option Int := none
  /-- Whether background compactions are off. -/
  disableAutoCompactions : Option Bool := none
  /-- The parameters of the universal family. -/
  universal : Option UniversalCompaction := none
  deriving DecidableEq, Repr

/-- The options that an engine is opened with. -/
structure EngineOptions where
  /-- Whether the write-ahead log is flushed by hand. -/
  manualWalFlush : Option Bool := none
  /-- How the write-ahead log is recovered. -/
  walRecoveryMode : Option RecoveryMode := none
  /-- The codec of blocks. -/
  compressionType : Option Compression := none
  /-- The format of table files. -/
  tableFormat : Option TableFormat := none
  /-- The compaction family and its parameters. -/
  compaction : Option Compaction := some {}
  /-- Whether a missing store is created. -/
  createIfMissing : Option Bool := none
  /-- Whether an existing store is an error. -/
  errorIfExists : Option Bool := none
  /-- The bytes of one task's write buffers. -/
  writeBufferSize : Option Int := none
  /-- The write buffers, in memory and being flushed. -/
  maxWriteBufferNumber : Option Int := none
  /-- The write buffers merged in one flush. -/
  minWriteBufferNumberToMerge : Option Int := none
  /-- The flushes at the same time. -/
  maxBackgroundFlushes : Option Int := none
  /-- The bytes of one log file. -/
  maxLogFileSize : Option Int := none
  /-- The log files that are kept. -/
  keepLogFileNum : Option Int := none
  /-- The microseconds between removals of obsolete files. -/
  deleteObsoleteFilesPeriodMicros : Option Int := none
  /-- The files that may be open. -/
  maxOpenFiles : Option Int := none
  /-- The threads that open files. -/
  maxFileOpeningThreads : Option Int := none
  /-- The bytes of a manifest file. -/
  maxManifestFileSize : Option Int := none
  /-- Whether the profile for bulk loads was laid over the options. -/
  preparedForBulkLoad : Bool := false
  deriving DecidableEq, Repr

/-- The value of a numeric field. -/
def TableFormat.number (t : TableFormat) : TableNumber → Option Int
  | .blockCacheSize => t.blockCacheSize
  | .blockSize => t.blockSize

/-- The record with a numeric field set. -/
def TableFormat.setNumber (t : TableFormat) (v : Option Int) : TableNumber → TableFormat
  | .blockCacheSize => { t with blockCacheSize := v }
  | .blockSize => { t with blockSize := v }

/-- A field holds what it was set to, and setting it leaves the other fields. -/
theorem TableFormat.number_setNumber (t : TableFormat) (v : Option Int) (f g : TableNumber) :
    (t.setNumber v f).number g = if g = f then v else t.number g := by
  cases f <;> cases g <;> rfl

/-- The value of a numeric field. -/
def UniversalCompaction.number (u : UniversalCompaction) : UniversalNumber → Option Int
  | .maxSizeAmplificationPercent => u.maxSizeAmplificationPercent
  | .sizeRatio => u.sizeRatio
  | .minMergeWidth => u.minMergeWidth
  | .maxMergeWidth => u.maxMergeWidth

/-- The record with a numeric field set. -/
def UniversalCompaction.setNumber (u : UniversalCompaction) (v : Option Int) :
    UniversalNumber → UniversalCompaction
  | .maxSizeAmplificationPercent => { u with maxSizeAmplificationPercent := v }
  | .sizeRatio => { u with sizeRatio := v }
  | .minMergeWidth => { u with minMergeWidth := v }
  | .maxMergeWidth => { u with maxMergeWidth := v }

/-- A field holds what it was set to, and setting it leaves the other fields. -/
theorem UniversalCompaction.number_setNumber (u : UniversalCompaction) (v : Option Int)
    (f g : UniversalNumber) :
    (u.setNumber v f).number g = if g = f then v else u.number g := by
  cases f <;> cases g <;> rfl

/-- The value of a numeric field. -/
def Compaction.number (c : Compaction) : CompactionNumber → Option Int
  | .numLevels => c.numLevels
  | .level0FileNumCompactionTrigger => c.level0FileNumCompactionTrigger
  | .level0SlowdownWritesTrigger => c.level0SlowdownWritesTrigger
  | .level0StopWritesTrigger => c.level0StopWritesTrigger
  | .maxBackgroundCompactions => c.maxBackgroundCompactions
  | .maxBackgroundJobs => c.maxBackgroundJobs
  | .targetFileSizeBase => c.targetFileSizeBase
  | .targetFileSizeMultiplier => c.targetFileSizeMultiplier
  | .maxCompactionBytes => c.maxCompactionBytes
  | .softPendingCompactionBytesLimit => c.softPendingCompactionBytesLimit
  | .hardPendingCompactionBytesLimit => c.hardPendingCompactionBytesLimit

/-- The record with a numeric field set. -/
def Compaction.setNumber (c : Compaction) (v : Option Int) : CompactionNumber → Compaction
  | .numLevels => { c with numLevels := v }
  | .level0FileNumCompactionTrigger => { c with level0FileNumCompactionTrigger := v }
  | .level0SlowdownWritesTrigger => { c with level0SlowdownWritesTrigger := v }
  | .level0StopWritesTrigger => { c with level0StopWritesTrigger := v }
  | .maxBackgroundCompactions => { c with maxBackgroundCompactions := v }
  | .maxBackgroundJobs => { c with maxBackgroundJobs := v }
  | .targetFileSizeBase => { c with targetFileSizeBase := v }
  | .targetFileSizeMultiplier => { c with targetFileSizeMultiplier := v }
  | .maxCompactionBytes => { c with maxCompactionBytes := v }
  | .softPendingCompactionBytesLimit => { c with softPendingCompactionBytesLimit := v }
  | .hardPendingCompactionBytesLimit => { c with hardPendingCompactionBytesLimit := v }

/-- A field holds what it was set to, and setting it leaves the other fields. -/
theorem Compaction.number_setNumber (c : Compaction) (v : Option Int) (f g : CompactionNumber) :
    (c.setNumber v f).number g = if g = f then v else c.number g := by
  cases f <;> cases g <;> rfl

/-- The value of a numeric field. -/
def EngineOptions.number (o : EngineOptions) : EngineNumber → Option Int
  | .writeBufferSize => o.writeBufferSize
  | .maxWriteBufferNumber => o.maxWriteBufferNumber
  | .minWriteBufferNumberToMerge => o.minWriteBufferNumberToMerge
  | .maxBackgroundFlushes => o.maxBackgroundFlushes
  | .maxLogFileSize => o.maxLogFileSize
  | .keepLogFileNum => o.keepLogFileNum
  | .deleteObsoleteFilesPeriodMicros => o.deleteObsoleteFilesPeriodMicros
  | .maxOpenFiles => o.maxOpenFiles
  | .maxFileOpeningThreads => o.maxFileOpeningThreads
  | .maxManifestFileSize => o.maxManifestFileSize

/-- The record with a numeric field set. -/
def EngineOptions.setNumber (o : EngineOptions) (v : Option Int) : EngineNumber → EngineOptions
  | .writeBufferSize => { o with writeBufferSize := v }
  | .maxWriteBufferNumber => { o with maxWriteBufferNumber := v }
  | .minWriteBufferNumberToMerge => { o with minWriteBufferNumberToMerge := v }
  | .maxBackgroundFlushes => { o with maxBackgroundFlushes := v }
  | .maxLogFileSize => { o with maxLogFileSize := v }
  | .keepLogFileNum => { o with keepLogFileNum := v }
  | .deleteObsoleteFilesPeriodMicros => { o with deleteObsoleteFilesPeriodMicros := v }
  | .maxOpenFiles => { o with maxOpenFiles := v }
  | .maxFileOpeningThreads => { o with maxFileOpeningThreads := v }
  | .maxManifestFileSize => { o with maxManifestFileSize := v }

/-- A field holds what it was set to, and setting it leaves the other fields. -/
theorem EngineOptions.number_setNumber (o : EngineOptions) (v : Option Int) (f g : EngineNumber) :
    (o.setNumber v f).number g = if g = f then v else o.number g := by
  cases f <;> cases g <;> rfl

end StoreTuning
