import StoreTuning.Compile.BulkLoad
import StoreTuning.Compile.Budget
import StoreTuning.Compile.Compaction
import StoreTuning.Engine.BulkLoadProfile

/-!
# Engine options from settings

The settings of a store become the options that the engine is opened with. First the options are
configured, setting by setting, up to the first that cannot be read; then, for a bulk load into an
empty directory, the profile is laid over them.
-/

namespace StoreTuning

/-- Why settings do not compile. The error of the question whether a store is present is the
caller's. -/
inductive CompileError (ε : Type) where
  | lookup (e : LookupError)
  | budget (e : BudgetError)
  | presence (e : ε)
  deriving Repr

/-- A failure to read or share a budget, as a failure to compile. -/
def CompileError.ofShare {ε : Type} : ShareError → CompileError ε
  | .lookup e => lookup e
  | .budget e => budget e

/-- The key of the write-ahead log. -/
def walKey : String := "wal.enabled"

/-- The key of the codec. -/
def compressionKey : String := "compression"

/-- The key of the block size. -/
def blockSizeKey : String := "block.size.bytes"

/-- The key of the manifest limit. -/
def manifestKey : String := "max.manifest.file.size"

/-- The settings of the numeric options that always have a value. -/
def engineTable : List (OptionRow EngineNumber Width) := [
  { key := "num.write.buffers", field := .maxWriteBufferNumber, kind := .int,
    fallback? := some (.int Defaults.writeBufferCount) },
  { key := "max.log.file.size.bytes", field := .maxLogFileSize, kind := .long,
    fallback? := some (.int Defaults.maxLogFileSize) },
  { key := "keep.log.file.num", field := .keepLogFileNum, kind := .long,
    fallback? := some (.int Defaults.keepLogFileCount) },
  { key := "delete.obsolete.files.period.micros", field := .deleteObsoleteFilesPeriodMicros,
    kind := .long, fallback? := some (.int Defaults.deleteObsoleteFilesPeriodMicros) },
  { key := "max.open.files", field := .maxOpenFiles, kind := .int,
    fallback? := some (.int Defaults.maxOpenFiles) },
  { key := "max.file.opening.threads", field := .maxFileOpeningThreads, kind := .int,
    fallback? := some (.int Defaults.maxFileOpeningThreads) }]

/-- The tables that a compilation applies. -/
structure OptionTables where
  engine : List (OptionRow EngineNumber Width)
  compaction : List (OptionRow CompactionNumber Width)
  universal : List (OptionRow UniversalNumber Width)

/-- The tables of the settings. -/
abbrev optionTables : OptionTables :=
  ⟨engineTable, compactionTable, universalTable⟩

/-- A numeric option put into its field. -/
def EngineOptions.put (o : EngineOptions) (f : EngineNumber) (n : Int) : EngineOptions :=
  o.setNumber (some n) f

variable {ε : Type}

/-- An outcome of a lookup, as an attempt to compile. -/
def reading {α : Type} (e : Except LookupError α) : Attempt (CompileError ε) α :=
  Attempt.ofExcept (e.mapError .lookup)

/-- An outcome of a budget's sharing, as an attempt to compile. -/
def sharing {α : Type} (e : Except ShareError α) : Attempt (CompileError ε) α :=
  Attempt.ofExcept (e.mapError .ofShare)

/-- The options that settings give a store among `tasks` tasks, in normal mode. The manifest limit
falls back to the caller's value, which is read by the same rule as a configured one. -/
def configure (channel : Channel) (s : Settings) (tasks : Int) (manifestDefault : Value)
    (tables : OptionTables := optionTables) : Attempt (CompileError ε) EngineOptions := do
  let wal ← reading (s.getFlag walKey (some (.bool Defaults.walEnabled)))
  let writeBuffer ← sharing (writeBufferSize s tasks)
  let codec ← reading (s.readChoice compressionKey Defaults.compression)
  let compression ← resolveCompression channel compressionKey (.text codec)
  let cache ← sharing (blockCacheSize s tasks)
  let blockSize ← reading (s.getInteger blockSizeKey .int (some (.int Defaults.blockSize)))
  let compaction ←
    (resolveCompaction channel s tables.compaction tables.universal).mapError .lookup
  let options : EngineOptions := {
    manualWalFlush := if wal then some true else none
    walRecoveryMode := if wal then some .absoluteConsistency else none
    writeBufferSize := some writeBuffer
    compressionType := some compression
    tableFormat := some { blockCacheSize := some cache, blockSize := some blockSize }
    compaction := some compaction
    createIfMissing := some true
    errorIfExists := some false }
  let options ← (OptionTable.apply "EngineOptions" EngineNumber.name EngineOptions.put s
    tables.engine options).mapError .lookup
  let manifest ← reading (s.getInteger manifestKey .long (some manifestDefault))
  return { options with maxManifestFileSize := some manifest }

/-- The options prepared for a bulk load if that is asked for and the directory holds no store. -/
def openFor (channel : Channel) (mode : OpenMode) (directory : String)
    (holdsStore : String → Except ε Bool) (options : EngineOptions) :
    Attempt (CompileError ε) EngineOptions := do
  let prepare ← (shouldPrepare channel mode directory holdsStore).mapError .presence
  if prepare then
    Attempt.log channel (.preparing directory)
    return options.prepareForBulkLoad
  else
    return options

/-- The options that the engine is opened with. -/
def compile (channel : Channel) (s : Settings) (tasks : Int) (manifestDefault : Value)
    (directory : String) (mode : OpenMode) (holdsStore : String → Except ε Bool)
    (tables : OptionTables := optionTables) : Attempt (CompileError ε) EngineOptions := do
  let options ← configure channel s tasks manifestDefault tables
  openFor channel mode directory holdsStore options

end StoreTuning
