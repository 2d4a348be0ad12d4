import StoreTuning.Value.Printer

/-!
# The engine's enumerations

Each enumeration of the engine has its members in a fixed order, and each member a name and a value.
The value is what configuration and reports use, and it finds the member again
(`Choice.ofText?_value_compression` and its siblings).
-/

namespace StoreTuning

/-- An enumeration: its name, and its members in order with their names and values. -/
class Choice (α : Type) where
  /-- The name of the enumeration in messages. -/
  typeName : String
  /-- The members in order. -/
  members : List α
  /-- The name of a member. -/
  memberName : α → String
  /-- The value of a member. -/
  value : α → String

namespace Choice

variable {α : Type} [Choice α]

/-- The member with a value. -/
def ofText? (s : String) : Option α :=
  members.find? fun m => value m == s

/-- A member as a value of its own kind. -/
def toForeign (m : α) : Foreign :=
  let name := typeName α ++ "." ++ memberName m
  { quoted := "<" ++ name ++ ": " ++ Text.quoted (value m) ++ ">", text := name }

/-- The member that a value is or that has it as its value; only texts are values of members. -/
def ofValue? : Value → Option α
  | .text s => ofText? s
  | .other f => members.find? fun m => toForeign m == f
  | _ => none

/-- What is said of a value that no member has. -/
def unknownMessage (α : Type) [Choice α] (v : Value) : String :=
  v.quoted ++ " is not a valid " ++ typeName α

end Choice

/-- The codecs for blocks. -/
inductive Compression where
  | none
  | snappy
  | zlib
  | bzip2
  | lz4
  | lz4hc
  deriving DecidableEq, Repr

instance : Choice Compression where
  typeName := "CompressionType"
  members := [.none, .snappy, .zlib, .bzip2, .lz4, .lz4hc]
  memberName
    | .none => "NO_COMPRESSION"
    | .snappy => "SNAPPY_COMPRESSION"
    | .zlib => "ZLIB_COMPRESSION"
    | .bzip2 => "BZLIB2_COMPRESSION"
    | .lz4 => "LZ4_COMPRESSION"
    | .lz4hc => "LZ4HC_COMPRESSION"
  value
    | .none => "none"
    | .snappy => "snappy"
    | .zlib => "zlib"
    | .bzip2 => "bzip2"
    | .lz4 => "lz4"
    | .lz4hc => "lz4hc"

/-- The families of compaction. -/
inductive CompactionStyle where
  | level
  | universal
  | fifo
  deriving DecidableEq, Repr

instance : Choice CompactionStyle where
  typeName := "CompactionStyle"
  members := [.level, .universal, .fifo]
  memberName
    | .level => "LEVEL"
    | .universal => "UNIVERSAL"
    | .fifo => "FIFO"
  value
    | .level => "level"
    | .universal => "universal"
    | .fifo => "fifo"

/-- When universal compaction stops picking files. -/
inductive StopStyle where
  | similarSize
  | totalSize
  deriving DecidableEq, Repr

instance : Choice StopStyle where
  typeName := "CompactionStopStyle"
  members := [.similarSize, .totalSize]
  memberName
    | .similarSize => "SIMILAR_SIZE"
    | .totalSize => "TOTAL_SIZE"
  value
    | .similarSize => "CompactionStopStyleSimilarSize"
    | .totalSize => "CompactionStopStyleTotalSize"

/-- How the write-ahead log is recovered when the engine opens. -/
inductive RecoveryMode where
  | tolerateCorruptedTailRecords
  | absoluteConsistency
  | pointInTimeRecovery
  | skipAnyCorruptedRecords
  deriving DecidableEq, Repr

instance : Choice RecoveryMode where
  typeName := "WALRecoveryMode"
  members := [.tolerateCorruptedTailRecords, .absoluteConsistency, .pointInTimeRecovery,
    .skipAnyCorruptedRecords]
  memberName
    | .tolerateCorruptedTailRecords => "TOLERATE_CORRUPTED_TAIL_RECORDS"
    | .absoluteConsistency => "ABSOLUTE_CONSISTENCY"
    | .pointInTimeRecovery => "POINT_IN_TIME_RECOVERY"
    | .skipAnyCorruptedRecords => "SKIP_ANY_CORRUPTED_RECORDS"
  value
    | .tolerateCorruptedTailRecords => "TolerateCorruptedTailRecords"
    | .absoluteConsistency => "AbsoluteConsistency"
    | .pointInTimeRecovery => "PointInTimeRecovery"
    | .skipAnyCorruptedRecords => "SkipAnyCorruptedRecords"

/-- What a store is opened for. -/
inductive OpenMode where
  | normal
  | bulkLoad
  deriving DecidableEq, Repr

instance : Choice OpenMode where
  typeName := "StoreMode"
  members := [.normal, .bulkLoad]
  memberName
    | .normal => "NORMAL"
    | .bulkLoad => "BULK_LOAD"
  value
    | .normal => "normal"
    | .bulkLoad => "bulk"

namespace Choice

@[simp]
theorem ofText?_value_compression (m : Compression) : ofText? (value m) = some m := by
  cases m <;> decide

@[simp]
theorem ofText?_value_compactionStyle (m : CompactionStyle) : ofText? (value m) = some m := by
  cases m <;> decide

@[simp]
theorem ofText?_value_stopStyle (m : StopStyle) : ofText? (value m) = some m := by
  cases m <;> decide

@[simp]
theorem ofText?_value_recoveryMode (m : RecoveryMode) : ofText? (value m) = some m := by
  cases m <;> decide

end Choice

end StoreTuning
