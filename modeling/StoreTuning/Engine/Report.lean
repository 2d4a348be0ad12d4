import StoreTuning.Engine.Options

/-!
# Reports on engine options

A record of options is laid out as a tree of named fields in the order of their declaration. The
full report shows every field, the unset ones as null. The overrides are the fields that are set,
and a record inside shows only if one of its fields does.
-/

namespace StoreTuning

/-- What a field holds: nothing, a value, or a record. Members of enumerations are laid out by their
values. -/
inductive Content where
  | unset
  | flag (b : Bool)
  | number (n : Int)
  | text (s : String)
  | record (fields : List (String × Content))
  deriving Repr

/-- A report: a value, or named reports in order. -/
inductive Report where
  | null
  | flag (b : Bool)
  | number (n : Int)
  | text (s : String)
  | record (fields : List (String × Report))
  deriving Repr

namespace Content

/-- The content of a field with a truth value. -/
def ofFlag : Option Bool → Content
  | some b => flag b
  | none => unset

/-- The content of a numeric field. -/
def ofNumber : Option Int → Content
  | some n => number n
  | none => unset

/-- The content of a field with a member of an enumeration. -/
def ofChoice {α : Type} [Choice α] : Option α → Content
  | some m => text (Choice.value m)
  | none => unset

/-- The content of a field with a record. -/
def ofRecord {α : Type} (fields : α → List (String × Content)) : Option α → Content
  | some r => record (fields r)
  | none => unset

mutual

/-- The report on a field that shows all there is. -/
def full : Content → Report
  | unset => .null
  | flag b => .flag b
  | number n => .number n
  | text s => .text s
  | record fs => .record (fullFields fs)

/-- The reports on fields that show all there is. -/
def fullFields : List (String × Content) → List (String × Report)
  | [] => []
  | (name, c) :: fs => (name, c.full) :: fullFields fs

end

mutual

/-- The report on a field, if it is set or has a field that is. -/
def override? : Content → Option Report
  | unset => none
  | flag b => some (.flag b)
  | number n => some (.number n)
  | text s => some (.text s)
  | record fs =>
    match overrides fs with
    | [] => none
    | r :: rs => some (.record (r :: rs))

/-- The reports on the fields that are set. -/
def overrides : List (String × Content) → List (String × Report)
  | [] => []
  | (name, c) :: fs =>
    match c.override? with
    | none => overrides fs
    | some r => (name, r) :: overrides fs

end

end Content

open Content

/-- The fields of the table format. -/
def TableFormat.fields (t : TableFormat) : List (String × Content) :=
  TableNumber.all.map fun f => (f.name, ofNumber (t.number f))

/-- The fields of universal compaction. -/
def UniversalCompaction.fields (u : UniversalCompaction) : List (String × Content) :=
  UniversalNumber.all.map (fun f => (f.name, ofNumber (u.number f))) ++
    [("stop_style", ofChoice u.stopStyle)]

/-- The fields of compaction. -/
def Compaction.fields (c : Compaction) : List (String × Content) :=
  ("style", ofChoice c.style) ::
    CompactionNumber.all.map (fun f => (f.name, ofNumber (c.number f))) ++
    [("disable_auto_compactions", ofFlag c.disableAutoCompactions),
      ("universal", ofRecord UniversalCompaction.fields c.universal)]

/-- A numeric field of the options with its name. -/
def EngineOptions.numberField (o : EngineOptions) (f : EngineNumber) : String × Content :=
  (f.name, ofNumber (o.number f))

/-- The fields of the options. -/
def EngineOptions.fields (o : EngineOptions) : List (String × Content) :=
  [("manual_wal_flush", ofFlag o.manualWalFlush),
    ("wal_recovery_mode", ofChoice o.walRecoveryMode),
    o.numberField .writeBufferSize,
    o.numberField .maxWriteBufferNumber,
    o.numberField .minWriteBufferNumberToMerge,
    ("compression_type", ofChoice o.compressionType),
    ("table_format_config", ofRecord TableFormat.fields o.tableFormat),
    ("compaction", ofRecord Compaction.fields o.compaction),
    o.numberField .maxBackgroundFlushes,
    ("create_if_missing", ofFlag o.createIfMissing),
    ("error_if_exists", ofFlag o.errorIfExists),
    o.numberField .maxLogFileSize,
    o.numberField .keepLogFileNum,
    o.numberField .deleteObsoleteFilesPeriodMicros,
    o.numberField .maxOpenFiles,
    o.numberField .maxFileOpeningThreads,
    o.numberField .maxManifestFileSize,
    ("prepared_for_bulk_load", flag o.preparedForBulkLoad)]

/-- The report on all options. -/
def EngineOptions.report (o : EngineOptions) : Report :=
  .record (fullFields o.fields)

/-- The report on the options that are set. -/
def EngineOptions.overridesReport (o : EngineOptions) : Report :=
  .record (overrides o.fields)

end StoreTuning
