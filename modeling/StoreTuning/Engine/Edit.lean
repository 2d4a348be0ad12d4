import StoreTuning.Engine.BulkLoadProfile

/-!
# Changes to engine options

A caller may change single fields of the options, put other records into them, or lay the profile
for bulk loads over them. A change inside a record that is absent changes nothing.
-/

namespace StoreTuning

/-- A change to universal compaction. -/
inductive UniversalEdit where
  | number (f : UniversalNumber) (v : Option Int)
  | stopStyle (v : Option StopStyle)
  deriving Repr

/-- A change to compaction. -/
inductive CompactionEdit where
  | style (v : Option CompactionStyle)
  | number (f : CompactionNumber) (v : Option Int)
  | disableAutoCompactions (v : Option Bool)
  | universal (v : Option UniversalCompaction)
  | inUniversal (e : UniversalEdit)
  deriving Repr

/-- A change to the options. -/
inductive EngineEdit where
  | manualWalFlush (v : Option Bool)
  | walRecoveryMode (v : Option RecoveryMode)
  | compressionType (v : Option Compression)
  | createIfMissing (v : Option Bool)
  | errorIfExists (v : Option Bool)
  | preparedForBulkLoad (v : Bool)
  | number (f : EngineNumber) (v : Option Int)
  | tableFormat (v : Option TableFormat)
  | compaction (v : Option Compaction)
  | inTableFormat (f : TableNumber) (v : Option Int)
  | inCompaction (e : CompactionEdit)
  deriving Repr

/-- Universal compaction after a change. -/
def UniversalCompaction.edit (u : UniversalCompaction) : UniversalEdit → UniversalCompaction
  | .number f v => u.setNumber v f
  | .stopStyle v => { u with stopStyle := v }

/-- Compaction after a change. -/
def Compaction.edit (c : Compaction) : CompactionEdit → Compaction
  | .style v => { c with style := v }
  | .number f v => c.setNumber v f
  | .disableAutoCompactions v => { c with disableAutoCompactions := v }
  | .universal v => { c with universal := v }
  | .inUniversal e => { c with universal := c.universal.map (·.edit e) }

/-- Options after a change. -/
def EngineOptions.edit (o : EngineOptions) : EngineEdit → EngineOptions
  | .manualWalFlush v => { o with manualWalFlush := v }
  | .walRecoveryMode v => { o with walRecoveryMode := v }
  | .compressionType v => { o with compressionType := v }
  | .createIfMissing v => { o with createIfMissing := v }
  | .errorIfExists v => { o with errorIfExists := v }
  | .preparedForBulkLoad v => { o with preparedForBulkLoad := v }
  | .number f v => o.setNumber v f
  | .tableFormat v => { o with tableFormat := v }
  | .compaction v => { o with compaction := v }
  | .inTableFormat f v => { o with tableFormat := o.tableFormat.map (·.setNumber v f) }
  | .inCompaction e => { o with compaction := o.compaction.map (·.edit e) }

end StoreTuning
