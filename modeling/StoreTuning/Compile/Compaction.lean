import StoreTuning.Compile.Choice
import StoreTuning.Compile.OptionTable
import StoreTuning.Engine.Options

/-!
# Compaction from settings

The compaction family and its parameters. Every parameter is gated: where its key is absent nothing
is set, and the engine's default stands. The keys of the universal family are read only for that
family.
-/

namespace StoreTuning

/-- The settings of the numeric parameters of compaction. -/
def compactionTable : List (OptionRow CompactionNumber Width) := [
  { key := "compaction.num.levels", field := .numLevels, kind := .int, gated := true },
  { key := "compaction.level0.file.num.compaction.trigger",
    field := .level0FileNumCompactionTrigger, kind := .int, gated := true },
  { key := "compaction.max.background.compactions", field := .maxBackgroundCompactions,
    kind := .int, fallback? := some (.int Defaults.maxBackgroundCompactions), gated := true },
  { key := "compaction.target.file.size.base", field := .targetFileSizeBase, kind := .long,
    gated := true },
  { key := "compaction.target.file.size.multiplier", field := .targetFileSizeMultiplier,
    kind := .int, gated := true },
  { key := "max.background.jobs", field := .maxBackgroundJobs, kind := .int,
    fallback? := some (.int Defaults.maxBackgroundJobs), gated := true }]

/-- The settings of the numeric parameters of universal compaction. -/
def universalTable : List (OptionRow UniversalNumber Width) := [
  { key := "compaction.universal.max.size.amplification.percent",
    field := .maxSizeAmplificationPercent, kind := .int, gated := true },
  { key := "compaction.universal.size.ratio", field := .sizeRatio, kind := .int, gated := true },
  { key := "compaction.universal.min.merge.width", field := .minMergeWidth, kind := .int,
    gated := true },
  { key := "compaction.universal.max.merge.width", field := .maxMergeWidth, kind := .int,
    gated := true }]

/-- The key of the compaction family. -/
def styleKey : String := "compaction.style"

/-- The key of the stop style. -/
def stopStyleKey : String := "compaction.universal.compaction.stop.style"

/-- A numeric parameter of compaction put into its field. -/
def Compaction.put (c : Compaction) (f : CompactionNumber) (n : Int) : Compaction :=
  c.setNumber (some n) f

/-- A numeric parameter of universal compaction put into its field. -/
def UniversalCompaction.put (u : UniversalCompaction) (f : UniversalNumber) (n : Int) :
    UniversalCompaction :=
  u.setNumber (some n) f

/-- The stop style that settings give, if they give one. -/
def readStopStyle (s : Settings) : Except LookupError (Option StopStyle) := do
  if s.contains stopStyleKey then
    let raw ← s.getText stopStyleKey (some (.text ""))
    parseStopStyle raw stopStyleKey
  else
    return none

/-- Universal compaction as settings give it through a table. -/
def resolveUniversal (s : Settings)
    (table : List (OptionRow UniversalNumber Width) := universalTable) :
    Attempt LookupError UniversalCompaction := do
  let u ← OptionTable.apply "UniversalCompactionOptions" UniversalNumber.name
    UniversalCompaction.put s table {}
  let stopStyle ← Attempt.ofExcept (readStopStyle s)
  return { u with stopStyle }

/-- Compaction as settings give it through a table, and through one for the universal family. -/
def resolveCompaction (channel : Channel) (s : Settings)
    (table : List (OptionRow CompactionNumber Width) := compactionTable)
    (universal : List (OptionRow UniversalNumber Width) := universalTable) :
    Attempt LookupError Compaction := do
  let c ← OptionTable.apply "CompactionSpec" CompactionNumber.name Compaction.put s table {}
  let raw ← Attempt.ofExcept (s.readChoice styleKey Defaults.compactionStyle)
  let style ← resolveStyle channel styleKey (.text raw)
  if style = .universal then
    let parameters ← resolveUniversal s universal
    return { c with style := some style, universal := some parameters }
  else
    return { c with style := some style }

end StoreTuning
