import StoreTuning.Compile.Options

/-!
# The keys of a compilation

The keys under which a compilation looks, and those of universal compaction among them.
-/

namespace StoreTuning

/-- The keys of universal compaction. -/
def universalKeys : List String := [
  "compaction.universal.max.size.amplification.percent",
  "compaction.universal.size.ratio",
  "compaction.universal.min.merge.width",
  "compaction.universal.max.merge.width",
  "compaction.universal.compaction.stop.style"]

/-- The keys that are looked up whatever the compaction family. -/
def commonKeys : List String := [
  "wal.enabled",
  "container.write.buffer.size.bytes",
  "container.cache.size.bytes",
  "compression",
  "block.size.bytes",
  "compaction.num.levels",
  "compaction.level0.file.num.compaction.trigger",
  "compaction.max.background.compactions",
  "compaction.target.file.size.base",
  "compaction.target.file.size.multiplier",
  "max.background.jobs",
  "compaction.style",
  "num.write.buffers",
  "max.log.file.size.bytes",
  "keep.log.file.num",
  "delete.obsolete.files.period.micros",
  "max.open.files",
  "max.file.opening.threads",
  "max.manifest.file.size"]

/-- The keys of a compilation. -/
def compilerKeys : List String :=
  commonKeys ++ universalKeys

/-- No key is listed twice. -/
theorem nodup_compilerKeys : compilerKeys.Nodup := by decide

example : compilerKeys.length = 24 := rfl

end StoreTuning
