/-!
# Built-in values

The values that stand in for settings that are not given, and those of the profile for bulk loads.
Sizes are in bytes.
-/

namespace StoreTuning.Defaults

/-- The bytes of a kibibyte. -/
def kib : Int := 1024

/-- The bytes of a mebibyte. -/
def mib : Int := 1024 * kib

/-- The write buffers of a container. -/
def containerWriteBufferSize : Int := 32 * mib

/-- The block cache of a container. -/
def containerCacheSize : Int := 100 * mib

/-- Whether a write-ahead log is kept. -/
def walEnabled : Bool := false

/-- The codec. -/
def compression : String := "snappy"

/-- The size of a block before compression. -/
def blockSize : Int := 4096

/-- The write buffers of a store. -/
def writeBufferCount : Int := 3

/-- The size of one log file. -/
def maxLogFileSize : Int := 64 * mib

/-- The log files that are kept. -/
def keepLogFileCount : Int := 2

/-- Microseconds between removals of obsolete files: six hours. -/
def deleteObsoleteFilesPeriodMicros : Int := 21600000000

/-- The files that may be open; -1 is no limit. -/
def maxOpenFiles : Int := -1

/-- The threads that open files. -/
def maxFileOpeningThreads : Int := 16

/-- The size of a manifest file. -/
def maxManifestFileSize : Int := 1024 * mib

/-- The compaction family. -/
def compactionStyle : String := "universal"

/-- Compactions at the same time, for a key that is present without a value. -/
def maxBackgroundCompactions : Int := 4

/-- Flushes and compactions at the same time, for a key that is present without a value. -/
def maxBackgroundJobs : Int := 4

/-- Bulk load: the file count of level 0 that starts a compaction, slows writes or stops them. -/
def bulkLoadLevel0Trigger : Int := 0x40000000

/-- Bulk load: the bytes in one compaction. -/
def bulkLoadMaxCompactionBytes : Int := 0x1000000000000000

/-- Bulk load: the levels. -/
def bulkLoadNumLevels : Int := 2

/-- Bulk load: the write buffers. -/
def bulkLoadMaxWriteBufferNumber : Int := 6

/-- Bulk load: the write buffers merged in one flush. -/
def bulkLoadMinWriteBufferNumberToMerge : Int := 1

/-- Bulk load: the flushes at the same time. -/
def bulkLoadMaxBackgroundFlushes : Int := 4

/-- Bulk load: the compactions at the same time. -/
def bulkLoadMaxBackgroundCompactions : Int := 2

/-- Bulk load: the size of a file at level 1. -/
def bulkLoadTargetFileSizeBase : Int := 256 * mib

end StoreTuning.Defaults
