import Std.Time.Format
import StoreTuning.Command.Run
import StoreTuning.Settings.Decode

/-!
# The program

The command over the files of the system: what a run depends on is read first, and what its
transcript says is written then.
-/

namespace StoreTuning.Command

/-- The code that comes with an error of the system. -/
def errorCode? : IO.Error → Option UInt32
  | .noFileOrDirectory _ n _ | .interrupted _ n _ => some n
  | .alreadyExists _ n _ | .invalidArgument _ n _ | .permissionDenied _ n _
  | .resourceExhausted _ n _ | .inappropriateType _ n _ | .noSuchThing _ n _ => some n
  | .otherError n _ | .resourceBusy n _ | .resourceVanished n _ | .unsupportedOperation n _
  | .hardwareFault n _ | .unsatisfiedConstraints n _ | .illegalOperation n _ | .protocolError n _
  | .timeExpired n _ => some n
  | .unexpectedEof | .userError _ => none

/-- The fault that an error of the system is. Some calls give the number of a fault negated. -/
def faultOf? (e : IO.Error) : Option Fault := do
  let n ← errorCode? e
  Fault.ofNumber? (min n.toNat (0 - n).toNat)

/-- Asks the system about a path. What is absent has an answer, and a known fault is an outcome. -/
def asking {α : Type} (path : String) (absent : α) (question : IO α) : IO (Except FileError α) := do
  try
    return .ok (← question)
  catch e =>
    match faultOf? e with
    | some f => return if f.meansAbsent then .ok absent else .error (.fault f path)
    | none => throw e

/-- The bytes of the file that a path leads to. -/
def readFile (p : Path) : IO (Except FileError (Option ByteArray)) :=
  asking p.text none (some <$> IO.FS.readBinFile p.text)

/-- Whether a path leads to a directory with an entry. -/
def probe (directory : String) : IO (Except FileError Bool) :=
  asking directory false do
    let place ← IO.FS.realPath directory
    if ← place.isDir then return !(← place.readDir).isEmpty else return false

/-- How the program is called. -/
def usage : String :=
  "usage: lsm-options [-h] [--tasks TASKS] [--store STORE] [--store-dir STORE_DIR]\n" ++
    "                   [--bulk-load] [--default-manifest-size DEFAULT_MANIFEST_SIZE]\n" ++
    "                   [--overrides-only] [-v]\n" ++
    "                   config"

/-- Runs the command with arguments that are in order. -/
def perform (a : Arguments) : IO UInt32 := do
  let content ← readFile a.config
  let present ←
    match a.options.bulkLoad, a.options.storeDirectory with
    | true, some directory => probe directory.text
    | _, _ => pure (.ok false)
  let world : Surroundings FileError := ⟨FileFormat.decode, fun _ => content, fun _ => present⟩
  let transcript := run world a
  let time := (← Std.Time.PlainDateTime.now).format "uuuu-MM-dd HH:mm:ss,SSS"
  for notice in transcript.notices do
    IO.eprintln (notice.text time)
  IO.print transcript.output
  match transcript.ending with
  | .status code => return code.toUInt32
  | .broken e => throw (IO.userError e.message)
  | .lacking p => throw (IO.userError ("no value for " ++ (Switch.parameter p).label))

end StoreTuning.Command

open StoreTuning.Command in
/-- Reads the arguments and runs the command. -/
def main (arguments : List String) : IO UInt32 := do
  match parse arguments with
  | .ok a => perform a
  | .error .help =>
    IO.println usage
    return 0
  | .error (.misuse e) =>
    IO.eprintln usage
    IO.eprintln ("lsm-options: error: " ++ e.message)
    return 2
