import StoreTuning.Command.Arguments
import StoreTuning.Compile.Options
import StoreTuning.Engine.Json
import StoreTuning.Settings.File
import StoreTuning.Settings.View

/-!
# The run of the command

The command loads the settings file, compiles it, and prints the options as JSON. What it depends
on is given as functions (`Surroundings`), and all that it does is in its `Transcript`: how it
ends, what it prints, and the notices on the way.
-/

namespace StoreTuning.Command

/-- What a run depends on. -/
structure Surroundings (ε : Type) where
  /-- How texts are decoded. -/
  decode : Decoder
  /-- How files are read. -/
  read : FileReader
  /-- Whether a directory holds a store. -/
  holdsStore : String → Except ε Bool

/-- Something said beside the output. -/
inductive Notice where
  /-- A record of the journal. -/
  | record (r : Record)
  /-- The settings file gave no settings. -/
  | loadFailure (e : LoadError)
  /-- The settings did not compile, with the reason. -/
  | compileFailure (reason : String)
  deriving DecidableEq, Repr

/-- The text of a notice, given the time. -/
def Notice.text (time : String) : Notice → String
  | record r => time ++ " | " ++ r.event.level.name ++ " | " ++ r.event.message
  | loadFailure e => "Error loading config: " ++ e.message
  | compileFailure reason => "Error compiling options: " ++ reason

/-- How a run ends. -/
inductive Ending (ε : Type) where
  /-- With an exit status. -/
  | status (code : Nat)
  /-- With an error of the surroundings. -/
  | broken (e : ε)
  /-- With an option that has no value where one is needed. -/
  | lacking (p : Parameter)
  deriving DecidableEq, Repr

/-- All that a run does. -/
structure Transcript (ε : Type) where
  ending : Ending ε
  output : String
  notices : List Notice
  deriving DecidableEq, Repr

/-- The least level of the records that are shown. -/
def Options.threshold (o : Options) : Level :=
  if o.verbose then .debug else .info

/-- Whether a record is shown from a level on. -/
def isShown (threshold : Level) (r : Record) : Bool :=
  threshold.rank ≤ r.event.level.rank

/-- The mode to open the store in. -/
def Options.mode (o : Options) : OpenMode :=
  if o.bulkLoad then .bulkLoad else .normal

/-- The settings to compile: those of a store, if one is named, or all. -/
def Options.view (o : Options) (s : Settings) : Settings :=
  match o.store with
  | some name => if name.isEmpty then s else s.storeView name
  | none => s

/-- The report to print. -/
def Options.report (o : Options) (compiled : EngineOptions) : Report :=
  if o.overridesOnly then compiled.overridesReport else compiled.report

/-- The manifest limit where the settings have none. Without a value it is the empty list. -/
def Options.manifestDefault (o : Options) : Value :=
  match o.manifestSize with
  | some n => .int n
  | none => .list []

variable {ε : Type}

/-- The answer to whether a store is present, or how the run ends instead. -/
def Options.presence (o : Options) (holdsStore : String → Except ε Bool) (directory : String) :
    Except (Ending ε) Bool :=
  if o.storeDirectory.isSome then (holdsStore directory).mapError .broken
  else .error (.lacking .storeDirectory)

/-- The attempt to compile settings. Without a number of tasks there are none. -/
def Options.compile (o : Options) (holdsStore : String → Except ε Bool) (s : Settings) :
    Attempt (CompileError (Ending ε)) EngineOptions :=
  StoreTuning.compile .compiler (o.view s) (o.tasks.getD 0) o.manifestDefault
    ((o.storeDirectory.map Path.text).getD "") o.mode (o.presence holdsStore)

/-- How a run ends whose settings do not compile, and what is said of it. It needs a number of tasks
where it shares a budget. -/
def Options.failure (o : Options) : CompileError (Ending ε) → Ending ε × List Notice
  | .lookup e => (.status 1, [.compileFailure e.message])
  | .budget e =>
    match o.tasks, e with
    | none, .taskCount _ => (.lacking .tasks, [])
    | _, _ => (.status 1, [.compileFailure e.message])
  | .presence ending => (ending, [])

/-- The transcript that an attempt to compile leads to. -/
def conclude (o : Options) (attempt : Attempt (CompileError (Ending ε)) EngineOptions) :
    Transcript ε :=
  let shown := (attempt.records.filter (isShown o.threshold)).map Notice.record
  match attempt.outcome with
  | .ok compiled => ⟨.status 0, (o.report compiled).toJson ++ "\n", shown⟩
  | .error e =>
    let (ending, said) := o.failure e
    ⟨ending, "", shown ++ said⟩

/-- The run of the command. -/
def run (world : Surroundings ε) (a : Arguments) : Transcript ε :=
  match Settings.load world.decode world.read a.config with
  | .error e => ⟨.status 2, "", [.loadFailure e]⟩
  | .ok s => conclude a.options (a.options.compile world.holdsStore s)

end StoreTuning.Command
