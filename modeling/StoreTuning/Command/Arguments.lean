import StoreTuning.Command.Word
import StoreTuning.Engine.Defaults
import StoreTuning.Storage.Path
import StoreTuning.Text.Numeral

/-!
# The arguments of the command

What a command line asks for: the settings file, which is the one operand, and the options. Options
are carried out in their order, so a later one overrides an earlier one, and a call for help ends
the reading. Two dashes joined to an option leave it without a value.
-/

namespace StoreTuning.Command

/-- What the options ask for. -/
structure Options where
  /-- The tasks that share the budgets. -/
  tasks : Option Int := some 1
  /-- The store whose view is compiled. -/
  store : Option String := none
  storeDirectory : Option Path := some (Path.ofText ".")
  bulkLoad : Bool := false
  /-- The manifest limit where the settings have none. -/
  manifestSize : Option Int := some Defaults.maxManifestFileSize
  overridesOnly : Bool := false
  verbose : Bool := false
  deriving DecidableEq, Repr

/-- What a command line asks for. -/
structure Arguments where
  /-- The settings file. -/
  config : Path
  options : Options
  deriving DecidableEq, Repr

/-- Why a command line is not carried out. -/
inductive Stop where
  | help
  | misuse (e : UsageError)
  deriving DecidableEq, Repr

/-- A reading of a command line so far. -/
structure Draft where
  config : Option String := none
  options : Options := {}
  /-- The words that belong to nothing. -/
  leftOver : List String := []

namespace Draft

/-- Leaves a word over. -/
def leave (text : String) (d : Draft) : Draft :=
  { d with leftOver := d.leftOver ++ [text] }

/-- Takes an operand: the first is the settings file, and further ones belong to nothing. -/
def operand (text : String) (d : Draft) : Draft :=
  if d.config.isNone then { d with config := some text } else d.leave text

/-- Carries a flag out. -/
def raise (d : Draft) : Flag → Except Stop Draft
  | .help => .error .help
  | .bulkLoad => .ok { d with options.bulkLoad := true }
  | .overridesOnly => .ok { d with options.overridesOnly := true }
  | .verbose => .ok { d with options.verbose := true }

end Draft

/-- Whether a text stands for no value. -/
def isNoValue (text : String) : Bool :=
  text = "--"

/-- The value of an option that is an integer. -/
def integerOf (p : Parameter) (text : String) : Except Stop (Option Int) :=
  if isNoValue text then .ok none
  else
    match Text.Numeral.parseStrict? text with
    | some n => .ok (some n)
    | none => .error (.misuse (.integerExpected p text))

/-- The value of an option that is a text. -/
def textOf? (text : String) : Option String :=
  if isNoValue text then none else some text

/-- Gives an option a value. -/
def Draft.assign (d : Draft) (p : Parameter) (text : String) : Except Stop Draft :=
  match p with
  | .tasks => return { d with options.tasks := ← integerOf p text }
  | .store => return { d with options.store := textOf? text }
  | .storeDirectory => return { d with options.storeDirectory := (textOf? text).map Path.ofText }
  | .manifestSize => return { d with options.manifestSize := ← integerOf p text }

/-- The flags that a short one and the letters joined to it stand for. -/
def joinedFlags (f : Flag) : List Char → Except UsageError (List Flag)
  | [] => .ok [f]
  | c :: cs =>
    match shortFlag? c with
    | some g => (joinedFlags g cs).map (f :: ·)
    | none => .error (.valueUnexpected f (String.ofList (c :: cs)))

/-- The flags that one stands for, given what is joined to it. -/
def flagsOf (f : Flag) (short : Bool) : Option String → Except UsageError (List Flag)
  | none => .ok [f]
  | some text =>
    if short && !text.isEmpty then joinedFlags f text.toList
    else .error (.valueUnexpected f text)

/-- Reads words. The settings file takes along the mark for operands on one side of it. -/
def Draft.read : List Word → Draft → Except Stop Draft
  | [], d => .ok d
  | .operand text :: .separator :: ws, d =>
    if d.config.isNone then Draft.read ws (d.operand text)
    else Draft.read (.separator :: ws) (d.operand text)
  | .operand text :: ws, d => Draft.read ws (d.operand text)
  | .separator :: .operand text :: ws, d =>
    if d.config.isNone then Draft.read ws (d.operand text)
    else Draft.read (.operand text :: ws) (d.leave "--")
  | .separator :: ws, d => Draft.read ws (d.leave "--")
  | .unknown text :: ws, d => Draft.read ws (d.leave text)
  | .option (.flag f) short joined :: ws, d => do
    let flags ← (flagsOf f short joined).mapError .misuse
    Draft.read ws (← flags.foldlM Draft.raise d)
  | .option (.parameter p) _ (some text) :: ws, d => do
    Draft.read ws (← d.assign p text)
  | .option (.parameter p) _ none :: .operand text :: ws, d => do
    Draft.read ws (← d.assign p text)
  | .option (.parameter p) _ none :: _, _ => .error (.misuse (.valueExpected p))

/-- What a finished reading asks for. -/
def Draft.finish (d : Draft) : Except UsageError Arguments :=
  match d.config with
  | none => .error .configMissing
  | some config =>
    if d.leftOver.isEmpty then .ok ⟨Path.ofText config, d.options⟩
    else .error (.unrecognized d.leftOver)

/-- What a command line asks for. -/
def parse (arguments : List String) : Except Stop Arguments := do
  let ws ← (words arguments).mapError .misuse
  let d ← Draft.read ws {}
  d.finish.mapError .misuse

example : joinedFlags .verbose ['v', 'x'] = .error (.valueUnexpected .verbose "x") := by
  cbv
example : parse ["c.toml", "--tasks", "2", "--tasks=3"] =
    .ok ⟨Path.ofText "c.toml", { tasks := some 3 }⟩ := by cbv
example : parse ["-v", "--", "-"] = .ok ⟨Path.ofText "-", { verbose := true }⟩ := by
  cbv
example : parse ["-h", "--tasks", "x"] = .error .help := by cbv

end StoreTuning.Command
