import StoreTuning.Text.DecimalDigit
import StoreTuning.Text.Quoted

/-!
# The words of a command line

A word is an operand, an option, or the mark after which all words are operands. A long option may
be shortened as long as it is told apart from the others, and its value may be joined to it by an
equals sign; short options may be joined to each other.
-/

namespace StoreTuning.Command

/-- An option that takes no value. -/
inductive Flag where
  | help
  | bulkLoad
  | overridesOnly
  | verbose
  deriving DecidableEq, Repr

/-- An option that takes a value. -/
inductive Parameter where
  | tasks
  | store
  | storeDirectory
  | manifestSize
  deriving DecidableEq, Repr

/-- An option. -/
inductive Switch where
  | flag (f : Flag)
  | parameter (p : Parameter)
  deriving DecidableEq, Repr

/-- The options by their spellings. -/
def switches : List (String × Switch) := [
  ("-h", .flag .help),
  ("--help", .flag .help),
  ("--tasks", .parameter .tasks),
  ("--store", .parameter .store),
  ("--store-dir", .parameter .storeDirectory),
  ("--bulk-load", .flag .bulkLoad),
  ("--default-manifest-size", .parameter .manifestSize),
  ("--overrides-only", .flag .overridesOnly),
  ("-v", .flag .verbose),
  ("--verbose", .flag .verbose)]

/-- The name of an option in messages: all its spellings. -/
def Switch.label (s : Switch) : String :=
  String.intercalate "/" ((switches.filter (·.2 = s)).map (·.1))

/-- The flag with a short spelling of one letter. -/
def shortFlag? (c : Char) : Option Flag :=
  match switches.lookup (String.ofList ['-', c]) with
  | some (.flag f) => some f
  | _ => none

/-- A word of a command line. -/
inductive Word where
  | operand (text : String)
  /-- An option, whether it is spelt with a single dash, and what is joined to it. -/
  | option (s : Switch) (short : Bool) (joined : Option String)
  /-- What looks like an option and is none. -/
  | unknown (text : String)
  /-- The mark after which all words are operands. -/
  | separator
  deriving DecidableEq, Repr

/-- What is wrong with a command line. -/
inductive UsageError where
  | ambiguous (word : String) (candidates : List String)
  /-- An option lacks its value. -/
  | valueExpected (p : Parameter)
  /-- The value of an option is no integer. -/
  | integerExpected (p : Parameter) (text : String)
  /-- An option has a value and takes none. -/
  | valueUnexpected (f : Flag) (text : String)
  | configMissing
  | unrecognized (words : List String)
  deriving DecidableEq, Repr

/-- The text of the error. -/
def UsageError.message : UsageError → String
  | ambiguous word candidates =>
    "ambiguous option: " ++ word ++ " could match " ++ String.intercalate ", " candidates
  | valueExpected p => "argument " ++ (Switch.parameter p).label ++ ": expected one argument"
  | integerExpected p text =>
    "argument " ++ (Switch.parameter p).label ++ ": invalid int value: " ++ Text.quoted text
  | valueUnexpected f text =>
    "argument " ++ (Switch.flag f).label ++ ": ignored explicit argument " ++ Text.quoted text
  | configMissing => "the following arguments are required: config"
  | unrecognized words => "unrecognized arguments: " ++ String.intercalate " " words

/-- The characters before the first equals sign, and those after it if there is one. -/
def splitJoined : List Char → List Char × Option (List Char)
  | [] => ([], none)
  | c :: cs =>
    if c = '=' then ([], some cs)
    else
      let (name, joined) := splitJoined cs
      (c :: name, joined)

/-- Decimal digits of any script, at least one. -/
def isDigits (cs : List Char) : Bool :=
  !cs.isEmpty && cs.all fun c => (Text.digitValue? c).isSome

/-- A negative number, whole or with a point; a line feed may end it. -/
def isNegativeNumber : List Char → Bool
  | '-' :: cs =>
    let cs := if cs.getLast? = some '\n' then cs.dropLast else cs
    let whole := cs.takeWhile (· != '.')
    match cs.dropWhile (· != '.') with
    | [] => isDigits whole
    | _ :: fraction => (whole.isEmpty || isDigits whole) && isDigits fraction
  | _ => false

/-- The long options that a shortened one may stand for. -/
def candidates (stem : List Char) : List (String × Switch) :=
  switches.filter fun s => stem.isPrefixOf s.1.toList

/-- The option that a word with two dashes or one stands for, if it is not spelt out in full. -/
def abbreviation? (text : String) : Except UsageError (Option Word) :=
  match text.toList with
  | '-' :: '-' :: cs =>
    let (name, joined) := splitJoined cs
    match candidates ('-' :: '-' :: name) with
    | [] => .ok none
    | [(_, s)] => .ok (some (.option s false (joined.map String.ofList)))
    | several => .error (.ambiguous text (several.map (·.1)))
  | '-' :: c :: cs =>
    .ok ((shortFlag? c).map fun f => .option (.flag f) true (some (String.ofList cs)))
  | _ => .ok none

/-- Whether a spelling has a single dash. -/
def isShort (spelling : String) : Bool :=
  !"--".isPrefixOf spelling

/-- The option that is spelt out in full before an equals sign, or as the whole word. -/
def spelledOut? (text : String) : Option Word :=
  match switches.lookup text with
  | some s => some (.option s (isShort text) none)
  | none =>
    match splitJoined text.toList with
    | (name, some joined) =>
      (switches.lookup (String.ofList name)).map fun s =>
        .option s (isShort text) (some (String.ofList joined))
    | (_, none) => none

/-- What a word is that stands before the mark for operands. A single dash is an operand, and so is
what starts with a dash, is no option, and is a negative number or holds a space. -/
def classify (text : String) : Except UsageError Word := do
  if !"-".isPrefixOf text || text = "-" then return .operand text
  else if let some word := spelledOut? text then return word
  else if let some word ← abbreviation? text then return word
  else if isNegativeNumber text.toList || text.contains ' ' then return .operand text
  else return .unknown text

/-- The words of a command line. -/
def words : List String → Except UsageError (List Word)
  | [] => .ok []
  | text :: rest =>
    if text = "--" then .ok (.separator :: rest.map .operand)
    else do
      let word ← classify text
      return word :: (← words rest)

example : words ["--over", "--", "-v"] =
    .ok [.option (.flag .overridesOnly) false none, .separator, .operand "-v"] := by cbv
example : classify "--store=" = .ok (.option (.parameter .store) false (some "")) := by
  cbv
example : classify "--sto" = .error (.ambiguous "--sto" ["--store", "--store-dir"]) := by
  cbv
example : classify "-1.5" = .ok (.operand "-1.5") := by cbv
example : classify "-vx" = .ok (.option (.flag .verbose) true (some "x")) := by cbv

end StoreTuning.Command
