import StoreTuning.Settings.Flatten
import StoreTuning.Settings.Lookup
import StoreTuning.Storage.Fault
import StoreTuning.Storage.Path

/-!
# Settings files

A settings file is a text in one of two formats, told apart by the ending of its name, with a table
at the top. Reading a file and decoding a text are the caller's (`FileReader`, `Decoder`); what is
settled here is what becomes of their answers (`Settings.ofTop`, `Settings.load`).
-/

namespace StoreTuning

/-- A format of settings files. -/
inductive FileFormat where
  | toml
  | yaml
  deriving DecidableEq, Repr

namespace FileFormat

/-- The name of the format. -/
def name : FileFormat → String
  | toml => "TOML"
  | yaml => "YAML"

/-- The format of the file that a path names. -/
def ofPath (p : Path) : FileFormat :=
  if p.suffix = ".yaml" || p.suffix = ".yml" then yaml else toml

end FileFormat

/-- How a text in a format is decoded. -/
abbrev Decoder := FileFormat → String → Option Value

/-- How the bytes of a file are read; nothing is read where there is no file. -/
abbrev FileReader := Path → Except FileError (Option ByteArray)

/-- Why a settings file gives no settings. -/
inductive LoadError where
  /-- There is nothing at the path. -/
  | missing (p : Path)
  /-- The file cannot be read. -/
  | file (e : FileError)
  /-- The bytes of the file are no text. -/
  | notText
  /-- The text does not follow its format. -/
  | malformed (format : FileFormat)
  /-- What the text stands for is no table. -/
  | notTable (p : Path)
  /-- A key is an integer that is too long to print. -/
  | unprintable
  deriving DecidableEq, Repr

/-- The text of the error. -/
def LoadError.message : LoadError → String
  | missing p => "Config file not found: " ++ p.text
  | file e => e.message
  | notText => "The file is not in UTF-8"
  | malformed format => "The file is not well-formed " ++ format.name
  | notTable p => "Expected a table at the top of " ++ p.text
  | unprintable => LookupError.unprintableMessage

/-- Characters with every kind of line end as a line feed. -/
def lineFeeds : List Char → List Char
  | '\r' :: '\n' :: cs => '\n' :: lineFeeds cs
  | '\r' :: cs => '\n' :: lineFeeds cs
  | c :: cs => c :: lineFeeds cs
  | [] => []

/-- The text that bytes hold. -/
def textOf? (bytes : ByteArray) : Option String :=
  (String.fromUTF8? bytes).map fun s => String.ofList (lineFeeds s.toList)

/-- The value to take for the top of a document. Any empty value in YAML stands for an empty
table. -/
def FileFormat.top (format : FileFormat) (v : Value) : Value :=
  match format with
  | .toml => v
  | .yaml => if v.isEmpty then .map [] else v

namespace Settings

/-- The settings that a document holds, given the value at its top. -/
def ofTop (p : Path) : Value → Except LoadError Settings
  | .map table => if keysWithinDigitLimit table then .ok (ofNested table) else .error .unprintable
  | _ => .error (.notTable p)

/-- The settings that a text holds. -/
def ofText (decode : Decoder) (p : Path) (text : String) : Except LoadError Settings :=
  let format := FileFormat.ofPath p
  match decode format text with
  | some v => ofTop p (format.top v)
  | none => .error (.malformed format)

/-- The settings that the file at a path holds. -/
def load (decode : Decoder) (read : FileReader) (p : Path) : Except LoadError Settings :=
  match read p with
  | .error e => .error (.file e)
  | .ok none => .error (.missing p)
  | .ok (some bytes) =>
    match textOf? bytes with
    | none => .error .notText
    | some text => ofText decode p text

end Settings

example : FileFormat.ofPath (Path.ofText "d/c.yml") = .yaml := by decide +kernel
example : FileFormat.ofPath (Path.ofText ".yaml") = .toml := by decide +kernel

end StoreTuning
