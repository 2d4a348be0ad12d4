import StoreTuning.Engine.Report
import StoreTuning.Text.Numeral
import StoreTuning.Text.Quoted

/-!
# Reports as JSON

The JSON text of a report: a field a line, two more spaces of indentation for each record around it,
and only ASCII characters.
-/

namespace StoreTuning

namespace Json

/-- A code unit of sixteen bits as an escape. -/
def escapeUnit (n : Nat) : List Char :=
  '\\' :: 'u' :: Text.hexPadded 4 n

/-- A character as an escape: one code unit, or two for a character that does not fit in one. -/
def escapeCode (c : Char) : List Char :=
  let n := c.toNat
  if n < 0x10000 then escapeUnit n
  else escapeUnit (0xD800 + (n - 0x10000) / 0x400) ++ escapeUnit (0xDC00 + (n - 0x10000) % 0x400)

/-- A character within a JSON string. -/
def escapeChar (c : Char) : List Char :=
  match c with
  | '\"' => ['\\', '\"']
  | '\\' => ['\\', '\\']
  | '\n' => ['\\', 'n']
  | '\r' => ['\\', 'r']
  | '\t' => ['\\', 't']
  | '\x08' => ['\\', 'b']
  | '\x0c' => ['\\', 'f']
  | c => if ' ' ≤ c && c ≤ '~' then [c] else escapeCode c

/-- A text as a JSON string. -/
def string (s : String) : List Char :=
  '\"' :: s.toList.flatMap escapeChar ++ ['\"']

/-- The start of a line within some records. -/
def newline (depth : Nat) : List Char :=
  '\n' :: List.replicate (2 * depth) ' '

end Json

namespace Report

mutual

/-- The JSON text of a report within some records. -/
def json (depth : Nat) : Report → List Char
  | null => "null".toList
  | flag b => if b then "true".toList else "false".toList
  | number n => (Text.Numeral.spell n).toList
  | text s => Json.string s
  | record [] => ['\x7b', '\x7d']
  | record (f :: fs) =>
    '\x7b' :: Json.newline (depth + 1) ++ jsonFields (depth + 1) (f :: fs) ++
      Json.newline depth ++ ['\x7d']

/-- The JSON texts of the fields of a record, separated by commas. -/
def jsonFields (depth : Nat) : List (String × Report) → List Char
  | [] => []
  | [(name, r)] => Json.string name ++ [':', ' '] ++ r.json depth
  | (name, r) :: fs =>
    Json.string name ++ [':', ' '] ++ r.json depth ++ ',' :: Json.newline depth ++
      jsonFields depth fs

end

/-- The JSON text of a report. -/
def toJson (r : Report) : String :=
  String.ofList (r.json 0)

example : toJson (.record [("a", .null), ("b", .record [("c", .number (-1))])]) =
    "\x7b\n  \"a\": null,\n  \"b\": \x7b\n    \"c\": -1\n  \x7d\n\x7d" := by decide +kernel

end Report

end StoreTuning
