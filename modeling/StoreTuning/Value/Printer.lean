import StoreTuning.Number.Shortest
import StoreTuning.Text.Quoted
import StoreTuning.Value.Basic

/-!
# The text of values

A value has two texts. `Value.quoted` shows it so that its kind can be told, texts in quotes and the
parts of lists and maps in turn. `Value.toText` is the same, but for a text it is the text itself.
-/

namespace StoreTuning

namespace Scalar

/-- A scalar as messages show it. -/
def quoted : Scalar → String
  | null => "None"
  | bool b => if b then "True" else "False"
  | int n => Text.Numeral.spell n
  | float x => x.text
  | text s => Text.quoted s
  | other f => f.quoted

/-- A scalar as text. -/
def toText : Scalar → String
  | text s => s
  | other f => f.text
  | s => s.quoted

end Scalar

namespace Value

mutual

/-- A value as messages show it. -/
def quoted : Value → String
  | scalar s => s.quoted
  | list xs => "[" ++ quotedItems xs ++ "]"
  | map es => "\x7b" ++ quotedEntries es ++ "\x7d"

/-- The items of a list, separated by commas. -/
def quotedItems : List Value → String
  | [] => ""
  | [x] => x.quoted
  | x :: xs => x.quoted ++ ", " ++ quotedItems xs

/-- The entries of a map, separated by commas. -/
def quotedEntries : List (Scalar × Value) → String
  | [] => ""
  | [(k, v)] => k.quoted ++ ": " ++ v.quoted
  | (k, v) :: es => k.quoted ++ ": " ++ v.quoted ++ ", " ++ quotedEntries es

end

/-- A value as text. -/
def toText : Value → String
  | scalar s => s.toText
  | v => v.quoted

example : quoted (list [int 1, text "a", map [(.null, float (.finite false Binary64.one))]]) =
    "[1, 'a', \x7bNone: 1.0\x7d]" := by decide +kernel

end Value

end StoreTuning
