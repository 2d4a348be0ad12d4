import StoreTuning.Settings.File
import StoreTuning.Toml.Document
import StoreTuning.Yaml.Document

/-!
# Decoding settings files

The decoder of settings files: each format by its own reader. Two things about it are not in the
formats: the order in which sets are shown, and how deep tables may be nested so that there is room
for going down to the settings in them.
-/

namespace StoreTuning

namespace Value

mutual

/-- How many tables there are at most on a way down through tables only. -/
def tableDepth : Value → Nat
  | map es => entriesDepth es + 1
  | scalar _ => 0
  | list _ => 0

/-- The greatest depth of the values of entries. -/
def entriesDepth : List (Scalar × Value) → Nat
  | [] => 0
  | (_, v) :: es => max v.tableDepth (entriesDepth es)

end

end Value

/-- The calls that may be under way at a time. -/
def callLimit : Nat := 1000

/-- The calls that are under way when a run comes to the settings in a file. -/
def callsBefore : Nat := 15

/-- The value that a text in a format stands for, with sets shown in an order. A call goes down to
each table, so that tables are not nested deeper than there is room for calls. -/
def FileFormat.decodeWith (order : Yaml.SetOrder) : Decoder := fun format text => do
  let v ←
    match format with
    | .toml => Toml.read? text
    | .yaml => Yaml.read? order text
  if callsBefore + v.tableDepth ≤ callLimit then return v else none

/-- The value that a text in a format stands for. -/
def FileFormat.decode : Decoder :=
  decodeWith .written

end StoreTuning
