import StoreTuning.Settings.Basic

/-!
# Flattening nested tables

A nested table becomes settings by joining the keys on the way to each leaf with dots. A leaf is any
value but a map, so lists are kept whole and empty maps leave nothing.
-/

namespace StoreTuning.Settings

/-- The path of a key below a path. Nothing is put before the keys of the top, nor before those of a
table whose own path is empty. -/
def joinPath (path key : String) : String :=
  if path.isEmpty then key else path ++ "." ++ key

mutual

/-- The leaves of a table in depth-first order, each with its path. -/
def leaves (path : String) : List (Scalar × Value) → List (String × Value)
  | [] => []
  | (k, v) :: es => leavesOf (joinPath path k.toText) v ++ leaves path es

/-- The leaves of a value at a path. -/
def leavesOf (path : String) : Value → List (String × Value)
  | .map es => leaves path es
  | .scalar s => [(path, .scalar s)]
  | .list xs => [(path, .list xs)]

end

/-- The settings that a nested table holds. -/
def ofNested (table : List (Scalar × Value)) : Settings :=
  ofPairs (leaves "" table)

mutual

/-- Whether every key of a table and of the tables in it can be printed. -/
def keysWithinDigitLimit : List (Scalar × Value) → Bool
  | [] => true
  | (k, v) :: es => k.withinDigitLimit && keysOfWithinDigitLimit v && keysWithinDigitLimit es

/-- Whether every key of the tables that a value is made of can be printed. -/
def keysOfWithinDigitLimit : Value → Bool
  | .map es => keysWithinDigitLimit es
  | .scalar _ => true
  | .list _ => true

end

end StoreTuning.Settings
