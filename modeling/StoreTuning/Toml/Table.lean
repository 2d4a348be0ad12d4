import StoreTuning.Value.Basic

/-!
# TOML: tables in the making

A document is read into a tree of tables. A table may be named only as a way to others, declared by
a header, or opened by dotted keys; an array of tables grows by one with each of its headers, and
names that go through it lead into its last table. A header declares a table once, and a key is
given once.
-/

namespace StoreTuning.Toml

/-- How a table came about. -/
inductive Origin where
  /-- Named on the way to another table. -/
  | implied
  /-- Declared by a header. -/
  | declared
  /-- Opened by dotted keys. -/
  | dotted
  deriving DecidableEq

/-- What a name in a table stands for. -/
inductive Item where
  | value (v : Value)
  | table (origin : Origin) (items : List (String × Item))
  /-- An array of tables: those that are finished, and the last one. -/
  | tables (finished : List (List (String × Item))) (last : List (String × Item))

/-- The items of a table. -/
abbrev Items := List (String × Item)

namespace Items

/-- The items with those of the table that names lead to changed. Tables missing on the way are
implied. -/
def within (f : Items → Option Items) : List String → Items → Option Items
  | [], items => f items
  | name :: names, items =>
    match items.lookup name with
    | none => do return Entries.insert name (.table .implied (← within f names [])) items
    | some (.table origin sub) => do
      return Entries.insert name (.table origin (← within f names sub)) items
    | some (.tables finished last) => do
      return Entries.insert name (.tables finished (← within f names last)) items
    | some (.value _) => none

/-- A table declared by its last name. -/
def declare (name : String) (items : Items) : Option Items :=
  match items.lookup name with
  | none => some (Entries.insert name (.table .declared []) items)
  | some (.table .implied sub) => some (Entries.insert name (.table .declared sub) items)
  | some _ => none

/-- A table added to the array under its last name. -/
def extend (name : String) (items : Items) : Option Items :=
  match items.lookup name with
  | none => some (Entries.insert name (.tables [] []) items)
  | some (.tables finished last) =>
    some (Entries.insert name (.tables (finished ++ [last]) []) items)
  | some _ => none

/-- A value put under dotted names. Tables that a header has declared cannot be reached this way. -/
def put (v : Value) : List String → Items → Option Items
  | [], _ => none
  | [name], items =>
    match items.lookup name with
    | none => some (Entries.insert name (.value v) items)
    | some _ => none
  | name :: names, items =>
    match items.lookup name with
    | none => do return Entries.insert name (.table .dotted (← put v names [])) items
    | some (.table .implied sub) | some (.table .dotted sub) => do
      return Entries.insert name (.table .dotted (← put v names sub)) items
    | some _ => none

end Items

mutual

/-- The value that an item is. -/
def Item.toValue : Item → Value
  | .value v => v
  | .table _ items => .map (entriesOf items)
  | .tables finished last => .list (tableValues finished ++ [.map (entriesOf last)])

/-- The values that tables are. -/
def tableValues : List Items → List Value
  | [] => []
  | t :: ts => .map (entriesOf t) :: tableValues ts

/-- The entries that items are. -/
def entriesOf : Items → List (Scalar × Value)
  | [] => []
  | (name, item) :: items => (.text name, item.toValue) :: entriesOf items

end

end StoreTuning.Toml
