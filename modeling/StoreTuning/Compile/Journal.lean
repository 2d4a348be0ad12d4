import StoreTuning.Value.Printer

/-!
# The journal

What a compilation reports while it runs: which values tables assigned, which choices were replaced,
and what was decided about a bulk load. Each record goes to a channel and has a level.
-/

namespace StoreTuning

/-- How much a record matters. -/
inductive Level where
  | debug
  | info
  | warning
  | error
  deriving DecidableEq, Repr

namespace Level

/-- The name of the level. -/
def name : Level → String
  | debug => "DEBUG"
  | info => "INFO"
  | warning => "WARNING"
  | error => "ERROR"

/-- The rank of the level, higher for what matters more. -/
def rank : Level → Nat
  | debug => 10
  | info => 20
  | warning => 30
  | error => 40

end Level

/-- Where a record goes: to the channel of a part of the library, or to one that the caller
names. -/
inductive Channel where
  | choices
  | optionTable
  | compiler
  | bulkLoad
  | named (name : String)
  deriving DecidableEq, Repr

/-- Something worth a record. -/
inductive Event where
  /-- A table assigned the value of a key to a field of a record. -/
  | assigned (key recordName field : String) (value : Scalar)
  /-- A configured choice is unknown, and a member stands in for it. -/
  | substituted (key raw memberName : String)
  /-- A bulk load was asked for where a store is present. -/
  | storePresent (directory : String)
  /-- The options are prepared for a bulk load. -/
  | preparing (directory : String)
  deriving DecidableEq, Repr

namespace Event

/-- The level of an event. -/
def level : Event → Level
  | assigned .. => .debug
  | substituted .. => .warning
  | storePresent _ => .debug
  | preparing _ => .info

/-- The text of an event. -/
def message : Event → String
  | assigned key recordName field value =>
    key ++ " -> " ++ recordName ++ "." ++ field ++ " = " ++ value.quoted
  | substituted key raw memberName =>
    "Unknown " ++ key ++ " " ++ raw ++ ", overwriting to " ++ memberName
  | storePresent directory =>
    "Store already present at " ++ directory ++ ", skipping bulk-load preparation"
  | preparing directory => "Using prepare_for_bulk_load for restore to " ++ directory

end Event

/-- An event on a channel. -/
structure Record where
  channel : Channel
  event : Event
  deriving DecidableEq, Repr

end StoreTuning
