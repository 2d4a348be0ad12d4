import StoreTuning.Compile.Attempt
import StoreTuning.Engine.Choice
import StoreTuning.Engine.Defaults
import StoreTuning.Settings.Lookup

/-!
# Choices by name

A setting that names a member of an enumeration. An unknown name is no error: a fallback stands in
for it, and a warning says so. Only the stop style of universal compaction has to be known.
-/

namespace StoreTuning

variable {ε α : Type} [Choice α]

/-- The member that was selected, or else the fallback, with a warning that names it. -/
def chooseOr (channel : Channel) (key : String) (raw : Value) (selected? : Option α)
    (fallback : α) : Attempt ε α :=
  match selected? with
  | some m => pure m
  | none => do
    Attempt.log channel (.substituted key raw.toText (Choice.memberName fallback))
    return fallback

/-- Names that select members, among them the name of the member that stands in for what is no
name. -/
structure NameTable (α : Type) where
  names : List (String × α)
  default : String
  /-- The default is one of the names. -/
  named : (names.lookup default).isSome = true

namespace NameTable

/-- The member that stands in for what is no name. -/
def fallback (t : NameTable α) : α :=
  (t.names.lookup t.default).get t.named

/-- The member that a value names, or else the one that the default names. -/
def resolve (t : NameTable α) (channel : Channel) (key : String) (raw : Value) : Attempt ε α :=
  chooseOr channel key raw (raw.text?.bind (t.names.lookup ·)) t.fallback

end NameTable

/-- The member that a value names among given choices, or else the one with the name of the
fallback. It is an error if that one is needed and not among the choices. -/
def resolveChoice (channel : Channel) (key : String) (raw : Value) (choices : List (String × α))
    (fallback : String) : Attempt String α :=
  if named : (choices.lookup fallback).isSome then
    NameTable.resolve ⟨choices, fallback, named⟩ channel key raw
  else
    match raw.text?.bind (choices.lookup ·) with
    | some m => pure m
    | none => Attempt.ofExcept (.error fallback)

/-- The text of a choice. A key that is present without a value gives blank text, which names
nothing; only an absent key gives the default. -/
def Settings.readChoice (s : Settings) (key default : String) : Except LookupError String :=
  if s.contains key then s.getText key (some (.text "")) else .ok default

/-- The names of the codecs. -/
def compressionCodecs : NameTable Compression where
  names := [("snappy", .snappy), ("bzip2", .bzip2), ("zlib", .zlib), ("lz4", .lz4),
    ("lz4hc", .lz4hc), ("none", .none)]
  default := Defaults.compression
  named := rfl

/-- The names of the compaction families. -/
def compactionStyles : NameTable CompactionStyle where
  names := [("universal", .universal), ("fifo", .fifo), ("level", .level)]
  default := Defaults.compactionStyle
  named := rfl

/-- The codec that stands in for an unknown one. -/
def fallbackCompression : Compression := compressionCodecs.fallback

/-- The compaction family that stands in for an unknown one. -/
def fallbackStyle : CompactionStyle := compactionStyles.fallback

/-- The codec that a value names. -/
def resolveCompression (channel : Channel) (key : String) (raw : Value) : Attempt ε Compression :=
  compressionCodecs.resolve channel key raw

/-- The compaction family that a value names. -/
def resolveStyle (channel : Channel) (key : String) (raw : Value) : Attempt ε CompactionStyle :=
  compactionStyles.resolve channel key raw

/-- Names that are the values of the members they select, one for each member, select what the value
of a member does. -/
theorem lookup_eq_ofText? {names : List (String × α)}
    (hnames : ∀ p ∈ names, p.2 ∈ (Choice.members : List α) ∧ Choice.value p.2 = p.1)
    (hmembers : ∀ m ∈ (Choice.members : List α), names.lookup (Choice.value m) = some m)
    (s : String) : names.lookup s = Choice.ofText? s := by
  cases h : (Choice.ofText? s : Option α) with
  | some m =>
    have hvalue : Choice.value m = s := by simpa using List.find?_some h
    rw [← hvalue, hmembers m (List.mem_of_find?_eq_some h)]
  | none =>
    have hnone := List.find?_eq_none.1 h
    refine List.lookup_eq_none_iff.2 fun p hp => ?_
    obtain ⟨hmem, hvalue⟩ := hnames p hp
    have hne : ¬ (p.1 == s) = true := hvalue ▸ hnone p.2 hmem
    rw [bne_iff_ne]
    exact fun heq => hne (beq_iff_eq.2 heq.symm)

/-- The names of the codecs are their values. -/
theorem lookup_compressionCodecs (s : String) :
    compressionCodecs.names.lookup s = Choice.ofText? s :=
  lookup_eq_ofText? (by decide) (by decide) s

/-- The names of the compaction families are their values. -/
theorem lookup_compactionStyles (s : String) :
    compactionStyles.names.lookup s = Choice.ofText? s :=
  lookup_eq_ofText? (by decide) (by decide) s

/-- The default codec is the one that stands in for unknown ones. -/
theorem ofText?_default_compression :
    Choice.ofText? Defaults.compression = some fallbackCompression := by decide

/-- The default family is the one that stands in for unknown ones. -/
theorem ofText?_default_compactionStyle :
    Choice.ofText? Defaults.compactionStyle = some fallbackStyle := by decide

/-- The stop style that a text names, by the engine's name for it or by the member's own. Blank text
leaves the engine's default. -/
def parseStopStyle (raw key : String) : Except LookupError (Option StopStyle) :=
  let name := Text.strip raw
  if name.isEmpty then .ok none
  else
    let styles : List StopStyle := Choice.members
    match styles.find? fun m => name == Choice.value m || name == Choice.memberName m with
    | some m => .ok (some m)
    | none => .error (.reject key (.text raw) (.oneOf (styles.map Choice.value)))

end StoreTuning
