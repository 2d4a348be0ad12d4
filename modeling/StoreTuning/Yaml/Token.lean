import StoreTuning.Text.CodePoint
import StoreTuning.Value.Basic

/-!
# YAML: tokens

A document as a sequence of tokens. Indentation and implicit keys have become tokens of their own:
collections in block form are opened and closed, and each key is announced.
-/

namespace StoreTuning

/-- The text that code points make up. If not all of them are characters, it is known only by how it
prints. -/
def Scalar.ofCodes (ns : List Nat) : Scalar :=
  match ns.mapM Text.ofCode? with
  | some cs => .text (String.ofList cs)
  | none =>
    .other { quoted := Text.quotedCodes ns, text := String.ofList (Text.charsOfCodes ns) }

namespace Yaml

/-- A tag as it is written. -/
inductive TagName where
  /-- The whole name. -/
  | verbatim (name : String)
  /-- A name after a handle that stands for its beginning. -/
  | handled (handle suffix : String)
  deriving DecidableEq, Repr

/-- A directive at the start of a document. -/
inductive Directive where
  | version (major minor : Nat)
  /-- What a handle of tags stands for. -/
  | handle (handle stem : String)
  | other
  deriving DecidableEq, Repr

/-- A token. -/
inductive Token where
  | directive (d : Directive)
  | documentStart
  | documentEnd
  | blockSequence
  | blockMapping
  | blockEnd
  | flowSequence
  | flowSequenceEnd
  | flowMapping
  | flowMappingEnd
  /-- An item of a sequence in block form. -/
  | item
  /-- The separator of items in flow form. -/
  | comma
  | key
  | value
  | anchor (name : String)
  | alias (name : String)
  | tag (name : TagName)
  /-- The text of a scalar, and whether it stands without quotes. -/
  | scalar (plain : Bool) (text : Scalar)
  deriving DecidableEq, Repr

end Yaml

end StoreTuning
