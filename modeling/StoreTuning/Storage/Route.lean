import StoreTuning.Storage.Path

/-!
# Routes

The way that the text of a path leads, step by step as it is written: a step may stay in place or go
up, and a separator at the end asks for a directory. A text is split before its last step where the
directories above it are to be made.
-/

namespace StoreTuning

/-- The way that the text of a path leads. -/
structure Route where
  isAbsolute : Bool
  /-- The names between separators. -/
  steps : List String
  /-- Whether a separator comes last, so that only a directory will do. -/
  endsOpen : Bool
  deriving DecidableEq, Repr

namespace Route

/-- The way that a text leads. -/
def ofText (s : String) : Route where
  isAbsolute := s.toList.head? = some '/'
  steps := ((Path.pieces s.toList).filter (· != [])).map String.ofList
  endsOpen := s.toList.getLast? = some '/'

/-- The way to the directory that the last step is taken in. -/
def above (r : Route) : Route :=
  { r with steps := r.steps.dropLast ++ ["."], endsOpen := false }

/-- Characters before and after their last separator. The separators before the last step are
dropped, unless there is nothing else before it. -/
def splitLast (cs : List Char) : List Char × List Char :=
  let last := (cs.reverse.takeWhile (· != '/')).reverse
  let before := cs.take (cs.length - last.length)
  let trimmed := (before.reverse.dropWhile (· == '/')).reverse
  (if trimmed.isEmpty then before else trimmed, last)

/-- The text of a path before its last step, and the last step. Separators at the end are no
step. -/
def split (s : String) : String × String :=
  let (before, last) := splitLast s.toList
  let (before, last) := if last.isEmpty then splitLast before else (before, last)
  (String.ofList before, String.ofList last)

example : split "a//b/./c//" = ("a//b/.", "c") := by decide +kernel
example : split "/x" = ("/", "x") := by decide +kernel
example : ofText "./d/" = ⟨false, [".", "d"], true⟩ := by decide +kernel

end Route

end StoreTuning
