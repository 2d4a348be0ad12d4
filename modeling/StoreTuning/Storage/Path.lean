/-!
# Paths

A path is a root, which is empty for a relative path, and the names after it. Repeated separators
and names that stay in place are dropped when a path is read; names that go up are kept. Exactly
two separators at the start are a root of their own.
-/

namespace StoreTuning

/-- A path in normal form. -/
structure Path where
  /-- The root: nothing, one separator, or two. -/
  root : String
  /-- The names after the root. -/
  names : List String
  deriving DecidableEq, Repr

namespace Path

/-- The pieces of some characters between separators. -/
def pieces : List Char → List (List Char)
  | [] => [[]]
  | c :: cs =>
    match c, pieces cs with
    | '/', ps => [] :: ps
    | _, [] => [[c]]
    | _, p :: ps => (c :: p) :: ps

/-- The root that characters start with. -/
def rootOf : List Char → String
  | '/' :: '/' :: '/' :: _ => "/"
  | '/' :: '/' :: _ => "//"
  | '/' :: _ => "/"
  | _ => ""

/-- The path that a text denotes. -/
def ofText (s : String) : Path where
  root := rootOf s.toList
  names := ((pieces s.toList).filter fun p => p != [] && p != ['.']).map String.ofList

/-- The text of a path; the path without names and root is the place where one is. -/
def text (p : Path) : String :=
  if p.root.isEmpty && p.names.isEmpty then "."
  else p.root ++ String.intercalate "/" p.names

/-- Whether the path starts at a root. -/
def isAbsolute (p : Path) : Bool :=
  !p.root.isEmpty

/-- The path one name shorter. -/
def parent (p : Path) : Path :=
  { p with names := p.names.dropLast }

/-- The last name. -/
def name (p : Path) : String :=
  p.names.getLast?.getD ""

/-- The ending of the last name, from its last dot on. A dot at either end of the name starts no
ending. -/
def suffix (p : Path) : String :=
  let reversed := p.name.toList.reverse
  let ending := reversed.takeWhile (· != '.')
  let before := (reversed.drop ending.length).drop 1
  if ending.isEmpty || before.isEmpty then "" else String.ofList ('.' :: ending.reverse)

example : (ofText "a//b/./c/").text = "a/b/c" := by decide +kernel
example : (ofText "//net/share").text = "//net/share" := by decide +kernel
example : (ofText "///x").text = "/x" := by decide +kernel
example : (ofText "").text = "." := by decide +kernel
example : (ofText "d/c.toml.yml").suffix = ".yml" := by decide +kernel
example : (ofText ".yaml").suffix = "" := by decide +kernel
example : (ofText "c.").suffix = "" := by decide +kernel

end Path

end StoreTuning
