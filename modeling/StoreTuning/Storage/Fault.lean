import StoreTuning.Text.Quoted

/-!
# Faults of a file system

Why a file system refuses an operation, and which path it was refused for.
-/

namespace StoreTuning

/-- Why a file system refuses an operation. -/
inductive Fault where
  | noEntry
  | accessDenied
  | busy
  | alreadyThere
  | notDirectory
  | isDirectory
  | invalidArgument
  | nameTooLong
  | notEmpty
  | loop
  deriving DecidableEq, Repr

namespace Fault

/-- The number of the fault. -/
def number : Fault → Nat
  | noEntry => 2
  | accessDenied => 13
  | busy => 16
  | alreadyThere => 17
  | notDirectory => 20
  | isDirectory => 21
  | invalidArgument => 22
  | nameTooLong => 36
  | notEmpty => 39
  | loop => 40

/-- The words for the fault. -/
def words : Fault → String
  | noEntry => "No such file or directory"
  | accessDenied => "Permission denied"
  | busy => "Device or resource busy"
  | alreadyThere => "File exists"
  | notDirectory => "Not a directory"
  | isDirectory => "Is a directory"
  | invalidArgument => "Invalid argument"
  | nameTooLong => "File name too long"
  | notEmpty => "Directory not empty"
  | loop => "Too many levels of symbolic links"

/-- The fault with a number. -/
def ofNumber? (n : Nat) : Option Fault :=
  [noEntry, accessDenied, busy, alreadyThere, notDirectory, isDirectory, invalidArgument,
    nameTooLong, notEmpty, loop].find? (·.number == n)

/-- Whether the fault only means that there is nothing of the kind that was looked for. -/
def meansAbsent : Fault → Bool
  | noEntry | notDirectory | loop => true
  | _ => false

end Fault

/-- A refusal: the fault and the path, with the text of a link that was to be made there. -/
inductive FileError where
  | fault (f : Fault) (path : String)
  | linkFault (f : Fault) (target path : String)
  /-- The path holds a character that no file name can hold. -/
  | nullCharacter
  deriving DecidableEq, Repr

namespace FileError

/-- The text of the refusal. -/
def message : FileError → String
  | fault f path => "[Errno " ++ f.number.repr ++ "] " ++ f.words ++ ": " ++ Text.quoted path
  | linkFault f target path =>
    "[Errno " ++ f.number.repr ++ "] " ++ f.words ++ ": " ++ Text.quoted target ++ " -> " ++
      Text.quoted path
  | nullCharacter => "embedded null byte"

end FileError

end StoreTuning
