import StoreTuning.Storage.Fault
import StoreTuning.Storage.Route

/-!
# File systems

A finite tree of directories, files and symbolic links, and the place where relative paths start.
The text of a path is resolved step by step from there or from the root, with links followed on the
way; a chain of more than forty links is a loop. Changes take texts as they are, and a refusal names
the text that was refused. A store is present in a directory with at least one entry of any kind
(`FileSystem.holdsStore`).
-/

namespace StoreTuning

/-- What an entry of a directory is. -/
inductive Node where
  | directory (entries : List (String × Node))
  | file (content : ByteArray)
  | link (target : String)

/-- The entries of a directory. -/
abbrev Directory := List (String × Node)

/-- A tree and the place in it where relative paths start. -/
structure FileSystem where
  root : Directory
  here : List String

/-- What a path leads to: a node at a place, or a free name in a directory; and whether the way
there ended in a separator. -/
inductive Destination where
  | node (place : List String) (n : Node) (endsOpen : Bool)
  | vacant (place : List String) (name : String) (endsOpen : Bool)

namespace Directory

/-- The entries of the directory at a place. -/
def at? (d : Directory) : List String → Option Directory
  | [] => some d
  | name :: place =>
    match d.lookup name with
    | some (.directory sub) => at? sub place
    | _ => none

/-- The tree with the entries of the directory at a place changed. -/
def change (f : Directory → Directory) : List String → Directory → Directory
  | [], d => f d
  | name :: place, d =>
    d.map fun (n, node) =>
      match node with
      | .directory sub => (n, if n = name then .directory (change f place sub) else node)
      | _ => (n, node)

/-- The directory with an entry put under a name. -/
def put (name : String) (node : Node) (d : Directory) : Directory :=
  d.filter (·.1 != name) ++ [(name, node)]

/-- The directory without the entry of a name. -/
def erase (name : String) (d : Directory) : Directory :=
  d.filter (·.1 != name)

end Directory

namespace FileSystem

/-- The most links that are followed on the way of one path. -/
def linkLimit : Nat := 40

/-- The longest name, in bytes. -/
def nameLimit : Nat := 255

/-- The longest path, in bytes. -/
def pathLimit : Nat := 4095

/-- Follows steps from a place. A link at the end is followed only if asked for. -/
def walk (fs : FileSystem) (followLast : Bool) (links : Nat) (place : List String)
    (endsOpen : Bool) : List String → Except Fault Destination
  | [] =>
    match Directory.at? fs.root place with
    | some d => .ok (.node place (.directory d) endsOpen)
    | none => .error .noEntry
  | "." :: names => walk fs followLast links place endsOpen names
  | ".." :: names => walk fs followLast links place.dropLast endsOpen names
  | name :: names =>
    if nameLimit < name.utf8ByteSize then .error .nameTooLong
    else
      match ((Directory.at? fs.root place).getD []).lookup name with
      | none => if names.isEmpty then .ok (.vacant place name endsOpen) else .error .noEntry
      | some (.directory _) => walk fs followLast links (place ++ [name]) endsOpen names
      | some (.file content) =>
        if names.isEmpty then .ok (.node (place ++ [name]) (.file content) endsOpen)
        else .error .notDirectory
      | some (.link target) =>
        if names.isEmpty && !followLast then .ok (.node (place ++ [name]) (.link target) endsOpen)
        else
          match links with
          | 0 => .error .loop
          | links + 1 =>
            let route := Route.ofText target
            walk fs followLast links (if route.isAbsolute then [] else place)
              (endsOpen || names.isEmpty && route.endsOpen) (route.steps ++ names)
termination_by names => (links, names.length)

/-- Where a way leads. -/
def follow (fs : FileSystem) (followLast : Bool) (r : Route) : Except Fault Destination :=
  walk fs followLast linkLimit (if r.isAbsolute then [] else fs.here) r.endsOpen r.steps

/-- Where the text of a path leads. -/
def resolve (fs : FileSystem) (followLast : Bool) (text : String) : Except Fault Destination :=
  if text.isEmpty then .error .noEntry
  else if pathLimit < text.utf8ByteSize then .error .nameTooLong
  else fs.follow followLast (Route.ofText text)

/-- Whether a text holds the character that no file name can hold. -/
def hasNull (text : String) : Bool :=
  text.toList.contains '\x00'

/-- The node that a path leads to when links are followed to the end. -/
def find (fs : FileSystem) (text : String) : Except Fault Node :=
  match fs.resolve true text with
  | .ok (.node _ (.file content) endsOpen) =>
    if endsOpen then .error .notDirectory else .ok (.file content)
  | .ok (.node _ n _) => .ok n
  | .ok (.vacant ..) => .error .noEntry
  | .error f => .error f

/-- What a path leads to when links are followed to the end; nothing for a path that leads
nowhere. -/
def node? (fs : FileSystem) (text : String) : Except FileError (Option Node) :=
  if hasNull text then .ok none
  else
    match fs.find text with
    | .ok n => .ok (some n)
    | .error f => if f.meansAbsent then .ok none else .error (.fault f text)

/-- Whether a path leads to something. -/
def leadsSomewhere (fs : FileSystem) (text : String) : Bool :=
  !hasNull text && (fs.find text).toBool

/-- Whether a path leads to a directory. -/
def leadsToDirectory (fs : FileSystem) (text : String) : Bool :=
  match hasNull text, fs.find text with
  | false, .ok (.directory _) => true
  | _, _ => false

/-- Whether a store is present: the path leads to a directory, and the directory has an entry. -/
def holdsStore (fs : FileSystem) (directory : String) : Except FileError Bool := do
  match ← fs.node? (Path.ofText directory).text with
  | some (.directory entries) => return !entries.isEmpty
  | _ => return false

/-- The bytes of the file that a path leads to; nothing for a path that leads nowhere. -/
def read? (fs : FileSystem) (p : Path) : Except FileError (Option ByteArray) := do
  match ← fs.node? p.text with
  | some (.file content) => return some content
  | some (.directory _) => throw (.fault .isDirectory p.text)
  | _ => return none

/-- The file system with the directory at a place changed. -/
def change (fs : FileSystem) (place : List String) (f : Directory → Directory) : FileSystem :=
  { fs with root := Directory.change f place fs.root }

/-- The file system with a node put under a name. -/
def put (fs : FileSystem) (place : List String) (name : String) (n : Node) : FileSystem :=
  fs.change place (Directory.put name n)

/-- The file system without the node at a place. -/
def erase (fs : FileSystem) (place : List String) : FileSystem :=
  fs.change place.dropLast (Directory.erase (place.getLast?.getD ""))

/-- Makes one directory. -/
def makeDirectory (fs : FileSystem) (text : String) : Except FileError FileSystem :=
  if hasNull text then .error .nullCharacter
  else
    match fs.resolve false text with
    | .ok (.vacant place name _) => .ok (fs.put place name (.directory []))
    | .ok (.node ..) => .error (.fault .alreadyThere text)
    | .error f => .error (.fault f text)

/-- Whether the refusal only means that there is something at the path already. -/
def isAlreadyThere : FileError → Bool
  | .fault .alreadyThere _ => true
  | _ => false

/-- Makes one directory, unless the path leads to one already. -/
def ensureDirectory (fs : FileSystem) (text : String) : FileSystem × Option FileError :=
  match fs.makeDirectory text with
  | .ok fs' => (fs', none)
  | .error .nullCharacter => (fs, some .nullCharacter)
  | .error e => (fs, if fs.leadsToDirectory text then none else some e)

/-- Makes a directory and those above it that are missing, of which there are at most `depth`. What
was made before a refusal stays. -/
def makeDirectoriesUpTo : Nat → FileSystem → String → FileSystem × Option FileError
  | 0, fs, text => fs.ensureDirectory text
  | depth + 1, fs, text =>
    let (before, last) := Route.split text
    if before.isEmpty || last.isEmpty || fs.leadsSomewhere before then fs.ensureDirectory text
    else
      let (fs, refusal?) := makeDirectoriesUpTo depth fs before
      if refusal?.any (!isAlreadyThere ·) then (fs, refusal?)
      else if last = "." then (fs, none)
      else fs.ensureDirectory text

/-- Makes a directory and those above it that are missing. What was made before a refusal stays. -/
def makeDirectories (fs : FileSystem) (text : String) : FileSystem × Option FileError :=
  makeDirectoriesUpTo text.length fs text

/-- Writes a file, over one that is there. A directory is refused before it is looked for. -/
def writeFile (fs : FileSystem) (text : String) (content : ByteArray) :
    Except FileError FileSystem := do
  if hasNull text then throw .nullCharacter
  let route := Route.ofText text
  let destination := if route.endsOpen then fs.follow true route.above else fs.resolve true text
  match destination with
  | .ok (.vacant place name false) => return fs.put place name (.file content)
  | .ok (.node place (.file _) false) =>
    return fs.put place.dropLast (place.getLast?.getD "") (.file content)
  | .ok _ => throw (.fault .isDirectory text)
  | .error f => throw (.fault f text)

/-- Makes a symbolic link with a text. -/
def makeLink (fs : FileSystem) (text target : String) : Except FileError FileSystem :=
  if hasNull text || hasNull target then .error .nullCharacter
  else if target.isEmpty then .error (.linkFault .noEntry target text)
  else if pathLimit < target.utf8ByteSize then .error (.linkFault .nameTooLong target text)
  else
    match fs.resolve false text with
    | .ok (.vacant place name false) => .ok (fs.put place name (.link target))
    | .ok (.vacant _ _ true) => .error (.linkFault .noEntry target text)
    | .ok (.node ..) => .error (.linkFault .alreadyThere target text)
    | .error f => .error (.linkFault f target text)

/-- Removes a file or a link. -/
def removeFile (fs : FileSystem) (text : String) : Except FileError FileSystem :=
  if hasNull text then .error .nullCharacter
  else
    match fs.resolve false text with
    | .ok (.node _ (.directory _) _) => .error (.fault .isDirectory text)
    | .ok (.node _ _ true) => .error (.fault .notDirectory text)
    | .ok (.node place _ false) => .ok (fs.erase place)
    | .ok (.vacant ..) => .error (.fault .noEntry text)
    | .error f => .error (.fault f text)

/-- Why a directory is not removed that a last step leads to, and nothing if it is named by its own
name. -/
def stepFault? : Option String → Option Fault
  | none => some .busy
  | some "." => some .invalidArgument
  | some ".." => some .notEmpty
  | some _ => none

/-- Removes an empty directory, named by its own name. -/
def removeDirectory (fs : FileSystem) (text : String) : Except FileError FileSystem :=
  if hasNull text then .error .nullCharacter
  else
    match fs.resolve false text with
    | .ok (.node place (.directory entries) _) =>
      match stepFault? (Route.ofText text).steps.getLast?, entries with
      | some f, _ => .error (.fault f text)
      | none, [] => .ok (fs.erase place)
      | none, _ => .error (.fault .notEmpty text)
    | .ok (.node ..) => .error (.fault .notDirectory text)
    | .ok (.vacant ..) => .error (.fault .noEntry text)
    | .error f => .error (.fault f text)

end FileSystem

end StoreTuning
