import DtsBundle.Files.Path
import DtsBundle.Text.Utf8
/-!
# The file system

Files and directories by their location, which is the list of names from the innermost out; so the parent of a location
is its tail and the root is the empty list.  The root is always a directory.

A typed path is resolved one part at a time from the directory it is seen from.  Each part needs a directory to be
looked up in, an empty part or a dot stays, two dots go to the parent, and only the last part may name nothing yet.
What the system refuses it refuses for a cause, in the order in which the causes are found.

Only paths and what stands on them are causes here.  Left out is what a system refuses for the sake of its users and
of its disk: files that may not be read, directories that may not be changed, a disk that is full, a file that is held
and cannot be removed.  So a file is written wherever a path leads to it through directories and no directory is in its
place, and it is removed wherever it stands; what is said of the runs that fail says it of these refusals only.
-/
namespace DtsBundle

/-- Why the system refuses something. -/
inductive FileFault where
  | notFound
  | denied
  | notDirectory
  | isDirectory
  | nameTooLong
  | notText
  | nulInPath
  | nulInArgument
deriving DecidableEq, Repr

/-- The wording of a refusal. -/
def FileFault.message : FileFault → Text
  | notFound => "No such file or directory (os error 2)".toList
  | denied => "Permission denied (os error 13)".toList
  | notDirectory => "Not a directory (os error 20)".toList
  | isDirectory => "Is a directory (os error 21)".toList
  | nameTooLong => "File name too long (os error 36)".toList
  | notText => "stream did not contain valid UTF-8".toList
  | nulInPath => "file name contained an unexpected NUL byte".toList
  | nulInArgument => "nul byte found in provided data".toList

/-- Where something is: its name and the names of the directories around it, from the innermost out. -/
abbrev Location := List Text

/-- What can be at a location. -/
inductive FileEntry where
  | file (content : List UInt8)
  | directory
deriving DecidableEq, Repr

/-- Files and directories by location. -/
structure FileSystem where
  entries : List (Location × FileEntry)
deriving DecidableEq, Repr

namespace FileSystem

/-- A system with nothing in it but the root. -/
def empty : FileSystem :=
  ⟨[]⟩

/-- What is at a location. -/
def get? (fs : FileSystem) : Location → Option FileEntry
  | [] => some .directory
  | location => fs.entries.lookup location

/-- A system with something put at a location. -/
def set (fs : FileSystem) (location : Location) (entry : FileEntry) : FileSystem :=
  ⟨(location, entry) :: fs.entries.filter fun e => e.1 ≠ location⟩

/-- A system with nothing at a location. -/
def erase (fs : FileSystem) (location : Location) : FileSystem :=
  ⟨fs.entries.filter fun e => e.1 ≠ location⟩

/-! ## Resolving a path -/

/-- The longest name a directory can hold, in bytes. -/
def maxName : Nat := 255

/-- The longest path that is looked at, in bytes. -/
def maxPath : Nat := 4095

/-- The location some parts lead to. -/
def walk (fs : FileSystem) : Location → List Text → Except FileFault Location
  | here, [] => .ok here
  | here, part :: parts =>
    match fs.get? here with
    | none => .error .notFound
    | some (.file _) => .error .notDirectory
    | some .directory =>
      if part = [] ∨ part = ['.'] then fs.walk here parts
      else if part = ['.', '.'] then fs.walk here.tail parts
      else if maxName < Text.byteCount part then .error .nameTooLong
      else fs.walk (part :: here) parts

/-- The location a typed path leads to, seen from a directory. -/
def locate (fs : FileSystem) (here : Location) (path : Text) : Except FileFault Location :=
  if path.contains '\x00' then .error .nulInPath
  else if path = [] then .error .notFound
  else if maxPath < Text.byteCount path then .error .nameTooLong
  else fs.walk (if Path.isAbsolute path then [] else here) (Text.fields '/' path)

/-! ## Reading and changing files -/

/-- The content of a file. -/
def read (fs : FileSystem) (here : Location) (path : Text) : Except FileFault (List UInt8) :=
  match fs.locate here path with
  | .error fault => .error fault
  | .ok location =>
    match fs.get? location with
    | none => .error .notFound
    | some .directory => .error .isDirectory
    | some (.file content) => .ok content

/-- The content of a file as text. -/
def readText (fs : FileSystem) (here : Location) (path : Text) : Except FileFault Text :=
  match fs.read here path with
  | .error fault => .error fault
  | .ok content =>
    match Text.ofUtf8? content with
    | some text => .ok text
    | none => .error .notText

/-- A system with a file written, over whatever file was there. -/
def write (fs : FileSystem) (here : Location) (path : Text) (content : List UInt8) : Except FileFault FileSystem :=
  match fs.locate here path with
  | .error fault => .error fault
  | .ok location =>
    match fs.get? location with
    | some .directory => .error .isDirectory
    | _ => .ok (fs.set location (.file content))

/-- A system with a file removed. -/
def remove (fs : FileSystem) (here : Location) (path : Text) : Except FileFault FileSystem :=
  match fs.locate here path with
  | .error fault => .error fault
  | .ok location =>
    match fs.get? location with
    | none => .error .notFound
    | some .directory => .error .isDirectory
    | some (.file _) => .ok (fs.erase location)

/-- The directory a typed path leads to. -/
def directory (fs : FileSystem) (here : Location) (path : Text) : Except FileFault Location :=
  match fs.locate here path with
  | .error fault => .error fault
  | .ok location =>
    match fs.get? location with
    | none => .error .notFound
    | some (.file _) => .error .notDirectory
    | some .directory => .ok location

/-! ## Building a system -/

/-- A system with directories made along some parts, as far as they are missing. -/
def makeDirectories (fs : FileSystem) : Location → List Text → Except FileFault FileSystem
  | _, [] => .ok fs
  | here, part :: parts =>
    if part = [] ∨ part = ['.'] then fs.makeDirectories here parts
    else if part = ['.', '.'] then fs.makeDirectories here.tail parts
    else match fs.get? (part :: here) with
      | some .directory => fs.makeDirectories (part :: here) parts
      | some (.file _) => .error .notDirectory
      | none =>
        if maxName < Text.byteCount part then .error .nameTooLong
        else (fs.set (part :: here) .directory).makeDirectories (part :: here) parts

/-- A system in which a location and all around it are directories. -/
def ensure (fs : FileSystem) : Location → FileSystem
  | [] => fs
  | name :: around => (fs.ensure around).set (name :: around) .directory

/-- A system with something put at a location, in directories made for it. -/
def place (fs : FileSystem) (location : Location) (entry : FileEntry) : FileSystem :=
  (fs.ensure location.tail).set location entry

/-- The names from a directory down to a location inside it. -/
def below? (here location : Location) : Option (List Text) :=
  if location.length ≤ here.length ∨ location.drop (location.length - here.length) ≠ here then none
  else some (location.take (location.length - here.length)).reverse

/-- What a directory holds at every depth, by the path from it. -/
def listing (fs : FileSystem) (here : Location) : List (Text × FileEntry) :=
  fs.entries.filterMap fun (location, entry) => (below? here location).map fun parts => (['/'].intercalate parts, entry)

end FileSystem
end DtsBundle
