import DtsBundle.Files.System
/-!
# Hosts and compilers

A compiler is anything that, started in a directory with some arguments, turns one file system into another and ends
with a status and two streams of output.  A host says where the program stands and which programs it can start.

A start needs a directory to start in and a file that the host has installed as a program.  The directory is looked at
first, and the path of the program is seen from it.
-/
namespace DtsBundle

/-- How a program ended: its exit status, which one that was killed does not have, and what it wrote. -/
structure Completion where
  status : Option Int
  output : List UInt8
  errors : List UInt8
deriving DecidableEq, Repr

/-- Whether a program ended well. -/
def Completion.succeeded (completion : Completion) : Bool :=
  completion.status == some 0

/-- What a compiler does: from a directory, arguments and a file system to how it ended and what it left. -/
abbrev Compiler := Location → List Text → FileSystem → Completion × FileSystem

/-- Where a run takes place: the current directory, the search for bare program names and the files that can be run. -/
structure Host where
  here : Location
  search : Text → Option Text
  installed : Location → Option Compiler

namespace Host

/-- The current directory as a path. -/
def herePath (host : Host) : Text :=
  '/' :: ['/'].intercalate host.here.reverse

/-- The directory and the program that a start would take. -/
def start (host : Host) (fs : FileSystem) (directory program : Text) (arguments : List Text) :
    Except FileFault (Location × Compiler) :=
  if (directory :: program :: arguments).any (·.contains '\x00') then .error .nulInArgument
  else match fs.directory host.here directory with
    | .error fault => .error fault
    | .ok inside =>
      match fs.locate inside program with
      | .error fault => .error fault
      | .ok location =>
        match fs.get? location with
        | none => .error .notFound
        | some .directory => .error .denied
        | some (.file _) =>
          match host.installed location with
          | none => .error .denied
          | some compiler => .ok (inside, compiler)

end Host

end DtsBundle
