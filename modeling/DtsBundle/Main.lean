import DtsBundle.Session
import Std.Time.Format
/-!
# The program

The outer layer around `Session.execute`.  A run looks at few paths: the layout file, the sources the layout names, and
the files of the work directory.  These are taken up from the disk with all the directories on the way to them, the run
is made on what was taken up, and what it changed is put back.

A program of this library starts no other, so a package is printed as it would be compiled, and an emission ends where
its compiler would start, with the unit written.
-/
namespace DtsBundle.Program

/-! ## The paths of a run -/

/-- The files a run works with in its directory. -/
def workPaths (options : Options) : List Text :=
  [unitFile, rawDeclarationFile, declarationFile options.name].map (Session.emitOptions options).workPath

/-- Every location on the way along some parts. -/
def stations : Location → List Text → List Location
  | here, [] => [here]
  | here, part :: parts =>
    here :: if part = [] ∨ part = ['.'] then stations here parts
      else if part = ['.', '.'] then stations here.tail parts
      else stations (part :: here) parts

/-- Every location on the way to a typed path. -/
def stationsOf (here : Location) (path : Text) : List Location :=
  stations (if Path.isAbsolute path then [] else here) (Text.fields '/' path)

/-- A location as a path from the root. -/
def rooted (location : Location) : String :=
  String.ofList ('/' :: ['/'].intercalate location.reverse)

/-! ## Disk and files -/

/-- What is on the disk at a location. -/
def onDisk (location : Location) : IO (Option FileEntry) := do
  let path := (← IO.currentDir) / rooted location
  if ← path.isDir then return some .directory
  match ← (IO.FS.readBinFile path).toBaseIO with
  | .ok content => return some (.file content.toList)
  | .error _ => return none

/-- Takes up what is at a location and around it. -/
def takeUp : Location → FileSystem → IO FileSystem
  | [], files => return files
  | name :: around, files => do
    let files ← takeUp around files
    if files.get? around ≠ some .directory then return files
    match ← onDisk (name :: around) with
    | some entry => return files.set (name :: around) entry
    | none => return files

/-- Takes up what is on the way to some paths. -/
def takeUpPaths (here : Location) (paths : List Text) (files : FileSystem) : IO FileSystem :=
  (paths.flatMap (stationsOf here)).foldlM (fun files location => takeUp location files) files

/-- Puts back what a run changed: first goes what is gone, then comes what is new or different. -/
def putBack (before after : FileSystem) : IO Unit := do
  for (location, _) in before.entries do
    if after.get? location = none then IO.FS.removeFile (rooted location)
  for (location, entry) in after.entries do
    match entry with
    | .file content =>
      if before.get? location ≠ some entry then IO.FS.writeBinFile (rooted location) ⟨content.toArray⟩
    | .directory => pure ()

/-! ## The streams -/

/-- What the program says instead of a run. -/
def refusalText : CommandLine.Refusal → Text
  | .version => Session.versionLine
  | _ => "usage: tsc-declare --name NAME --filename LAYOUT [--dir DIR] [--tsc PROGRAM] [--print-unit] ".toList
      ++ "[--strict] [--verbose] [--debug]\n".toList

/-- The time as the log gives it. -/
def timeStamp : IO Text := do
  let now := Std.Time.DateTime.ofTimestamp (← Std.Time.Timestamp.now) Std.Time.TimeZone.ZoneRules.UTC
  return (now.format "uuuu-MM-dd'T'HH:mm:ss.SSSSSS'Z'").toList

/-- Takes up the files that some options are about. -/
def filesFor (here : Location) (options : Options) : IO FileSystem := do
  let files ← takeUpPaths here (options.filename :: workPaths options) .empty
  match Layout.load files here options.filename with
  | .error _ => return files
  | .ok layout => takeUpPaths here (layout.sourcePaths (Session.emitOptions options).base) files

/-- Runs the program. -/
def run (arguments : List Text) : IO UInt32 := do
  let setting (name : String) : IO (Option Text) := return (← IO.getEnv name).map String.toList
  let environment : Environment := ⟨← setting "TSC_DECLARE_TSC", ← setting "RUST_LOG"⟩
  let here := ((Text.fields '/' (← IO.currentDir).toString.toList).filter (· ≠ [])).reverse
  let before ← match CommandLine.parse environment arguments with
    | .error _ => pure .empty
    | .ok options => filesFor here options
  let host : Host := ⟨here, fun _ => none, fun _ => none⟩
  let output ← IO.getStdout
  let errors ← IO.getStderr
  match Session.execute host (← timeStamp) environment arguments before with
  | .error refusal =>
    let status := Session.refusalStatus refusal
    (if status = 0 then output else errors).putStr (String.ofList (refusalText refusal))
    return status.toUInt32
  | .ok (ending, world) =>
    putBack before world.files
    output.write ⟨ending.output.toArray⟩
    errors.write ⟨ending.errors.toArray⟩
    return ending.status.toUInt32

end DtsBundle.Program

/-- The command line. -/
def main (arguments : List String) : IO UInt32 :=
  DtsBundle.Program.run (arguments.map String.toList)
