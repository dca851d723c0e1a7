import DtsBundle.Layout.File
import DtsBundle.Log
import DtsBundle.Unit.Parse
/-!
# Assembling a package

A layout becomes a package by reading the source of every leaf.  A leaf becomes a module that holds its unit, a group a
module that holds the modules of its members, and the order stays.  The package's name is checked first and every name
of the layout next, so no source is read for a layout that could not be built; then the sources are read in order, and
the first that cannot be read ends the assembly.

Reading changes nothing, so what an assembly gives is the events it reports and its result.
-/
namespace DtsBundle

/-- Why a package cannot be assembled. -/
inductive BuildError where
  | badPackage (name : Text)
  | badModule (name : Text)
  | missing (path : Text)
  | unreadable (path : Text) (fault : FileFault)
deriving DecidableEq, Repr

namespace BuildError

/-- The wording of an error. -/
def message : BuildError → Text
  | badPackage name => "Invalid package name '".toList ++ name ++ "': expected an identifier".toList
  | badModule name => badModuleMessage name
  | missing path => "Source file not found: ".toList ++ path
  | unreadable path fault => "Failed to read source file ".toList ++ path ++ ": ".toList ++ fault.message

/-- The wording of an error, and of what caused it. -/
def causes : BuildError → List Text
  | badPackage name => [message (badPackage name)]
  | badModule name => [message (badModule name)]
  | missing path => [message (missing path), FileFault.notFound.message]
  | unreadable path fault => [message (unreadable path fault), fault.message]

/-- What the refusal to read a source comes to. -/
def ofSource (path : Text) : FileFault → BuildError
  | .notFound => missing path
  | fault => unreadable path fault

end BuildError

/-- Where sources are read: a file system, the directory paths are seen from, the directory stems are resolved against
and the patterns that find dependencies. -/
structure Sources where
  files : FileSystem
  here : Location
  base : Text
  patterns : Patterns

namespace Sources

/-- Reads one source and takes it apart. -/
def readUnit (sources : Sources) (path : Text) : List Event × Except BuildError SourceUnit :=
  match sources.files.readText sources.here path with
  | .error fault => ([], .error (.ofSource path fault))
  | .ok text =>
    let unit := SourceUnit.parseWith sources.patterns text
    ([.parsed path unit.references.length unit.requirements.length unit.body.length], .ok unit)

/-- Reads the sources of a layout's members and of all below them; a module is reported under its scope. -/
def forest (sources : Sources) (scope : Text) : Layout → List Event × Except BuildError Forest
  | .empty => ([], .ok .nil)
  | .source name stem rest =>
    let path := Layout.sourcePath sources.base stem
    match sources.readUnit path with
    | (events, .error e) => (.reading path (scope ++ '.' :: name) :: events, .error e)
    | (events, .ok unit) =>
      let (more, result) := sources.forest scope rest
      (.reading path (scope ++ '.' :: name) :: events ++ more, result.map (.node name (.leaf unit .nil)))
  | .group name members rest =>
    match sources.forest (scope ++ '.' :: name) members with
    | (events, .error e) => (events, .error e)
    | (events, .ok inside) =>
      let (more, result) := sources.forest scope rest
      (events ++ more, result.map (.node name inside))

/-- Assembles a package. -/
def build (sources : Sources) (name : Text) (layout : Layout) : List Event × Except BuildError Bundle :=
  if !isIdentifier name then ([], .error (.badPackage name))
  else match layout.badName? with
    | some bad => ([], .error (.badModule bad))
    | none =>
      match sources.forest name layout with
      | (events, .error e) => (events, .error e)
      | (events, .ok children) => (events ++ [.built name children.breadth], .ok ⟨name, [], [], children⟩)

/-- Assembles a package and moves its dependencies up. -/
def assemble (sources : Sources) (name : Text) (layout : Layout) : List Event × Except BuildError Bundle :=
  match sources.build name layout with
  | (events, .error e) => (events, .error e)
  | (events, .ok bundle) =>
    let (bundle, tally) := bundle.percolate
    (events ++ [.percolated name tally], .ok bundle)

end Sources
end DtsBundle
