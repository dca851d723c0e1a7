import DtsBundle.Emission.Command
/-!
# Emitting a declaration file

A package is written out as one unit, compiled, and its declaration is edited and published under the package's
name.  The two files in between are removed only when the declaration is ready to be written, and before it is written,
since a package may be called by the very name of one of them; whatever fails earlier leaves them for inspection.

In strict mode a declaration in which one of the edits found no place is refused; else it is published with a warning.
-/
namespace DtsBundle

/-- What an emission is asked to do: where to work, where the stems are resolved (the work directory, if nowhere else),
with which compiler, by which patterns, and whether to insist on both edits. -/
structure EmitOptions where
  workDirectory : Text
  baseDirectory : Option Text
  command : Command
  patterns : Patterns
  strict : Bool

/-- What was published, and where. -/
structure Emitted where
  path : Text
  edited : Edited
deriving DecidableEq, Repr

/-- The unit that is compiled. -/
def unitFile : Text :=
  "index.ts".toList

/-- The declaration that the compiler writes next to the unit. -/
def rawDeclarationFile : Text :=
  "index.d.ts".toList

/-- The declaration that is published for a package. -/
def declarationFile (name : Text) : Text :=
  name ++ ".d.ts".toList

namespace EmitOptions

/-- The path of a file in the work directory. -/
def workPath (options : EmitOptions) (file : Text) : Text :=
  Path.join options.workDirectory file

/-- The directory that stems are resolved against. -/
def base (options : EmitOptions) : Text :=
  options.baseDirectory.getD options.workDirectory

/-- The sources as an emission reads them. -/
def sources (options : EmitOptions) (host : Host) (files : FileSystem) : Sources :=
  ⟨files, host.here, options.base, options.patterns⟩

end EmitOptions

namespace Emission

/-- Writes a file. -/
def write (host : Host) (path content : Text) : Run EmitError Unit :=
  Run.change fun fs => (fs.write host.here path (Text.utf8 content)).mapError (.file path)

/-- Removes a file. -/
def remove (host : Host) (path : Text) : Run EmitError Unit :=
  Run.change fun fs => (fs.remove host.here path).mapError (.file path)

/-- Reads the compiler's declaration. -/
def readDeclaration (host : Host) (path : Text) : Run EmitError Text :=
  fun world =>
    match world.files.readText host.here path with
    | .ok text => .ok text world
    | .error .notFound => .error (.noDeclaration path) world
    | .error fault => .error (.file path fault) world

/-- Ends a run whose compiler failed. -/
def insistOnSuccess (completion : Completion) : Except EmitError Unit :=
  if completion.succeeded then .ok ()
  else .error (.compilerFailed completion.status (Text.ofUtf8Lossy completion.output)
    (Text.ofUtf8Lossy completion.errors))

/-- Ends a strict run in which an edit found no place. -/
def insistOnEdits (strict : Bool) (name : Text) (edited : Edited) : Except EmitError Unit :=
  if strict && !edited.headerQuoted then .error (.noHeader name)
  else if strict && !edited.exportRemoved then .error (.noExport name)
  else .ok ()

/-- Writes a package's unit and compiles it. -/
def compile (host : Host) (options : EmitOptions) (bundle : Bundle) : Run EmitError Unit := do
  let unitPath := options.workPath unitFile
  write host unitPath bundle.text
  Run.report [.wroteUnit unitPath]
  let completion ← options.command.run host unitFile options.workDirectory
  Run.settle (insistOnSuccess completion)
  Run.report [.compiled]

/-- Edits the compiler's declaration, removes the files in between and publishes it under a package's name. -/
def publish (host : Host) (options : EmitOptions) (name : Text) : Run EmitError Emitted := do
  let rawPath := options.workPath rawDeclarationFile
  let raw ← readDeclaration host rawPath
  let edited := Declaration.edit name raw
  Run.report (edited.events name)
  Run.settle (insistOnEdits options.strict name edited)
  remove host (options.workPath unitFile)
  remove host rawPath
  let path := options.workPath (declarationFile name)
  write host path edited.text
  Run.report [.wroteDeclaration (declarationFile name)]
  return ⟨path, edited⟩

/-- Writes a package's unit, compiles it and publishes its declaration. -/
def emit (host : Host) (options : EmitOptions) (bundle : Bundle) : Run EmitError Emitted := do
  compile host options bundle
  publish host options bundle.name

/-- Assembles a package in a run. -/
def assemble (host : Host) (options : EmitOptions) (name : Text) (layout : Layout) : Run EmitError Bundle :=
  fun world =>
    let (events, result) := (options.sources host world.files).assemble name layout
    (do Run.report events; Run.settle (result.mapError .build) : Run EmitError Bundle) world

/-- Assembles the package of a layout and publishes its declaration. -/
def generate (host : Host) (options : EmitOptions) (name : Text) (layout : Layout) : Run EmitError Emitted := do
  let bundle ← assemble host options name layout
  emit host options bundle

end Emission
end DtsBundle
