import DtsBundle.CommandLine
import DtsBundle.Emission.Basic
import DtsBundle.Log.Filter
/-!
# A session

One run of the program, from its command line to its exit: the layout is loaded, the package assembled, and its unit
printed or its declaration published.

The exit status is 0 when that went well, the compiler's own when it ran and failed, and 1 for all else that failed.
When the compiler failed, what it wrote is passed on, output to output and errors to errors, before the failure is
logged.
-/
namespace DtsBundle

/-- Why a run fails. -/
inductive RunError where
  | layout (filename : Text) (error : LayoutError)
  | emit (error : EmitError)
deriving DecidableEq, Repr

namespace RunError

/-- The wording of an error. -/
def message : RunError → Text
  | layout filename _ => "Failed to load layout config ".toList ++ filename
  | emit error => error.message

/-- The wording of an error, and of what caused it. -/
def causes : RunError → List Text
  | layout filename error => message (layout filename error) :: error.causes
  | emit error => error.causes

/-- An error with all its causes in one line. -/
def chain (error : RunError) : Text :=
  ": ".toList.intercalate error.causes

/-- The exit status of an error, which is never that of success. -/
def status : RunError → Nat
  | layout _ _ => 1
  | emit error => (max 1 (min 255 error.exitCode)).toNat

/-- What an error passes on to output and to errors. -/
def relayed : RunError → Text × Text
  | emit (.compilerFailed _ output errors) => (output, errors)
  | _ => ([], [])

end RunError

/-- How a run ends well. -/
inductive Outcome where
  | printed (unit : Text)
  | emitted (emitted : Emitted)
deriving DecidableEq, Repr

namespace Session

/-- What the options ask of an emission. -/
def emitOptions (options : Options) : EmitOptions where
  workDirectory := options.dir
  baseDirectory := none
  command := ⟨options.tsc, []⟩
  patterns := .canonical
  strict := options.strict

/-- Loads the layout that the options name. -/
def loadLayout (host : Host) (options : Options) : Run RunError Layout :=
  fun world =>
    match Layout.load world.files host.here options.filename with
    | .ok layout => .ok layout world
    | .error error => .error (.layout options.filename error) world

/-- A step of an emission as a step of the whole run. -/
def lift {α : Type} (step : Run EmitError α) : Run RunError α :=
  EStateM.adaptExcept .emit step

/-- Does what the options ask for. -/
def run (host : Host) (options : Options) : Run RunError Outcome := do
  let layout ← loadLayout host options
  Run.report [.loaded options.name layout.sourceCount]
  let bundle ← lift (Emission.assemble host (emitOptions options) options.name layout)
  if options.printUnit then return .printed bundle.text
  else return .emitted (← lift (Emission.emit host (emitOptions options) bundle))

/-! ## The whole program -/

/-- Whether an event is logged: by the filter in the environment, or by the options where that cannot be read. -/
def logs (environment : Environment) (options : Options) (event : Event) : Bool :=
  match environment.logFilter >>= Directive.readAll? with
  | some directives => Directive.allow directives event
  | none => Directive.passes (some (if options.debug then .trace else if options.verbose then .debug else .info)) event

/-- The log as it is printed. -/
def logText (time : Text) (environment : Environment) (options : Options) (events : List Event) : Text :=
  (events.filter (logs environment options)).flatMap (Event.line time options.debug)

/-- How a program ends: its exit status and what it wrote to output and to errors. -/
structure Exit where
  status : Nat
  output : List UInt8
  errors : List UInt8
deriving DecidableEq, Repr

/-- The line that tells the version. -/
def versionLine : Text :=
  "tsc-declare 0.3.0\n".toList

/-- The exit status of a refused command line. -/
def refusalStatus : CommandLine.Refusal → Nat
  | .help | .version => 0
  | _ => 2

/-- The end of a run. -/
def conclude (time : Text) (environment : Environment) (options : Options) :
    EStateM.Result RunError World Outcome → Exit × World
  | .ok outcome world =>
    let output := match outcome with | .printed unit => unit ++ ['\n'] | .emitted _ => []
    (⟨0, Text.utf8 output, Text.utf8 (logText time environment options world.log)⟩, world)
  | .error error world =>
    let log := logText time environment options
    let (output, errors) := error.relayed
    (⟨error.status, Text.utf8 output, Text.utf8 (log world.log ++ errors ++ log [.failed error.chain])⟩, world)

/-- The program: parses the command line and does what it asks for, unless it is refused. -/
def execute (host : Host) (time : Text) (environment : Environment) (arguments : List Text) (files : FileSystem) :
    Except CommandLine.Refusal (Exit × World) :=
  match CommandLine.parse environment arguments with
  | .error refusal => .error refusal
  | .ok options => .ok (conclude time environment options (run host options (World.of files)))

end Session
end DtsBundle
