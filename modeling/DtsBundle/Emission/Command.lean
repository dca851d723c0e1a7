import DtsBundle.Emission.Error
import DtsBundle.Run
/-!
# The command that compiles

A program is given as a path or as a bare name.  An absolute path is taken as it is, a relative path of more than one
part is seen from where the host stands and not from where the compiler is started, and a bare name is looked for by
the host.  Arguments of the user's stand in front of the fixed ones, and the unit comes last.
-/
namespace DtsBundle

/-- The program that compiles, and the arguments in front of the fixed ones. -/
structure Command where
  program : Text
  leading : List Text
deriving DecidableEq, Repr

namespace Command

/-- The program that compiles if none is named. -/
def default : Command :=
  ⟨"tsc".toList, []⟩

/-- What is asked of every compiler: commonjs modules, an ES5 target, and declarations. -/
def flags : List Text :=
  ["-m".toList, "commonjs".toList, "-t".toList, "ES5".toList, "-d".toList]

/-- The arguments for compiling a unit. -/
def arguments (command : Command) (unit : Text) : List Text :=
  command.leading ++ flags ++ [unit]

/-- The path of the program. -/
def resolve (command : Command) (host : Host) : Except EmitError Text :=
  if Path.isAbsolute command.program then .ok command.program
  else if 1 < Path.partCount command.program then .ok (Path.join host.herePath command.program)
  else match host.search command.program with
    | some path => .ok path
    | none => .error (.compilerNotFound command.program)

/-- Starts a program in a directory and waits for the end. -/
def execute (command : Command) (host : Host) (directory program : Text) (arguments : List Text) :
    Run EmitError Completion :=
  fun world =>
    match host.start world.files directory program arguments with
    | .error fault => .error (.compilerNotStarted command.program fault) world
    | .ok (inside, compiler) =>
      let (completion, files) := compiler inside arguments world.files
      .ok completion { world with files, starts := world.starts ++ [⟨inside, arguments, world.files⟩] }

/-- Compiles a unit in a directory. -/
def run (command : Command) (host : Host) (unit directory : Text) : Run EmitError Completion := do
  let program ← Run.settle (command.resolve host)
  let arguments := command.arguments unit
  Run.report [.running program arguments]
  command.execute host directory program arguments

end Command
end DtsBundle
