import DtsBundle.Assembly
import DtsBundle.Declaration
/-!
# Failed emissions

Every way in which the emission of a declaration can fail, its wording, and the exit code that tells of it.  A compiler
that ran and failed hands on its own status; every other failure has the code 1, and none has the code of success.
-/
namespace DtsBundle

/-- Why an emission fails. -/
inductive EmitError where
  | build (error : BuildError)
  | file (path : Text) (fault : FileFault)
  | compilerNotFound (program : Text)
  | compilerNotStarted (program : Text) (fault : FileFault)
  | compilerFailed (status : Option Int) (output errors : Text)
  | noDeclaration (path : Text)
  | noHeader (name : Text)
  | noExport (name : Text)
deriving DecidableEq, Repr

namespace EmitError

/-- How a message names an exit status. -/
def statusText : Option Int → Text
  | some status => "exit status ".toList ++ .ofInt status
  | none => "no exit status (terminated by signal)".toList

/-- The wording of an error. -/
def message : EmitError → Text
  | build error => error.message
  | file path fault => "IO error on ".toList ++ path ++ ": ".toList ++ fault.message
  | compilerNotFound program =>
    "Compiler executable '".toList ++ program
      ++ "' not found. Please install TypeScript: npm install -g typescript".toList
  | compilerNotStarted program fault =>
    "Failed to start compiler '".toList ++ program ++ "': ".toList ++ fault.message
  | compilerFailed status _ _ => "Compiler failed with ".toList ++ statusText status
  | noDeclaration path => "Compiler succeeded but produced no declaration file at ".toList ++ path
  | noHeader name => "Declaration output has no '".toList ++ Declaration.header name ++ "' header".toList
  | noExport name => "Declaration output has no '".toList ++ Bundle.exportLine name ++ "' assignment".toList

/-- The wording of an error, and of what caused it. -/
def causes : EmitError → List Text
  | build error => error.causes
  | file path fault => [message (file path fault), fault.message]
  | compilerNotStarted program fault => [message (compilerNotStarted program fault), fault.message]
  | error => [message error]

/-- The exit code that tells of an error: the compiler's own, unless that would tell of success. -/
def exitCode : EmitError → Int
  | compilerFailed (some status) _ _ => if status = 0 then 1 else status
  | _ => 1

end EmitError
end DtsBundle
