import DtsBundle.Host
import DtsBundle.Log
/-!
# Runs

A run reads and changes files, reports events and may start a compiler.  Everything it does goes into one world, and a
run that fails leaves the world as it was when it failed: nothing is undone.

The log and the starts are only ever added to, so what happened first stands first.
-/
namespace DtsBundle

/-- One start of a compiler: where, with which arguments, and on which files. -/
structure Start where
  directory : Location
  arguments : List Text
  files : FileSystem
deriving DecidableEq, Repr

/-- What a run changes: the files, the log, and the starts of the compiler so far. -/
structure World where
  files : FileSystem
  log : List Event
  starts : List Start
deriving DecidableEq, Repr

/-- A world with some files in which nothing has happened. -/
def World.of (files : FileSystem) : World :=
  ⟨files, [], []⟩

/-- A step of a run that may fail; what it has changed by then stays changed. -/
abbrev Run (ε α : Type) := EStateM ε World α

namespace Run

variable {ε α : Type}

/-- Reports some events. -/
def report (events : List Event) : Run ε Unit :=
  fun world => .ok () { world with log := world.log ++ events }

/-- Gives a result that changed nothing. -/
def settle : Except ε α → Run ε α
  | .ok a, world => .ok a world
  | .error e, world => .error e world

/-- Changes the files. -/
def change (f : FileSystem → Except ε FileSystem) : Run ε Unit :=
  fun world =>
    match f world.files with
    | .ok files => .ok () { world with files }
    | .error e => .error e world

end Run

end DtsBundle
