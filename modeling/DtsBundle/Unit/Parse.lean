import DtsBundle.Unit.Patterns
/-!
# Taking a source apart

Each line of a source is one of three things, and it is looked at without the carriage return it may end with: a
reference if the patterns say so, else a requirement if they say so, else a line of the body, kept as it stands with
its carriage return.  A unit collects the three kinds, each in order.
-/
namespace DtsBundle

/-- What one line of a source is. -/
inductive SourceLine where
  | reference (path : Text)
  | requirement (requirement : Requirement)
  | body (line : Text)
deriving DecidableEq, Repr

namespace SourceLine

/-- Tells what a line is. -/
def classify (patterns : Patterns) (line : Text) : SourceLine :=
  match patterns.reference? (Text.withoutReturn line) with
  | some path => reference path
  | none =>
    match patterns.requirement? (Text.withoutReturn line) with
    | some r => requirement r
    | none => body line

/-- The path of a reference line. -/
def reference? : SourceLine → Option Text
  | reference path => some path
  | _ => none

/-- The requirement of a requirement line. -/
def requirement? : SourceLine → Option Requirement
  | requirement r => some r
  | _ => none

/-- The text of a body line. -/
def body? : SourceLine → Option Text
  | body line => some line
  | _ => none

end SourceLine

namespace SourceUnit

/-- The unit made of some lines. -/
def ofLines (lines : List SourceLine) : SourceUnit where
  references := lines.filterMap SourceLine.reference?
  requirements := lines.filterMap SourceLine.requirement?
  body := lines.filterMap SourceLine.body?

/-- The unit a source text states. -/
def parseWith (patterns : Patterns) (source : Text) : SourceUnit :=
  ofLines ((Text.lines source).map (SourceLine.classify patterns))

/-- The unit a source text states in the canonical forms. -/
def parse (source : Text) : SourceUnit :=
  parseWith .canonical source

end SourceUnit
end DtsBundle
