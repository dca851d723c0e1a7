import DtsBundle.Bundle.Percolation
import DtsBundle.Text.Quoted
/-!
# The log

What a run reports about itself, as events in the order they happen.  An event has a level, the part of the program it
comes from, and a message; a reader chooses the least level to see and whether to see the parts.

A line of the log is one for a terminal, so in it a message may not steer the terminal: the controls that could are
spelled out.  Line feeds and tabs are left.
-/
namespace DtsBundle

/-- How much an event matters, from least to most. -/
inductive Level where
  | trace
  | debug
  | info
  | warn
  | error
deriving DecidableEq, Repr

namespace Level

/-- The rank of a level: the more it matters, the higher. -/
def rank : Level → Nat
  | trace => 0
  | debug => 1
  | info => 2
  | warn => 3
  | error => 4

/-- The name of a level in a line of the log. -/
def name : Level → Text
  | trace => "TRACE".toList
  | debug => "DEBUG".toList
  | info => "INFO".toList
  | warn => "WARN".toList
  | error => "ERROR".toList

end Level

/-- What can be reported. -/
inductive Event where
  | loaded (package : Text) (sources : Nat)
  | reading (path scope : Text)
  | parsed (path : Text) (references requirements body : Nat)
  | built (package : Text) (modules : Nat)
  | percolated (package : Text) (tally : Tally)
  | wroteUnit (path : Text)
  | running (program : Text) (arguments : List Text)
  | compiled
  | noHeader (header : Text)
  | noExport (assignment : Text)
  | wroteDeclaration (file : Text)
  | failed (message : Text)
deriving DecidableEq, Repr

namespace Event

/-- How much an event matters. -/
def level : Event → Level
  | loaded .. | compiled | wroteDeclaration .. => .info
  | reading .. | parsed .. | built .. | percolated .. | wroteUnit .. | running .. => .debug
  | noHeader .. | noExport .. => .warn
  | failed .. => .error

/-- The part of the program an event comes from. -/
def target : Event → Text
  | loaded .. | failed .. => "tsc_declare".toList
  | reading .. | built .. => "tsdeclare_core::builder".toList
  | parsed .. => "tsdeclare_core::unit".toList
  | percolated .. => "tsdeclare_core::percolate".toList
  | wroteUnit .. | compiled | wroteDeclaration .. => "tsdeclare_emit::emitter".toList
  | running .. => "tsdeclare_emit::compiler".toList
  | noHeader .. | noExport .. => "tsdeclare_emit::rewrite".toList

/-- What an event says. -/
def message : Event → Text
  | loaded package sources =>
    "Loaded layout with ".toList ++ .ofNat sources ++ " source files for '".toList ++ package ++ ['\'']
  | reading path scope => "Reading ".toList ++ path ++ " for module ".toList ++ scope
  | parsed path references requirements body =>
    "Parsed ".toList ++ path ++ ": ".toList ++ .ofNat references ++ " references, ".toList ++ .ofNat requirements
      ++ " requirements, ".toList ++ .ofNat body ++ " lines".toList
  | built package modules =>
    "Built source tree '".toList ++ package ++ "' with ".toList ++ .ofNat modules ++ " top-level modules".toList
  | percolated package tally =>
    "Percolated ".toList ++ .ofNat tally.references ++ " references and ".toList ++ .ofNat tally.requirements
      ++ " requirements into '".toList ++ package ++ "', dropped ".toList ++ .ofNat tally.dropped
      ++ " relative requirements".toList
  | wroteUnit path => "Wrote compilation unit ".toList ++ path
  | running program arguments => "Running ".toList ++ program ++ ' ' :: [' '].intercalate arguments
  | compiled => "compiled index.js".toList
  | noHeader header => "No '".toList ++ header ++ "' header found in declaration output".toList
  | noExport assignment => "No '".toList ++ assignment ++ "' assignment found in declaration output".toList
  | wroteDeclaration file => "wrote ".toList ++ file
  | failed message => message

/-- A character as a line of the log shows it. -/
def spelled (c : Char) : Text :=
  let digits := [Text.hexDigit (c.toNat / 16), Text.hexDigit (c.toNat % 16)]
  if c ∈ ['\x07', '\x08', '\x0c', '\x1b', '\x7f'] then '\\' :: 'x' :: digits
  else if 0x80 ≤ c.toNat ∧ c.toNat ≤ 0x9F then '\\' :: 'u' :: '\x7b' :: digits ++ ['\x7d']
  else [c]

/-- The line of an event: the time, the level in five columns, the target if wanted, and the message. -/
def line (time : Text) (withTarget : Bool) (event : Event) : Text :=
  let name := event.level.name
  time ++ ' ' :: List.replicate (5 - name.length) ' ' ++ name ++ ' '
    :: (if withTarget then event.target ++ ": ".toList else []) ++ event.message.flatMap spelled
    ++ ['\n']

end Event
end DtsBundle
