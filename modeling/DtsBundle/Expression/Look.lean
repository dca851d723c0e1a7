import DtsBundle.Text.Word
/-!
# Looking around

A place in a text lies between two characters, and at the ends of the text one of them or both are missing.  An
expression can ask something of the place without taking a character: that it is where the text starts or ends, where a
line does, or where a word does.  A line ends with a line feed; where carriage returns count too it ends with either, or
with both in a row, between which no line starts or ends.
-/
namespace DtsBundle

/-- What can be asked about words at a place. -/
inductive WordEdge where
  | either
  | neither
  | start
  | stop
  | noneBefore
  | noneAfter
deriving DecidableEq, Repr

/-- What an expression can ask of a place. -/
inductive Look where
  | textStart
  | textEnd
  | lineStart (returns : Bool)
  | lineEnd (returns : Bool)
  | word (edge : WordEdge) (unicode : Bool)
deriving DecidableEq, Repr

namespace Look

/-- Whether a character is there and can be part of a word. -/
def inWord (unicode : Bool) : Option Char → Bool
  | none => false
  | some c => c.isAlphanum || c == '_' || (unicode && Text.isWord c)

/-- Whether a place with these words around it is at such an edge. -/
def meets (edge : WordEdge) (before after : Bool) : Bool :=
  match edge with
  | .either => before != after
  | .neither => before == after
  | .start => !before && after
  | .stop => before && !after
  | .noneBefore => !before
  | .noneAfter => !after

/-- Whether a place between two characters is as asked. -/
def holds (look : Look) (before after : Option Char) : Bool :=
  match look with
  | textStart => before.isNone
  | textEnd => after.isNone
  | lineStart false => before.isNone || before == some '\n'
  | lineEnd false => after.isNone || after == some '\n'
  | lineStart true => before.isNone || before == some '\n' || (before == some '\r' && after != some '\n')
  | lineEnd true => after.isNone || after == some '\r' || (after == some '\n' && before != some '\r')
  | word edge unicode => meets edge (inWord unicode before) (inWord unicode after)

end Look
end DtsBundle
