import DtsBundle.Expression.Bracket
import DtsBundle.Expression.Size
import DtsBundle.Text.Letter
/-!
# Reading an expression

The written form of an expression is read part by part, with a stack of the groups that are open; each has the
alternatives finished so far and the parts of the one being written.

Refused are: a group left open or closed twice, a repetition with nothing before it or with its bounds in the wrong
order, a set that does not end or has a range that runs backwards, an unknown escape, name or flag, every look around
that is a group, an expression nested deeper than 250 levels, and one that takes too much room.
-/
namespace DtsBundle.Expression

/-! ## Parts and groups -/

/-- A part that has been read: its expression, how deep it is nested, and whether it only sets flags. -/
structure Part where
  expression : Expression
  depth : Nat
  setsFlags : Bool

/-- The most levels that an expression may be nested. -/
def mostLevels : Nat :=
  250

/-- An open group: its number if it has one, the flags to go back to, the alternatives finished so far and the parts of
the current one, both latest first. -/
structure Open where
  index : Option Nat
  outerFlags : Flags
  finished : List Part
  parts : List Part

namespace Open

/-- The parts of the current alternative as one. -/
def current (group : Open) : Part :=
  match group.parts with
  | [] => ⟨.empty, 0, false⟩
  | [part] => part
  | parts => ⟨inRow (parts.map (·.expression)).reverse, 1 + (parts.map (·.depth)).foldl max 0, false⟩

/-- All alternatives as one. -/
def content (group : Open) : Part :=
  match group.finished with
  | [] => group.current
  | finished =>
    let alternatives := group.current :: finished
    ⟨inChoice (alternatives.map (·.expression)).reverse, 1 + (alternatives.map (·.depth)).foldl max 0, false⟩

/-- The part a group is when it closes. -/
def close (group : Open) : Part :=
  let content := group.content
  let expression := match group.index with
    | some index => .group index content.expression
    | none => content.expression
  ⟨expression, content.depth + 1, false⟩

end Open

/-- What has been read: the innermost open group, those around it, the flags in force, the number of groups with a
number, and the names taken. -/
structure Reading where
  innermost : Open
  around : List Open
  flags : Flags
  groups : Nat
  names : List Text

namespace Reading

/-- Nothing read yet. -/
def initial : Reading :=
  ⟨⟨none, .initial, [], []⟩, [], .initial, 0, []⟩

/-- One part more in the innermost group. -/
def push (reading : Reading) (part : Part) : Reading :=
  { reading with innermost := { reading.innermost with parts := part :: reading.innermost.parts } }

/-- One part more that is not nested. -/
def pushPlain (reading : Reading) (expression : Expression) : Reading :=
  reading.push ⟨expression, 0, false⟩

/-- A group opens. -/
def opened (reading : Reading) (index : Option Nat) (flags : Flags) : Reading :=
  { reading with
    innermost := ⟨index, reading.flags, [], []⟩
    around := reading.innermost :: reading.around
    flags }

/-- A group with a number opens. -/
def openedNext (reading : Reading) : Reading :=
  { reading.opened (some (reading.groups + 1)) reading.flags with groups := reading.groups + 1 }

/-- The innermost group closes. -/
def closed? (reading : Reading) : Option Reading :=
  match reading.around with
  | [] => none
  | outer :: around =>
    some (push { reading with innermost := outer, around, flags := reading.innermost.outerFlags }
      reading.innermost.close)

/-- The next alternative begins. -/
def bar (reading : Reading) : Reading :=
  let group := reading.innermost
  { reading with innermost := { group with finished := group.current :: group.finished, parts := [] } }

/-- The latest part repeated. -/
def repeated? (reading : Reading) (least : Nat) (most : Option Nat) (greedy : Bool) : Option Reading :=
  match reading.innermost.parts with
  | [] => none
  | part :: parts =>
    let repeated : Part := ⟨times part.expression least most (greedy != reading.flags.short), part.depth + 1, false⟩
    if part.setsFlags then none
    else some { reading with innermost := { reading.innermost with parts := repeated :: parts } }

end Reading

/-! ## Repetitions -/

/-- The greatest bound of a repetition. -/
def mostTimes : Nat :=
  4294967295

/-- A bound of a repetition with blanks around it, if there is one, and what follows. -/
def bound? (flags : Flags) (text : Text) : Option (Nat × Text) :=
  let (digits, after) := flags.run Char.isDigit false (Text.skipBlank text)
  let n := digits.foldl (fun n d => n * 10 + (d.toNat - '0'.toNat)) 0
  if digits.isEmpty ∨ mostTimes < n then none else some (n, flags.skip (Text.skipBlank after))

/-- The bounds of a counted repetition, from behind its opening brace. -/
def bounds? (flags : Flags) (text : Text) : Option ((Nat × Option Nat) × Text) := do
  let (least, rest) ← bound? flags (flags.skip text)
  match rest with
  | '\x7d' :: rest => return ((least, some least), flags.skip rest)
  | ',' :: rest =>
    match flags.skip rest with
    | '\x7d' :: rest => return ((least, none), flags.skip rest)
    | rest =>
      let (most, rest) ← bound? flags rest
      match rest with
      | '\x7d' :: rest => if least ≤ most then return ((least, some most), flags.skip rest) else none
      | _ => none
  | _ => none

/-- The latest part repeated; a question mark behind the bounds asks for the shorter match. -/
def repeatedBy? (reading : Reading) (least : Nat) (most : Option Nat) (text : Text) : Option (Reading × Text) :=
  match text with
  | '?' :: rest => (reading.repeated? least most false).map (·, rest)
  | rest => (reading.repeated? least most true).map (·, rest)

/-! ## Openings of groups -/

/-- Whether a character can stand in the name of a group behind its first. -/
def isNameChar (c : Char) : Bool :=
  c == '_' || c == '.' || c == '[' || c == ']' || Text.isLetterOrNumeral c

/-- The name of a group, up to its angle bracket, and what follows that. -/
def groupName? (text : Text) : Option (Text × Text) :=
  match text.dropWhile (· != '>') with
  | [] => none
  | _ :: after =>
    match text.takeWhile (· != '>') with
    | [] => none
    | c :: rest => if (c == '_' || Text.isLetter c) && rest.all isNameChar then some (c :: rest, after) else none

/-- A named group, from behind the angle bracket. -/
def openNamed? (reading : Reading) (text : Text) : Option (Reading × Text) := do
  let (name, after) ← groupName? text
  if reading.names.contains name then none
  else return ({ reading.openedNext with names := name :: reading.names }, after)

/-- A group without a number, or flags on their own, from behind the question mark. -/
def openFlagged? (reading : Reading) (text : Text) : Option (Reading × Text) := do
  let ends (c : Char) := c == ':' || c == ')'
  let letters := text.takeWhile (!ends ·)
  let flags ← reading.flags.setAll? letters
  match text.dropWhile (!ends ·) with
  | ':' :: rest => return (reading.opened none flags, rest)
  | _ :: rest => if letters.isEmpty then none else return ({ reading with flags }.push ⟨.empty, 0, true⟩, rest)
  | [] => none

/-- A group, from behind its parenthesis. -/
def open? (reading : Reading) (text : Text) : Option (Reading × Text) :=
  match reading.flags.skip text with
  | '?' :: '=' :: _ | '?' :: '!' :: _ | '?' :: '<' :: '=' :: _ | '?' :: '<' :: '!' :: _ => none
  | '?' :: 'P' :: '<' :: rest => openNamed? reading rest
  | '?' :: '<' :: rest => openNamed? reading rest
  | '?' :: rest => openFlagged? reading rest
  | rest => some (reading.openedNext, rest)

/-! ## Reading -/

/-- The expression of an atom outside of brackets. -/
def ofAtom (flags : Flags) : Atom → Expression
  | .char c => flags.character c
  | .anyOf set => ofSet set
  | .look l => .look l

/-- Reads one part that starts with this character; of a set in brackets so many steps at most. -/
def step? (steps : Nat) (reading : Reading) (c : Char) (rest : Text) : Option (Reading × Text) :=
  let flags := reading.flags
  match c with
  | '(' => open? reading rest
  | ')' => reading.closed?.map (·, rest)
  | '|' => some (reading.bar, rest)
  | '[' =>
    (bracketed? flags steps rest).map fun (nested, after) =>
      (reading.push ⟨ofSet nested.set, nested.depth, false⟩, after)
  | '?' => repeatedBy? reading 0 (some 1) rest
  | '*' => repeatedBy? reading 0 none rest
  | '+' => repeatedBy? reading 1 none rest
  | '\x7b' => (bounds? flags rest).bind fun ((least, most), after) => repeatedBy? reading least most after
  | '\\' => (Atom.escape? flags rest).map fun (atom, after) => (reading.pushPlain (ofAtom flags atom), after)
  | '.' => flags.dot?.map fun set => (reading.pushPlain (ofSet set), rest)
  | '^' => some (reading.pushPlain (.look flags.atStart), rest)
  | '$' => some (reading.pushPlain (.look flags.atEnd), rest)
  | c => some (reading.pushPlain (flags.character c), rest)

/-- Reads to the end; each part takes a character or more, so there are no more of them than characters. -/
def readFrom? : Nat → Reading → Text → Option Reading
  | 0, _, _ => none
  | fuel + 1, reading, text =>
    match reading.flags.skip text with
    | [] => some reading
    | c :: rest => do
      let (reading, after) ← step? fuel reading c rest
      readFrom? fuel reading after

/-- The expression a text spells, if it spells one that may be used. -/
def read? (text : Text) : Option Expression := do
  let reading ← readFrom? (text.length + 1) .initial text
  let part := reading.innermost.content
  if reading.around.isEmpty && part.depth ≤ mostLevels && part.expression.fits then return part.expression else none

end DtsBundle.Expression
