import DtsBundle.Expression.Escape
/-!
# Sets in brackets

A set in brackets is made of items: characters, ranges, escapes, named ASCII sets such as `[:alpha:]`, and sets in
brackets again.  A `^` behind the opening bracket asks for what the items lack.  Between items may stand an operator:
`&&` for what both sides have, `--` for what the left side alone has, and `~~` for what just one side has; operators
bind alike, to the left, and a side without items is the empty set.

A hyphen is itself where it cannot make a range: in front, at the end and beside another one.  A closing bracket is
itself in front.
-/
namespace DtsBundle.Expression

/-- An operator between items. -/
inductive SetOperator where
  | inter
  | diff
  | symmDiff
deriving DecidableEq, Repr

/-- A set together with how deep it is nested. -/
structure Nested where
  set : CharSet
  depth : Nat

/-- An open bracket: whether it is negated, the left side of a pending operator, and the items since. -/
structure Bracket where
  negated : Bool
  left : Option (SetOperator × Nested)
  items : List Nested

namespace Bracket

/-! ## Meaning -/

/-- The items since the last operator as one set. -/
def side (bracket : Bracket) : Nested :=
  match bracket.items with
  | [] => ⟨.empty, 0⟩
  | [item] => item
  | items => ⟨.unions (items.map (·.set)), 1 + (items.map (·.depth)).foldl max 0⟩

/-- The set of an operator between two sides. -/
def SetOperator.apply : SetOperator → CharSet → CharSet → CharSet
  | .inter => CharSet.inter
  | .diff => CharSet.diff
  | .symmDiff => CharSet.symmDiff

/-- All between the brackets as one set. -/
def content (flags : Flags) (bracket : Bracket) : Nested :=
  let right := bracket.side
  match bracket.left with
  | none => right
  | some (operator, left) =>
    ⟨SetOperator.apply operator (flags.fold left.set) (flags.fold right.set), 1 + max left.depth right.depth⟩

/-- The set a bracket stands for when it closes. -/
def close? (flags : Flags) (bracket : Bracket) : Option Nested :=
  let content := bracket.content flags
  (flags.foldAndNegate? bracket.negated content.set).map (⟨·, content.depth + 1⟩)

/-- A bracket with one item more. -/
def push (bracket : Bracket) (item : Nested) : Bracket :=
  { bracket with items := item :: bracket.items }

/-- A bracket behind an operator. -/
def operate (flags : Flags) (operator : SetOperator) (bracket : Bracket) : Bracket :=
  ⟨bracket.negated, some (operator, bracket.content flags), []⟩

/-! ## Reading -/

/-- The named ASCII sets. -/
def asciiSets : List (String × CharSet) := [
  ("alnum", ⟨[(0x30, 0x39), (0x41, 0x5A), (0x61, 0x7A)]⟩),
  ("alpha", ⟨[(0x41, 0x5A), (0x61, 0x7A)]⟩),
  ("ascii", ⟨[(0x0, 0x7F)]⟩),
  ("blank", ⟨[(0x9, 0x9), (0x20, 0x20)]⟩),
  ("cntrl", ⟨[(0x0, 0x1F), (0x7F, 0x7F)]⟩),
  ("digit", ⟨[(0x30, 0x39)]⟩),
  ("graph", ⟨[(0x21, 0x7E)]⟩),
  ("lower", ⟨[(0x61, 0x7A)]⟩),
  ("print", ⟨[(0x20, 0x7E)]⟩),
  ("punct", ⟨[(0x21, 0x2F), (0x3A, 0x40), (0x5B, 0x60), (0x7B, 0x7E)]⟩),
  ("space", ⟨[(0x9, 0xD), (0x20, 0x20)]⟩),
  ("upper", ⟨[(0x41, 0x5A)]⟩),
  ("word", ⟨[(0x30, 0x39), (0x41, 0x5A), (0x5F, 0x5F), (0x61, 0x7A)]⟩),
  ("xdigit", ⟨[(0x30, 0x39), (0x41, 0x46), (0x61, 0x66)]⟩)]

/-- A named ASCII set from behind its bracket and colon: whether it is negated, the set, and what follows. -/
def asciiSet? (text : Text) : Option (Bool × CharSet × Text) :=
  let (negated, text) := match text with | '^' :: rest => (true, rest) | _ => (false, text)
  match text.dropWhile (· != ':') with
  | ':' :: ']' :: after =>
    let name := String.ofList (text.takeWhile (· != ':'))
    (asciiSets.lookup name).map (negated, ·, after)
  | _ => none

/-- A bracket from behind its opening: the `^` and what stands for itself in front. -/
def openAt (flags : Flags) (text : Text) : Bracket × Text :=
  let text := flags.skip text
  let (negated, text) := match text with | '^' :: rest => (true, flags.skip rest) | _ => (false, text)
  match flags.run (· == '-') false text with
  | ([], ']' :: rest) => (⟨negated, none, [⟨.only ']', 0⟩]⟩, flags.skip rest)
  | (hyphens, text) => (⟨negated, none, hyphens.map (⟨.only ·, 0⟩)⟩, text)

/-- One written character or escape. -/
def atom? (flags : Flags) : Text → Option (Atom × Text)
  | [] => none
  | '\\' :: rest => Atom.escape? flags rest
  | c :: rest => some (.char c, rest)

/-- A character, where the flags allow it in a set. -/
def char? (flags : Flags) (c : Char) : Option Char :=
  if flags.unicode || c.toNat < 0x80 then some c else none

/-- The item of an atom: anything but a look around. -/
def item? (flags : Flags) : Atom → Option Nested
  | .char c => (char? flags c).map fun c => ⟨.only c, 0⟩
  | .anyOf set => some ⟨set, 0⟩
  | .look _ => none

/-- The character behind a hyphen, blanks not counted.  Of a comment the number sign is passed by and its text not. -/
def peek? (flags : Flags) (text : Text) : Option Char :=
  if flags.spaced then
    match Text.skipBlank text with
    | '#' :: rest => (Text.skipBlank rest).head?
    | text => text.head?
  else text.head?

/-- A character, an escape or a range. -/
def range? (flags : Flags) (text : Text) : Option (Nested × Text) := do
  let (first, after) ← atom? flags text
  let after := flags.skip after
  match after with
  | [] => none
  | '-' :: rest =>
    if peek? flags rest = some ']' ∨ peek? flags rest = some '-' then return (← item? flags first, after)
    else
      let (second, after) ← atom? flags (flags.skip rest)
      match first, second with
      | .char low, .char high =>
        let low ← char? flags low
        let high ← char? flags high
        if low ≤ high then return (⟨.range low high, 0⟩, after) else none
      | _, _ => none
  | _ => return (← item? flags first, after)

/-- The set of a bracket, read from inside it in so many steps, with the brackets around it; and what follows the
outermost. -/
def read? (flags : Flags) : Nat → Bracket → List Bracket → Text → Option (Nested × Text)
  | 0, _, _, _ => none
  | fuel + 1, bracket, around, text =>
    match flags.skip text with
    | [] => none
    | ']' :: rest => do
      let closed ← bracket.close? flags
      match around with
      | [] => return (closed, rest)
      | outer :: around => read? flags fuel (outer.push closed) around rest
    | '&' :: '&' :: rest => read? flags fuel (bracket.operate flags .inter) around rest
    | '-' :: '-' :: rest => read? flags fuel (bracket.operate flags .diff) around rest
    | '~' :: '~' :: rest => read? flags fuel (bracket.operate flags .symmDiff) around rest
    | '[' :: rest =>
      match (match rest with | ':' :: named => asciiSet? named | _ => none) with
      | some (negated, set, after) => do
        read? flags fuel (bracket.push ⟨← flags.foldAndNegate? negated set, 0⟩) around after
      | none =>
        let (inner, after) := openAt flags rest
        read? flags fuel inner (bracket :: around) after
    | text => do
      let (item, after) ← range? flags text
      read? flags fuel (bracket.push item) around after

end Bracket

/-- A set in brackets from behind the first of them, with how deep it is nested; and what follows.  A step of reading
takes a character or more, so as many steps will do as there are characters. -/
def bracketed? (flags : Flags) (steps : Nat) (text : Text) : Option (Nested × Text) :=
  let (bracket, after) := Bracket.openAt flags text
  Bracket.read? flags steps bracket [] after

end DtsBundle.Expression
