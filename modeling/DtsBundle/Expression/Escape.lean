import DtsBundle.Expression.Flags
/-!
# Escapes

What a backslash gives: a character by its number, a control by its letter, a sign that would mean something else, a set
by its letter or its name, or something asked of the place.  A backslash before any other letter or digit, or before a
character that is not ASCII, is refused, and so are `\<` and `\>` everywhere but as edges of words.
-/
namespace DtsBundle.Expression

/-- What one written part stands for, where that can stand in a set too. -/
inductive Atom where
  | char (c : Char)
  | anyOf (set : CharSet)
  | look (look : Look)
deriving DecidableEq, Repr

namespace Atom

/-! ## Numbers -/

/-- Whether a character is a hexadecimal digit. -/
def isHexDigit (c : Char) : Bool :=
  c.isDigit || ('a' ≤ c && c ≤ 'f') || ('A' ≤ c && c ≤ 'F')

/-- The character of a number, if it has one. -/
def ofNumber? (n : Nat) : Option Char :=
  if n ≤ 0xD7FF ∨ (0xE000 ≤ n ∧ n ≤ CharSet.last) then some (Char.ofNat n) else none

/-- So many hexadecimal digits, and what follows them. -/
def digits? (flags : Flags) : Nat → Text → Option (Text × Text)
  | 0, text => some ([], text)
  | _ + 1, [] => none
  | n + 1, c :: rest =>
    if isHexDigit c then (digits? flags n (flags.skip rest)).map fun (digits, after) => (c :: digits, after) else none

/-- A character by its number, from behind the letter: so many digits, or any number of them in braces.  Two digits
alone stand for a byte, which has to be ASCII where the flags say so. -/
def numbered? (flags : Flags) (count : Nat) (text : Text) : Option (Atom × Text) := do
  match flags.skip text with
  | '\x7b' :: rest =>
    let (digits, after) ← flags.braced? false rest
    if digits.isEmpty || !digits.all isHexDigit then none
    else return (.char (← ofNumber? (CharSet.ofHex digits)), after)
  | text =>
    let (digits, after) ← digits? flags count text
    let n := CharSet.ofHex digits
    if count = 2 ∧ 0x80 ≤ n ∧ !flags.unicode then none else return (.char (← ofNumber? n), after)

/-! ## Properties -/

/-- The set that a name asks for, and whether it asks for what the set lacks. -/
def query? (name : Text) : Option (CharSet × Bool) :=
  match Text.cutAt? "!=".toList name with
  | some (property, value) => (Characters.valued? property value).map (·, true)
  | none =>
    match Text.cutAt? [':'] name <|> Text.cutAt? ['='] name with
    | some (property, value) => (Characters.valued? property value).map (·, false)
    | none => (Characters.named? name).map (·, false)

/-- A set by its name, from behind the letter: a single character, or a name in braces. -/
def property? (flags : Flags) (negated : Bool) (text : Text) : Option (Atom × Text) := do
  let (name, after) ← match flags.skip text with
    | [] => none
    | '\x7b' :: rest => flags.braced? false rest
    | '\\' :: _ => none
    | c :: rest => some ([c], rest)
  let (set, lacked) ← query? name
  if !flags.unicode then none else return (.anyOf (← flags.foldAndNegate? (negated != lacked) set), after)

/-! ## Edges of words -/

/-- Whether a character can be part of the name of an edge. -/
def isEdgeChar (c : Char) : Bool :=
  c.isAlpha || c == '-'

/-- The edge of a name. -/
def edge? (name : Text) : Option WordEdge :=
  if name = "start".toList then some .start
  else if name = "end".toList then some .stop
  else if name = "start-half".toList then some .noneBefore
  else if name = "end-half".toList then some .noneAfter
  else none

/-- An edge of a word, from behind the letter.  Braces that start with a letter or a hyphen name the edge; others are
left to be the bounds of a repetition. -/
def edge (flags : Flags) (text : Text) : Option (Atom × Text) :=
  let plain : Atom := .look (.word .either flags.unicode)
  match text with
  | '\x7b' :: rest =>
    match flags.skip rest with
    | [] => none
    | c :: _ =>
      if isEdgeChar c then do
        let (name, after) ← flags.braced? false rest
        return (.look (.word (← edge? name) flags.unicode), after)
      else some (plain, text)
  | text => some (plain, text)

/-! ## Escapes -/

/-- Whether a backslash makes a character stand for itself. -/
def isEscapable (c : Char) : Bool :=
  c.toNat < 0x80 && !c.isAlphanum && c != '<' && c != '>'

/-- What a backslash gives, from behind it. -/
def escape? (flags : Flags) (text : Text) : Option (Atom × Text) :=
  match text with
  | [] => none
  | c :: rest =>
    match c with
    | 'x' => numbered? flags 2 rest
    | 'u' => numbered? flags 4 rest
    | 'U' => numbered? flags 8 rest
    | 'p' => property? flags false rest
    | 'P' => property? flags true rest
    | 'a' => some (.char '\x07', rest)
    | 'f' => some (.char '\x0c', rest)
    | 't' => some (.char '\t', rest)
    | 'n' => some (.char '\n', rest)
    | 'r' => some (.char '\r', rest)
    | 'v' => some (.char '\x0b', rest)
    | 'A' => some (.look .textStart, rest)
    | 'z' => some (.look .textEnd, rest)
    | 'b' => edge flags rest
    | 'B' => some (.look (.word .neither flags.unicode), rest)
    | '<' => some (.look (.word .start flags.unicode), rest)
    | '>' => some (.look (.word .stop flags.unicode), rest)
    | c =>
      match flags.letterSet? c with
      | some set => some (.anyOf set, rest)
      | none => if isEscapable c then some (.char c, rest) else none

end Atom
end DtsBundle.Expression
