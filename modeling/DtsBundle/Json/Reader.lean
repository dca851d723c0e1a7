import DtsBundle.Json.Value
/-!
# Reading a JSON text

Each reader takes the text ahead of it and gives what it read with the text that is left, or the first fault.  Values
nest at most so many deep as the reader is told, and the recursion is on that number; the members of a list or an object
are read in a loop that each member shortens the text of, so the length of the text bounds it.

Two habits decide where a fault is found.  One that is seen before a character is taken is found behind the first byte
of that character; one that comes with a character taken is found behind the bytes taken so far.
-/
namespace DtsBundle.Json

/-- Blanks between tokens: space, tab, line feed and carriage return. -/
def isSpace (c : Char) : Bool :=
  c == ' ' || c == '\t' || c == '\n' || c == '\r'

/-- A text from its first character that is not a blank. -/
def skipSpace (text : Text) : Text :=
  text.dropWhile isSpace

/-! ## Words -/

/-- The rest of a word whose first letter was taken. -/
def readWord : Text → Text → Except Fault Text
  | [], text => .ok text
  | _ :: _, [] => faultAt [] .endInValue
  | w :: word, c :: rest => if c = w then readWord word rest else faultBehind (c :: rest) .noWord

/-! ## Strings -/

/-- The value of a hexadecimal digit. -/
def hexValue? (c : Char) : Option Nat :=
  if '0' ≤ c ∧ c ≤ '9' then some (c.toNat - '0'.toNat)
  else if 'a' ≤ c ∧ c ≤ 'f' then some (c.toNat - 'a'.toNat + 10)
  else if 'A' ≤ c ∧ c ≤ 'F' then some (c.toNat - 'A'.toNat + 10)
  else none

/-- The number that four hexadecimal digits spell. -/
def hexUnit? (a b c d : Char) : Option Nat := do
  return (((← hexValue? a) * 16 + (← hexValue? b)) * 16 + (← hexValue? c)) * 16 + (← hexValue? d)

/-- What an escape of one letter stands for. -/
def shortEscape? : Char → Option Char
  | '"' => some '"'
  | '\\' => some '\\'
  | '/' => some '/'
  | 'b' => some '\x08'
  | 'f' => some '\x0c'
  | 'n' => some '\n'
  | 'r' => some '\r'
  | 't' => some '\t'
  | _ => none

/-- The fault where four hexadecimal digits are wanted and not ahead: too little text, or the wrong bytes. -/
def noHexUnit {α : Type} (ahead : Text) : Except Fault α :=
  if Text.byteCount ahead < 4 then faultAt [] .endInString else .error ⟨.badEscape, Text.byteCount ahead - 4⟩

/-- The fault where the second half of a pair of surrogates is wanted and its four digits are not ahead. -/
def noSecondUnit {α : Type} : Text → Except Fault α
  | [] => faultAt [] .endInString
  | '\\' :: [] => faultAt [] .endInString
  | '\\' :: 'u' :: rest => noHexUnit rest
  | '\\' :: rest => faultBehind rest .endOfEscape
  | rest => faultBehind rest .endOfEscape

/-- One character more in front of what was read. -/
def prepend (c : Char) : Text × Text → Text × Text
  | (text, rest) => (c :: text, rest)

/-- A string from behind its opening quote. -/
def readString : Text → Except Fault (Text × Text)
  | [] => faultAt [] .endInString
  | '"' :: rest => .ok ([], rest)
  | '\\' :: 'u' :: a :: b :: c :: d :: rest =>
    match hexUnit? a b c d with
    | none => noHexUnit (a :: b :: c :: d :: rest)
    | some unit =>
      if unit < 0xD800 ∨ 0xDFFF < unit then (readString rest).map (prepend (Char.ofNat unit))
      else if 0xDC00 ≤ unit then faultAt rest .loneSurrogate
      else match rest with
        | '\\' :: 'u' :: e :: f :: g :: h :: rest =>
          match hexUnit? e f g h with
          | none => noHexUnit (e :: f :: g :: h :: rest)
          | some second =>
            if 0xDC00 ≤ second ∧ second ≤ 0xDFFF then
              (readString rest).map (prepend (Char.ofNat (0x10000 + (unit - 0xD800) * 0x400 + (second - 0xDC00))))
            else faultAt rest .loneSurrogate
        | rest => noSecondUnit rest
  | '\\' :: 'u' :: rest => noHexUnit rest
  | '\\' :: c :: rest =>
    match shortEscape? c with
    | some e => (readString rest).map (prepend e)
    | none => faultBehind (c :: rest) .badEscape
  | '\\' :: [] => faultAt [] .endInString
  | c :: rest =>
    if c.toNat < 0x20 then faultBehind (c :: rest) .controlCharacter else (readString rest).map (prepend c)

/-! ## Lists and objects -/

/-- The items of a list behind its first, up to its end. -/
def readItems (read : Text → Except Fault (Value × Text)) : Nat → Text → Except Fault (List Value × Text)
  | 0, text => faultAt text .endInList
  | n + 1, text =>
    match skipSpace text with
    | [] => faultAt [] .endInList
    | ']' :: rest => .ok ([], rest)
    | ',' :: rest =>
      match skipSpace rest with
      | [] => faultAt [] .endInValue
      | ']' :: rest => faultBehind (']' :: rest) .trailingComma
      | next => do
        let (item, rest) ← read next
        let (items, rest) ← readItems read n rest
        return (item :: items, rest)
    | next => faultBehind next .noListEnd

/-- A list from behind its opening bracket. -/
def readList (read : Text → Except Fault (Value × Text)) (text : Text) : Except Fault (List Value × Text) :=
  match skipSpace text with
  | [] => faultAt [] .endInList
  | ']' :: rest => .ok ([], rest)
  | next => do
    let (item, rest) ← read next
    let (items, rest) ← readItems read rest.length.succ rest
    return (item :: items, rest)

/-- A member of an object from behind the opening quote of its name. -/
def readMember (read : Text → Except Fault (Value × Text)) (text : Text) : Except Fault ((Text × Value) × Text) := do
  let (name, rest) ← readString text
  match skipSpace rest with
  | [] => faultAt [] .endInObject
  | ':' :: rest =>
    let (value, rest) ← read rest
    return ((name, value), rest)
  | next => faultBehind next .noColon

/-- The members of an object behind its first, each taken in by a function that sees what is left behind it. -/
def readMembers {α : Type} (read : Text → Except Fault (Value × Text))
    (take : α → Text × Value → Text → Except Fault α) : Nat → α → Text → Except Fault (α × Text)
  | 0, _, text => faultAt text .endInObject
  | n + 1, taken, text =>
    match skipSpace text with
    | [] => faultAt [] .endInObject
    | '\x7d' :: rest => .ok (taken, rest)
    | ',' :: rest =>
      match skipSpace rest with
      | [] => faultAt [] .endInValue
      | '"' :: rest => do
        let (member, rest) ← readMember read rest
        let taken ← take taken member rest
        readMembers read take n taken rest
      | '\x7d' :: rest => faultBehind ('\x7d' :: rest) .trailingComma
      | next => faultBehind next .keyNotString
    | next => faultBehind next .noObjectEnd

/-- An object from behind its opening brace. -/
def readObject {α : Type} (read : Text → Except Fault (Value × Text))
    (take : α → Text × Value → Text → Except Fault α) (start : α) (text : Text) : Except Fault (α × Text) :=
  match skipSpace text with
  | [] => faultAt [] .endInObject
  | '\x7d' :: rest => .ok (start, rest)
  | '"' :: rest => do
    let (member, rest) ← readMember read rest
    let taken ← take start member rest
    readMembers read take rest.length.succ taken rest
  | next => faultBehind next .keyNotString

/-! ## Values -/

/-- A value in which lists and objects nest at most so many deep. -/
def readValue (depth : Nat) (text : Text) : Except Fault (Value × Text) :=
  match skipSpace text with
  | [] => faultAt [] .endInValue
  | 'n' :: rest => (readWord "ull".toList rest).map fun rest => (.null, rest)
  | 't' :: rest => (readWord "rue".toList rest).map fun rest => (.boolean true, rest)
  | 'f' :: rest => (readWord "alse".toList rest).map fun rest => (.boolean false, rest)
  | '-' :: rest => (Number.read true rest).map fun (n, rest) => (.number n, rest)
  | '"' :: rest => (readString rest).map fun (text, rest) => (.string text, rest)
  | '[' :: rest =>
    match depth with
    | 0 => faultAt rest .tooDeep
    | depth + 1 => (readList (readValue depth) rest).map fun (items, rest) => (.list items, rest)
  | '\x7b' :: rest =>
    match depth with
    | 0 => faultAt rest .tooDeep
    | depth + 1 =>
      (readObject (readValue depth) (fun members member _ => .ok (members ++ [member])) [] rest).map
        fun (members, rest) => (.object members, rest)
  | c :: rest =>
    if c.isDigit then (Number.read false (c :: rest)).map fun (n, rest) => (.number n, rest)
    else faultBehind (c :: rest) .noValue

end DtsBundle.Json
