import DtsBundle.Text.Utf8
/-!
# What can be wrong with a JSON text

A fault has a cause and a place.  A reader knows its place by what is still ahead of it, so the place is kept as the
number of bytes left, and the line and the column are counted from the whole text when the fault is told: lines from 1,
and columns as bytes since the last line feed.
-/
namespace DtsBundle.Json

/-- What is wrong. -/
inductive Cause where
  | endInValue
  | endInObject
  | endInList
  | endInString
  | noValue
  | noWord
  | noColon
  | noListEnd
  | noObjectEnd
  | trailingComma
  | trailingCharacters
  | keyNotString
  | controlCharacter
  | badEscape
  | loneSurrogate
  | endOfEscape
  | badNumber
  | numberOutOfRange
  | tooDeep
  | unexpected (found expected : Text)
  | noVariant (wanted : Text)
deriving DecidableEq, Repr

/-- The wording of a cause. -/
def Cause.message : Cause → Text
  | endInValue => "EOF while parsing a value".toList
  | endInObject => "EOF while parsing an object".toList
  | endInList => "EOF while parsing a list".toList
  | endInString => "EOF while parsing a string".toList
  | noValue => "expected value".toList
  | noWord => "expected ident".toList
  | noColon => "expected `:`".toList
  | noListEnd => "expected `,` or `]`".toList
  | noObjectEnd => "expected `,` or `\x7d`".toList
  | trailingComma => "trailing comma".toList
  | trailingCharacters => "trailing characters".toList
  | keyNotString => "key must be a string".toList
  | controlCharacter => "control character (\\u0000-\\u001F) found while parsing a string".toList
  | badEscape => "invalid escape".toList
  | loneSurrogate => "lone leading surrogate in hex escape".toList
  | endOfEscape => "unexpected end of hex escape".toList
  | badNumber => "invalid number".toList
  | numberOutOfRange => "number out of range".toList
  | tooDeep => "recursion limit exceeded".toList
  | unexpected found expected => "invalid type: ".toList ++ found ++ ", expected ".toList ++ expected
  | noVariant wanted => "data did not match any variant of untagged enum ".toList ++ wanted

/-- A cause, and how many bytes were left where it was found. -/
structure Fault where
  cause : Cause
  left : Nat
deriving DecidableEq, Repr

/-- A line, and a column in bytes. -/
structure Position where
  line : Nat
  column : Nat
deriving DecidableEq, Repr

/-- The position so many bytes further on in a text. -/
def Position.move (position : Position) : Text → Nat → Position
  | [], _ => position
  | c :: rest, bytes =>
    if bytes < c.utf8Size then { position with column := position.column + bytes }
    else if c = '\n' then Position.move ⟨position.line + 1, 0⟩ rest (bytes - c.utf8Size)
    else Position.move { position with column := position.column + c.utf8Size } rest (bytes - c.utf8Size)

/-- Where in a text a fault was found. -/
def Fault.position (fault : Fault) (text : Text) : Position :=
  Position.move ⟨1, 0⟩ text (Text.byteCount text - fault.left)

/-- A fault in words, for the text it was found in. -/
def Fault.message (fault : Fault) (text : Text) : Text :=
  let position := fault.position text
  fault.cause.message ++ " at line ".toList ++ .ofNat position.line ++ " column ".toList ++ .ofNat position.column

/-- A fault at the place before a text. -/
def faultAt {α : Type} (ahead : Text) (cause : Cause) : Except Fault α :=
  .error ⟨cause, Text.byteCount ahead⟩

/-- A fault at the place behind the first byte of a text, or at the end where there is none. -/
def faultBehind {α : Type} (ahead : Text) (cause : Cause) : Except Fault α :=
  .error ⟨cause, Text.byteCount ahead - 1⟩

end DtsBundle.Json
