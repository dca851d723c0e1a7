import DtsBundle.Text.Lines
/-!
# UTF-8

Text is stored and printed as bytes in UTF-8.  Reading is done by one machine that takes a byte at a time; its state is
what the character begun so far still owes: how many bytes, and between which bounds the next of them lies.  The first
byte after the leading one has narrower bounds where a wider one would spell a character too long, a surrogate or a
number past U+10FFFF.

The machine's output has a character for each well-formed sequence and a gap for each longest run of bytes that began
one and could not go on.  Strict reading is the output without gaps; forgiving reading puts the replacement character
U+FFFD in each.
-/
namespace DtsBundle.Text

/-- The bytes of a text. -/
def utf8 (text : Text) : List UInt8 :=
  text.flatMap String.utf8EncodeChar

/-- How many bytes a text takes. -/
def byteCount (text : Text) : Nat :=
  text.foldl (fun n c => n + c.utf8Size) 0

namespace Utf8

/-- A character begun: the bytes still owed, the bounds of the next one and the number spelled so far. -/
structure Begun where
  owed : Nat
  low : Nat
  high : Nat
  value : Nat
deriving DecidableEq, Repr

/-- What a leading byte begins. -/
def lead? (b : Nat) : Option Begun :=
  if 0xC2 ≤ b ∧ b ≤ 0xDF then some ⟨1, 0x80, 0xBF, b - 0xC0⟩
  else if b = 0xE0 then some ⟨2, 0xA0, 0xBF, 0⟩
  else if b = 0xED then some ⟨2, 0x80, 0x9F, 0xD⟩
  else if 0xE1 ≤ b ∧ b ≤ 0xEF then some ⟨2, 0x80, 0xBF, b - 0xE0⟩
  else if b = 0xF0 then some ⟨3, 0x90, 0xBF, 0⟩
  else if 0xF1 ≤ b ∧ b ≤ 0xF3 then some ⟨3, 0x80, 0xBF, b - 0xF0⟩
  else if b = 0xF4 then some ⟨3, 0x80, 0x8F, 4⟩
  else none

/-- A byte where a character may begin. -/
def start (b : Nat) : List (Option Char) × Option Begun :=
  if b < 0x80 then ([some (Char.ofNat b)], none)
  else match lead? b with
    | some begun => ([], some begun)
    | none => ([none], none)

/-- One byte: what it completes, and the character begun after it. -/
def step : Option Begun → Nat → List (Option Char) × Option Begun
  | none, b => start b
  | some begun, b =>
    if begun.low ≤ b ∧ b ≤ begun.high then
      let value := begun.value * 64 + (b - 0x80)
      if begun.owed ≤ 1 then ([some (Char.ofNat value)], none)
      else ([], some ⟨begun.owed - 1, 0x80, 0xBF, value⟩)
    else
      let (out, next) := start b
      (none :: out, next)

/-- The characters and gaps of some bytes, from a state of the machine. -/
def scanFrom : Option Begun → List UInt8 → List (Option Char)
  | none, [] => []
  | some _, [] => [none]
  | state, b :: rest =>
    let (out, next) := step state b.toNat
    out ++ scanFrom next rest

/-- The characters of some bytes, with a gap for each longest run that spells none. -/
def scan (bytes : List UInt8) : List (Option Char) :=
  scanFrom none bytes

end Utf8

/-- The text that some bytes spell, if they are well-formed throughout. -/
def ofUtf8? (bytes : List UInt8) : Option Text :=
  (Utf8.scan bytes).mapM id

/-- The text that some bytes spell, with U+FFFD for each run that is not well-formed. -/
def ofUtf8Lossy (bytes : List UInt8) : Text :=
  (Utf8.scan bytes).map (·.getD '\uFFFD')

end DtsBundle.Text
