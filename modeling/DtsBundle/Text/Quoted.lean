import DtsBundle.Text.Lines
/-!
# Quoted text

A text in JSON's quotes: the quote, the backslash and the five controls with a short form are written with a backslash,
every other control as `\u` and four lower-case hexadecimal digits, and all else as it is.
-/
namespace DtsBundle.Text

/-- The hexadecimal digit of a number below sixteen, in lower case. -/
def hexDigit (n : Nat) : Char :=
  if n < 10 then Char.ofNat ('0'.toNat + n) else Char.ofNat ('a'.toNat + (n - 10))

/-- What a character is written as inside quotes. -/
def escaped (c : Char) : Text :=
  match c with
  | '"' => ['\\', '"']
  | '\\' => ['\\', '\\']
  | '\x08' => ['\\', 'b']
  | '\x0c' => ['\\', 'f']
  | '\n' => ['\\', 'n']
  | '\r' => ['\\', 'r']
  | '\t' => ['\\', 't']
  | c => if c.toNat < 0x20 then ['\\', 'u', '0', '0', hexDigit (c.toNat / 16), hexDigit (c.toNat % 16)] else [c]

/-- A text between quotes. -/
def quoted (text : Text) : Text :=
  '"' :: text.flatMap escaped ++ ['"']

end DtsBundle.Text
