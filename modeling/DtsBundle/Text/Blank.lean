import DtsBundle.Characters.Set
/-!
# Blank characters

The characters with the property White_Space, which are the ones a pattern may skip over.  There are twenty-five, and
the list is closed: the property has not changed since the mark U+180E left it.
-/
namespace DtsBundle.Text

/-- The White_Space characters. -/
def isBlank (c : Char) : Bool :=
  let n := c.toNat
  (0x9 ≤ n && n ≤ 0xD) || n == 0x20 || n == 0x85 || n == 0xA0 || n == 0x1680 || (0x2000 ≤ n && n ≤ 0x200A)
    || n == 0x2028 || n == 0x2029 || n == 0x202F || n == 0x205F || n == 0x3000

/-- The set of the White_Space characters. -/
def blanks : CharSet :=
  ⟨[(0x9, 0xD), (0x20, 0x20), (0x85, 0x85), (0xA0, 0xA0), (0x1680, 0x1680), (0x2000, 0x200A), (0x2028, 0x2029),
    (0x202F, 0x202F), (0x205F, 0x205F), (0x3000, 0x3000)]⟩

/-- A text from its first character that is not blank. -/
def skipBlank (text : Text) : Text :=
  text.dropWhile isBlank

end DtsBundle.Text
