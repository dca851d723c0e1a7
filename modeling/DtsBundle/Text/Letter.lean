import DtsBundle.Characters.Property
/-!
# Letters and numerals

A letter of any script is a character with the property Alphabetic, and a numeral one in a category of numbers, which
takes in more than the decimal digits.
-/
namespace DtsBundle.Text

/-- The set of letters. -/
def letters : CharSet :=
  Characters.alphabetic.members

/-- The set of numerals. -/
def numerals : CharSet :=
  Characters.inCategories "Nd Nl No"

/-- A letter of any script. -/
def isLetter (c : Char) : Bool :=
  c.isAlpha || letters.has c

/-- A letter or a numeral of any script. -/
def isLetterOrNumeral (c : Char) : Bool :=
  c.isAlphanum || letters.has c || numerals.has c

end DtsBundle.Text
