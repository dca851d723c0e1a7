import DtsBundle.Characters.Category
/-!
# Digits

The decimal digits of every script: the general category Nd.  Arithmetic in this library reads ASCII digits only; this
class is what a pattern's digit class accepts.
-/
namespace DtsBundle.Text

/-- The set of decimal digits. -/
def decimalDigits : CharSet :=
  Characters.inCategories "Nd"

/-- A decimal digit of any script. -/
def isDigit (c : Char) : Bool :=
  c.isDigit || decimalDigits.has c

end DtsBundle.Text
