import DtsBundle.Text.Lines
/-!
# Names of properties

Properties of characters and their values have names, most of them a long and a short one.  They are compared loosely:
case, blanks, low lines, hyphens and an `is` in front do not count.
-/
namespace DtsBundle.Characters

/-- Whether a name has the characters `is` in front, in any case. -/
def startsWithIs : Text → Bool
  | a :: b :: _ => (a == 'i' || a == 'I') && (b == 's' || b == 'S')
  | _ => false

/-- The letters of a name that count, in lower case. -/
def counted (name : Text) : Text :=
  (name.filter fun c => c.toNat < 0x80 && c != ' ' && c != '_' && c != '-').map Char.toLower

/-- A name as it is compared.  A `c` behind an `is` is the name `isc`, not the category `c`. -/
def loose (name : Text) : Text :=
  if startsWithIs name then
    match counted (name.drop 2) with
    | ['c'] => "isc".toList
    | rest => rest
  else counted name

/-- Whether a name, in the form to compare, is one of some. -/
def isNamed (names : List String) (name : Text) : Bool :=
  names.any fun other => counted other.toList == name

end DtsBundle.Characters
