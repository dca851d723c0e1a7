import DtsBundle.Layout.Basic
import DtsBundle.Text.Quoted
/-!
# A layout as JSON text

A layout is written as one object without blanks: its names in order, a stem as a string and a group as an object.
-/
namespace DtsBundle.Layout

/-- Members, written out, between braces. -/
def braced (members : List Text) : Text :=
  '\x7b' :: [','].intercalate members ++ ['\x7d']

/-- The members of a layout, each written out. -/
def memberTexts : Layout → List Text
  | empty => []
  | source name stem rest => (Text.quoted name ++ ':' :: Text.quoted stem) :: rest.memberTexts
  | group name members rest => (Text.quoted name ++ ':' :: braced members.memberTexts) :: rest.memberTexts

/-- The JSON text of a layout. -/
def json (layout : Layout) : Text :=
  braced layout.memberTexts

end DtsBundle.Layout
