import DtsBundle.Json.Number
import DtsBundle.Text.Shown
/-!
# JSON values

A value as it was written: the members of an object in order, repeated names included.
-/
namespace DtsBundle.Json

/-- A JSON value. -/
inductive Value where
  | null
  | boolean (value : Bool)
  | number (value : Number)
  | string (value : Text)
  | list (items : List Value)
  | object (members : List (Text × Value))

/-- A value as a message names it. -/
def Value.described : Value → Text
  | null => "null".toList
  | boolean true => "boolean `true`".toList
  | boolean false => "boolean `false`".toList
  | number value => value.described
  | string value => "string ".toList ++ Text.shown value
  | list _ => "sequence".toList
  | object _ => "map".toList

end DtsBundle.Json
