import DtsBundle.Layout.Basic
import DtsBundle.Json.Reader
/-!
# Reading a layout from JSON text

A layout is an object whose members are strings, which name sources, and objects of the same kind, which are groups.
Members go in one by one, so a repeated name keeps its first place and its last value.

The outermost object is checked as it is read: a member that is well written but neither kind ends the reading there,
and whatever is wrong further on stays unsaid.  Objects and lists nest 127 deep at most.
-/
namespace DtsBundle.Layout

open Json (Value Fault)

mutual

/-- What a value stands for as a member of a layout, if it can stand for one. -/
def entryOf? : Value → Option Entry
  | .string stem => some (.source stem)
  | .object members => (ofMembers? members empty).map .group
  | _ => none

/-- A layout with the members of an object put in, if each of them can be a member. -/
def ofMembers? : List (Text × Value) → Layout → Option Layout
  | [], layout => some layout
  | (name, value) :: members, layout =>
    match entryOf? value with
    | some entry => ofMembers? members (layout.insert name entry)
    | none => none

end

/-- How deep values may nest inside the outermost object. -/
def depth : Nat := 126

/-- What is left when a member that is neither kind has been refused: the end of the object, if it follows, is taken. -/
def pastEnd (text : Text) : Text :=
  match Json.skipSpace text with
  | '\x7d' :: rest => rest
  | rest => rest

/-- Puts one member of the outermost object in, or refuses it. -/
def take (layout : Layout) (member : Text × Value) (rest : Text) : Except Fault Layout :=
  match entryOf? member.2 with
  | some entry => .ok (layout.insert member.1 entry)
  | none => Json.faultAt (pastEnd rest) (.noVariant "LayoutEntry".toList)

/-- The layout that a JSON text states. -/
def ofJson (text : Text) : Except Fault Layout :=
  match Json.skipSpace text with
  | '\x7b' :: rest => do
    let (layout, rest) ← Json.readObject (Json.readValue depth) take empty rest
    match Json.skipSpace rest with
    | [] => return layout
    | next => Json.faultBehind next .trailingCharacters
  | '[' :: rest => Json.faultAt ('[' :: rest) (.unexpected "sequence".toList "a map".toList)
  | next => do
    let (value, rest) ← Json.readValue depth next
    Json.faultAt rest (.unexpected value.described "a map".toList)

end DtsBundle.Layout
