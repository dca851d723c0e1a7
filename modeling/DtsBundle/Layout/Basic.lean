import DtsBundle.Identifier
/-!
# Layouts

A layout says how a package is put together: named members in order, each the stem of a source file or a group with
members of its own.  The order of the members is the order of the modules they become.

Members are put in by name.  A name that is there already keeps its place and takes the new value, so each name stands
once, where it first appeared, with the value it was last given.  Two layouts are the same if they have the same
members with the same values, in whatever order.
-/
namespace DtsBundle

/-- Named members in order: stems of source files, and groups. -/
inductive Layout where
  | empty
  | source (name stem : Text) (rest : Layout)
  | group (name : Text) (members rest : Layout)
deriving DecidableEq, Repr

namespace Layout

/-- What a name of a layout stands for. -/
inductive Entry where
  | source (stem : Text)
  | group (members : Layout)
deriving DecidableEq, Repr

/-- A layout with one member more in front. -/
def cons (name : Text) : Entry → Layout → Layout
  | .source stem, rest => source name stem rest
  | .group members, rest => group name members rest

/-- Puts a member in: at the place its name has already, or else at the end. -/
def insert (name : Text) (entry : Entry) : Layout → Layout
  | empty => cons name entry empty
  | source other stem rest =>
    if other = name then cons name entry rest else source other stem (rest.insert name entry)
  | group other members rest =>
    if other = name then cons name entry rest else group other members (rest.insert name entry)

/-- What a name stands for, if it is there. -/
def find? (name : Text) : Layout → Option Entry
  | empty => none
  | source other stem rest => if other = name then some (.source stem) else rest.find? name
  | group other members rest => if other = name then some (.group members) else rest.find? name

/-- How many members a layout has, groups counting as one. -/
def size : Layout → Nat
  | empty => 0
  | source _ _ rest => rest.size + 1
  | group _ _ rest => rest.size + 1

/-- The members of a layout in order. -/
def toList : Layout → List (Text × Entry)
  | empty => []
  | source name stem rest => (name, .source stem) :: rest.toList
  | group name members rest => (name, .group members) :: rest.toList

/-- How many source files a layout names, at every depth. -/
def sourceCount : Layout → Nat
  | empty => 0
  | source _ _ rest => rest.sourceCount + 1
  | group _ members rest => members.sourceCount + rest.sourceCount

/-- The first name that is no identifier; the name of a group comes before those inside it. -/
def badName? : Layout → Option Text
  | empty => none
  | source name _ rest => if isIdentifier name then rest.badName? else some name
  | group name members rest =>
    if isIdentifier name then members.badName? <|> rest.badName? else some name

/-- Whether every member of one layout stands in another with the same value. -/
def isWithin : Layout → Layout → Bool
  | empty, _ => true
  | source name stem rest, other => other.find? name == some (.source stem) && rest.isWithin other
  | group name members rest, other =>
    (match other.find? name with
      | some (.group members') => members.size == members'.size && members.isWithin members'
      | _ => false) && rest.isWithin other

/-- Whether two layouts have the same members with the same values, in whatever order. -/
def isSame (a b : Layout) : Bool :=
  a.size == b.size && a.isWithin b

end Layout
end DtsBundle
