import DtsBundle.Unit.Basic
/-!
# Forests of modules

Siblings in order, each a leaf that holds a source unit or a named module with siblings of its own inside.  A forest is
written as its first sibling and the siblings after it, so one induction goes through every depth and every breadth.

Written out, a leaf is its unit's lines and a module is a block with its siblings indented by one step.
-/
namespace DtsBundle

/-- Siblings in order: source units and named modules. -/
inductive Forest where
  | nil
  | leaf (unit : SourceUnit) (next : Forest)
  | node (name : Text) (inside next : Forest)
deriving DecidableEq, Repr

/-- Lines moved in by one step of two spaces. -/
def indent (lines : List Text) : List Text :=
  lines.map fun line => ' ' :: ' ' :: line

namespace Forest

/-- The siblings of one forest and then those of another. -/
def append : Forest → Forest → Forest
  | nil, other => other
  | leaf unit next, other => leaf unit (next.append other)
  | node name inside next, other => node name inside (next.append other)

/-- How many siblings there are, whatever they hold. -/
def breadth : Forest → Nat
  | nil => 0
  | leaf _ next => next.breadth + 1
  | node _ _ next => next.breadth + 1

/-- The lines of a forest. -/
def lines : Forest → List Text
  | nil => []
  | leaf unit next => unit.lines ++ next.lines
  | node name inside next =>
    ("export module ".toList ++ name ++ " \x7b".toList) :: indent inside.lines ++ "\x7d".toList :: next.lines

/-- Every unit, at any depth, from left to right. -/
def units : Forest → List SourceUnit
  | nil => []
  | leaf unit next => unit :: next.units
  | node _ inside next => inside.units ++ next.units

/-- A named module and the siblings inside it. -/
structure Module where
  name : Text
  inside : Forest
deriving DecidableEq, Repr

/-- The first sibling module of a name. -/
def child? (name : Text) : Forest → Option Module
  | nil => none
  | leaf _ next => next.child? name
  | node other inside next => if other = name then some ⟨other, inside⟩ else next.child? name

/-- What stands inside the module that a path of names leads to. -/
def lookup? : List Text → Forest → Option Forest
  | [], forest => some forest
  | name :: path, forest => (forest.child? name).bind fun module => lookup? path module.inside

/-- A forest with more siblings behind those of the module that a path of positions leads to, if it leads to one. -/
def growAt? : Forest → List Nat → Forest → Option Forest
  | forest, [], more => some (forest.append more)
  | nil, _ :: _, _ => none
  | leaf _ _, 0 :: _, _ => none
  | leaf unit next, (i + 1) :: path, more => (next.growAt? (i :: path) more).map (leaf unit)
  | node name inside next, 0 :: path, more => (inside.growAt? path more).map (node name · next)
  | node name inside next, (i + 1) :: path, more => (next.growAt? (i :: path) more).map (node name inside)

end Forest
end DtsBundle
