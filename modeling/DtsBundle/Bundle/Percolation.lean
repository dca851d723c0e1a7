import DtsBundle.Bundle.Basic
/-!
# Percolation

Once every file stands in one compilation unit, a relative requirement names code of that same unit and is dropped.
The other requirements and the references move up to the package, in one walk from left to right, and leave the units
they came from, so that nothing is stated twice.  What the package depended on already stays in front.
-/
namespace DtsBundle

/-- How many references and requirements moved up, and how many relative requirements were dropped. -/
structure Tally where
  references : Nat
  requirements : Nat
  dropped : Nat
deriving DecidableEq, Repr

/-- What a walk has moved so far, and the counts it keeps of what it moved and dropped. -/
structure Percolated where
  references : List Text
  requirements : List Requirement
  tally : Tally
deriving DecidableEq, Repr

namespace Percolated

/-- Nothing moved yet. -/
def none : Percolated :=
  ⟨[], [], ⟨0, 0, 0⟩⟩

/-- One unit's dependencies more, and the counts higher by as many. -/
def add (moved : Percolated) (unit : SourceUnit) : Percolated where
  references := moved.references ++ unit.references
  requirements := moved.requirements ++ unit.externals
  tally :=
    { references := moved.tally.references + unit.references.length
      requirements := moved.tally.requirements + unit.externals.length
      dropped := moved.tally.dropped + (unit.requirements.filter Requirement.isRelative).length }

end Percolated

/-- One walk from left to right: the forest without its dependencies, and what has moved by its end. -/
def Forest.percolate : Forest → Percolated → Forest × Percolated
  | .nil, moved => (.nil, moved)
  | .leaf unit next, moved =>
    let (next, moved) := next.percolate (moved.add unit)
    (.leaf unit.bodyOnly next, moved)
  | .node name inside next, moved =>
    let (inside, moved) := inside.percolate moved
    let (next, moved) := next.percolate moved
    (.node name inside next, moved)

/-- A package with the dependencies of its units moved up, and how many moved. -/
def Bundle.percolate (bundle : Bundle) : Bundle × Tally :=
  let (children, moved) := bundle.children.percolate .none
  ({ bundle with
      references := bundle.references ++ moved.references
      requirements := bundle.requirements ++ moved.requirements
      children },
    moved.tally)

end DtsBundle
