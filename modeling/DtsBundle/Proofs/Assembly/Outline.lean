import DtsBundle.Proofs.Assembly.Growth
import DtsBundle.Proofs.Layout.Leaves
import Mathlib.Data.List.Forall2
/-!
# A package has the shape of its layout

What is left of a layout without its stems is an outline: names, one inside the other, and of each whether a source or a
group stands there.  A package has an outline too, if each of its modules holds one unit or modules only.  **A package
that was built has the outline of its layout**, states no dependency of its own, and holds one unit for each leaf, in
order (`build_mirrors`).  Both are followed along the rules by which a forest grows.
-/
namespace DtsBundle

/-- Names in order and one inside the other, each of a leaf or of a group. -/
inductive Outline where
  | nil
  | leaf (name : Text) (next : Outline)
  | group (name : Text) (inside next : Outline)
deriving DecidableEq, Repr

/-- A layout without its stems. -/
def Layout.outline : Layout → Outline
  | empty => .nil
  | source name _ rest => .leaf name rest.outline
  | group name members rest => .group name members.outline rest.outline

namespace Forest

/-- A forest without its units, if they stand alone in a module each: a module with one unit is a leaf, and one with
modules only, or with nothing, a group. -/
def outline? : Forest → Option Outline
  | nil => some .nil
  | leaf _ _ => none
  | node name (leaf _ nil) next => next.outline?.map (.leaf name)
  | node name inside next => inside.outline?.bind fun members => next.outline?.map (.group name members)

theorem outline?_group {name : Text} {inside next : Forest} {members rest : Outline}
    (hinside : inside.outline? = some members) (hnext : next.outline? = some rest) :
    (node name inside next).outline? = some (.group name members rest) := by
  cases inside with
  | leaf unit more => cases hinside
  | nil =>
    obtain rfl := Option.some.inj hinside
    simp only [outline?, hnext, Option.bind_some, Option.map_some]
  | node other inner more =>
    simp only [outline?] at hinside ⊢
    simp only [hinside, hnext, Option.bind_some, Option.map_some]

end Forest

namespace Sources

variable {sources : Sources} {name : Text} {layout : Layout} {children : Forest} {built : Bundle}

theorem Grown.outline?_eq (h : Grown sources layout children) : children.outline? = some layout.outline := by
  induction h with
  | empty => rfl
  | source hread hnext ih => simp only [Forest.outline?, Layout.outline, ih, Option.map_some]
  | group hinside hnext ihInside ihNext => exact Forest.outline?_group ihInside ihNext

/-- A unit is what the file of a leaf states. -/
def HasUnit (sources : Sources) (leaf : Layout.Leaf) (unit : SourceUnit) : Prop :=
  ∃ text, sources.files.readText sources.here (leaf.file sources.base) = .ok text ∧
    unit = SourceUnit.parseWith sources.patterns text

theorem Grown.hasUnits (h : Grown sources layout children) :
    List.Forall₂ sources.HasUnit layout.leaves children.units := by
  induction h with
  | empty => exact .nil
  | source hread hnext ih => exact .cons ⟨_, hread, rfl⟩ ih
  | @group name members rest inside next hinside hnext ihInside ihNext =>
    have hmembers : List.Forall₂ sources.HasUnit (members.leaves.map (.inside name)) inside.units :=
      List.forall₂_map_left_iff.2 ihInside
    exact List.rel_append hmembers ihNext

/-- A package in the shape of a layout: the same modules in the same order one inside the other, a unit in each leaf, and
nothing moved up yet. -/
structure Mirrors (sources : Sources) (layout : Layout) (bundle : Bundle) : Prop where
  references : bundle.references = []
  requirements : bundle.requirements = []
  outline : bundle.children.outline? = some layout.outline
  units : List.Forall₂ sources.HasUnit layout.leaves bundle.units
  count : bundle.units.length = layout.sourceCount

/-- **A package that was built has the shape of its layout**, and the units of its sources in their order. -/
theorem build_mirrors (h : (sources.build name layout).2 = .ok built) :
    built.name = name ∧ Mirrors sources layout built := by
  obtain ⟨-, -, children, hforest, rfl⟩ := build_eq_ok_iff.1 h
  have hgrown := forest_eq_ok_iff.1 hforest
  have hunits : List.Forall₂ sources.HasUnit layout.leaves children.units := hgrown.hasUnits
  have hcount : children.units.length = layout.sourceCount := by
    rw [← hunits.length_eq, Layout.length_leaves]
  exact ⟨rfl, rfl, rfl, hgrown.outline?_eq, hunits, hcount⟩

/-- A layout with an empty group, a group in a group, and one stem twice. -/
def unevenLayout : Layout :=
  .group ['e'] .empty (.source ['a'] ['s'] (.group ['g'] (.group ['h'] (.source ['b'] ['s'] .empty) .empty) .empty))

/-- The one source of that layout. -/
def unevenSources : Sources :=
  ⟨⟨[(["s.ts".toList], .file (Text.utf8 "var x = require('x');\ny".toList))]⟩, [], [], .canonical⟩

theorem build_mirrors_uneven :
    ∃ built, (unevenSources.build ['p'] unevenLayout).2 = .ok built ∧
      built.units = List.replicate 2 ⟨[], [⟨.var, ['x'], ['x']⟩], [['y']]⟩ ∧
      built.name = ['p'] ∧ Mirrors unevenSources unevenLayout built := by
  let unit : Forest := .leaf ⟨[], [⟨.var, ['x'], ['x']⟩], [['y']]⟩ .nil
  have hbuilt : (unevenSources.build ['p'] unevenLayout).2 =
      .ok ⟨['p'], [], [], .node ['e'] .nil (.node ['a'] unit (.node ['g'] (.node ['h'] (.node ['b'] unit .nil) .nil) .nil))⟩ := by
    decide +kernel
  exact ⟨_, hbuilt, rfl, build_mirrors hbuilt⟩

end Sources
end DtsBundle
