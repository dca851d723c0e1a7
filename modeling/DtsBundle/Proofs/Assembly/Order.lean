import DtsBundle.Proofs.Assembly.Growth
import DtsBundle.Proofs.Bundle.Exhaustion
import DtsBundle.Proofs.Layout.Order
/-!
# The order of a layout and of its package

The order of a layout's members decides in which order the modules of the package stand, in which order sources are
read and dependencies collected, and which defect is met first.  It decides nothing else: **layouts that are the same
both give a package or both give none, and the packages are the same but for the order of sibling modules and of what was
moved up** (`build_of_isSame`).  Each of the things a package depends on is followed through one step of a reordering of
the layout.
-/
namespace DtsBundle

namespace Forest

/-- Forests that are apart by sibling modules that have changed places, at any depth. -/
inductive Reordered : Forest → Forest → Prop
  | nil : Reordered nil nil
  | leaf {unit : SourceUnit} {next next' : Forest} (hnext : Reordered next next') :
    Reordered (leaf unit next) (leaf unit next')
  | node {name : Text} {inside inside' next next' : Forest} (hinside : Reordered inside inside')
    (hnext : Reordered next next') : Reordered (node name inside next) (node name inside' next')
  | swap {name other : Text} {inside inside' next : Forest} :
    Reordered (node name inside (node other inside' next)) (node other inside' (node name inside next))
  | trans {f g h : Forest} (hfirst : Reordered f g) (hsecond : Reordered g h) : Reordered f h

namespace Reordered

theorem refl : ∀ forest : Forest, Reordered forest forest
  | .nil => .nil
  | .leaf _ next => .leaf (refl next)
  | .node _ inside next => .node (refl inside) (refl next)

theorem perm_units {f g : Forest} (h : Reordered f g) : f.units.Perm g.units := by
  induction h with
  | nil => exact .nil
  | leaf hnext ih => exact ih.cons _
  | node hinside hnext ihInside ihNext => exact ihInside.append ihNext
  | swap => exact List.perm_append_comm_assoc _ _ _
  | trans hfirst hsecond ihFirst ihSecond => exact ihFirst.trans ihSecond

theorem mapUnits {f g : Forest} (h : Reordered f g) (change : SourceUnit → SourceUnit) :
    Reordered (f.mapUnits change) (g.mapUnits change) := by
  induction h with
  | nil => exact .nil
  | leaf hnext ih => exact .leaf ih
  | node hinside hnext ihInside ihNext => exact .node ihInside ihNext
  | swap => exact .swap
  | trans hfirst hsecond ihFirst ihSecond => exact ihFirst.trans ihSecond

end Reordered
end Forest

namespace Bundle

/-- Packages that are the same but for the order of sibling modules and of what the packages depend on. -/
structure Reordered (a b : Bundle) : Prop where
  name : a.name = b.name
  references : a.references.Perm b.references
  requirements : a.requirements.Perm b.requirements
  children : Forest.Reordered a.children b.children

/-- **Percolation keeps the order out of everything but the order**: the same moves up, and as much of it. -/
theorem Reordered.percolate {a b : Bundle} (h : Reordered a b) :
    Reordered a.percolate.1 b.percolate.1 ∧ a.percolate.2 = b.percolate.2 := by
  have hstated {α : Type} (f : SourceUnit → List α) : (a.units.flatMap f).Perm (b.units.flatMap f) :=
    h.children.perm_units.flatMap_right f
  constructor
  · rw [percolate_eq, percolate_eq]
    exact ⟨h.name, h.references.append (hstated _), h.requirements.append (hstated _), h.children.mapUnits _⟩
  · rw [percolate_tally, percolate_tally, (hstated _).length_eq, (hstated _).length_eq, (hstated _).length_eq]

end Bundle

namespace Layout

/-- The names inside what a name stands for. -/
def Entry.names : Entry → List Text
  | .source _ => []
  | .group members => members.names

theorem names_cons (name : Text) (entry : Entry) (rest : Layout) :
    (cons name entry rest).names = (name :: entry.names) ++ rest.names := by
  cases entry <;> rfl

theorem Reordered.perm_names {a b : Layout} (h : Reordered a b) : a.names.Perm b.names := by
  induction h with
  | empty => exact .nil
  | source hrest ih => exact ih.cons _
  | group hmembers hrest ihMembers ihRest => exact (ihMembers.append ihRest).cons _
  | swap =>
    rw [names_cons, names_cons, names_cons, names_cons]
    exact List.perm_append_comm_assoc _ _ _
  | trans hfirst hsecond ihFirst ihSecond => exact ihFirst.trans ihSecond

end Layout

/-! ## What grows from both -/

namespace Sources

variable {sources : Sources} {name : Text} {a b : Layout}

/-- What has grown from a member, as the inside of its module. -/
inductive GrownInside (sources : Sources) : Layout.Entry → Forest → Prop
  | source {stem text : Text}
    (hread : sources.files.readText sources.here (Layout.sourcePath sources.base stem) = .ok text) :
    GrownInside sources (.source stem) (.leaf (SourceUnit.parseWith sources.patterns text) .nil)
  | group {members : Layout} {inside : Forest} (hinside : Grown sources members inside) :
    GrownInside sources (.group members) inside

theorem grown_cons_iff {entry : Layout.Entry} {rest : Layout} {forest : Forest} :
    Grown sources (Layout.cons name entry rest) forest ↔
      ∃ inside next, GrownInside sources entry inside ∧ Grown sources rest next ∧ forest = .node name inside next := by
  cases entry with
  | source stem =>
    constructor
    · rintro (_ | ⟨hread, hnext⟩)
      exact ⟨_, _, .source hread, hnext, rfl⟩
    · rintro ⟨_, next, ⟨hread⟩, hnext, rfl⟩
      exact .source hread hnext
  | group members =>
    constructor
    · rintro (_ | _ | ⟨hinside, hnext⟩)
      exact ⟨_, _, .group hinside, hnext, rfl⟩
    · rintro ⟨inside, next, _ | hinside, hnext, rfl⟩
      exact .group hinside hnext

/-- **What has grown from a layout has grown from it in any order**, with its modules in that order. -/
theorem Grown.reordered (h : Layout.Reordered a b) {forest : Forest} (hgrown : Grown sources a forest) :
    ∃ other, Grown sources b other ∧ Forest.Reordered forest other := by
  induction h generalizing forest with
  | empty => exact ⟨forest, hgrown, .refl forest⟩
  | source hrest ih =>
    obtain _ | ⟨hread, hnext⟩ := hgrown
    obtain ⟨next', hnext', hsame⟩ := ih hnext
    exact ⟨_, .source hread hnext', .node (.refl _) hsame⟩
  | group hmembers hrest ihMembers ihRest =>
    obtain _ | _ | ⟨hinside, hnext⟩ := hgrown
    obtain ⟨inside', hinside', hsameInside⟩ := ihMembers hinside
    obtain ⟨next', hnext', hsame⟩ := ihRest hnext
    exact ⟨_, .group hinside' hnext', .node hsameInside hsame⟩
  | swap =>
    obtain ⟨inside, _, hinside, hnext, rfl⟩ := grown_cons_iff.1 hgrown
    obtain ⟨inside', next, hinside', hrest, rfl⟩ := grown_cons_iff.1 hnext
    exact ⟨_, grown_cons_iff.2 ⟨_, _, hinside', grown_cons_iff.2 ⟨_, _, hinside, hrest, rfl⟩, rfl⟩, .swap⟩
  | trans hfirst hsecond ihFirst ihSecond =>
    obtain ⟨middle, hmiddle, hto⟩ := ihFirst hgrown
    obtain ⟨other, hother, hfrom⟩ := ihSecond hmiddle
    exact ⟨other, hother, hto.trans hfrom⟩

theorem build_eq_ok_iff_grown {built : Bundle} :
    (sources.build name a).2 = .ok built ↔
      isIdentifier name = true ∧ (∀ key ∈ a.names, isIdentifier key = true) ∧
        ∃ children, Grown sources a children ∧ built = ⟨name, [], [], children⟩ := by
  simp only [build_eq_ok_iff, Layout.badName?_eq_none_iff, forest_eq_ok_iff]

theorem build_of_reordered (h : Layout.Reordered a b) {built : Bundle} (hbuilt : (sources.build name a).2 = .ok built) :
    ∃ other, (sources.build name b).2 = .ok other ∧ Bundle.Reordered built other := by
  obtain ⟨hname, hkeys, children, hgrown, rfl⟩ := build_eq_ok_iff_grown.1 hbuilt
  obtain ⟨children', hgrown', hsame⟩ := hgrown.reordered h
  have hkeys' : ∀ key ∈ b.names, isIdentifier key = true := fun key hm => hkeys key (h.perm_names.mem_iff.2 hm)
  exact ⟨_, build_eq_ok_iff_grown.2 ⟨hname, hkeys', children', hgrown', rfl⟩, rfl, .nil, .nil, hsame⟩

/-- **The order of a layout's members only permutes the package**: layouts that are the same both give one or both give
none, and the percolated packages are the same but for the order, with as much moved up and dropped. -/
theorem build_of_isSame (sources : Sources) (name : Text) (a b : Layout.Distinct)
    (h : a.layout.isSame b.layout = true) :
    ((∃ built, (sources.build name a.layout).2 = .ok built) ↔ ∃ built, (sources.build name b.layout).2 = .ok built) ∧
      ∀ built other, (sources.build name a.layout).2 = .ok built → (sources.build name b.layout).2 = .ok other →
        Bundle.Reordered built.percolate.1 other.percolate.1 ∧ built.percolate.2 = other.percolate.2 := by
  have hreordered := Layout.reordered_of_isSame h
  refine ⟨⟨?_, ?_⟩, ?_⟩
  · rintro ⟨built, hbuilt⟩
    obtain ⟨other, hother, -⟩ := build_of_reordered hreordered hbuilt
    exact ⟨other, hother⟩
  · rintro ⟨built, hbuilt⟩
    obtain ⟨other, hother, -⟩ := build_of_reordered hreordered.symm hbuilt
    exact ⟨other, hother⟩
  · intro built other hbuilt hother
    obtain ⟨found, hfound, hsame⟩ := build_of_reordered hreordered hbuilt
    obtain rfl := Except.ok.inj (hfound.symm.trans hother)
    exact hsame.percolate

/-- A layout with two members, the first a group of two. -/
def groupFirst : Layout :=
  .group ['g'] (.source ['c'] ['a'] (.source ['d'] ['b'] .empty)) (.source ['e'] ['b'] .empty)

/-- The same layout the other way round, inside and outside of the group. -/
def groupLast : Layout :=
  .source ['e'] ['b'] (.group ['g'] (.source ['d'] ['b'] (.source ['c'] ['a'] .empty)) .empty)

/-- The sources of these layouts, in the root. -/
def twoSources : Sources :=
  ⟨⟨[(["a.ts".toList], .file (Text.utf8 "var x = require('x');".toList)),
    (["b.ts".toList], .file (Text.utf8 "import y = require('y');\nvar z = require('./z');".toList))]⟩, [], [], .canonical⟩

/-- The module that such a source becomes. -/
def moduleOf (requirements : List Requirement) : Forest :=
  .leaf ⟨[], requirements, []⟩ .nil

theorem build_of_isSame_group :
    groupFirst.isSame groupLast = true ∧
      ∃ built other, (twoSources.build ['p'] groupFirst).2 = .ok built ∧ (twoSources.build ['p'] groupLast).2 = .ok other ∧
        built.percolate.1.requirements ≠ other.percolate.1.requirements ∧
        Bundle.Reordered built.percolate.1 other.percolate.1 ∧ built.percolate.2 = other.percolate.2 := by
  let x := moduleOf [⟨.var, ['x'], ['x']⟩]
  let y := moduleOf [⟨.importAlias, ['y'], ['y']⟩, ⟨.var, ['z'], "./z".toList⟩]
  have hbuilt : (twoSources.build ['p'] groupFirst).2 =
      .ok ⟨['p'], [], [], .node ['g'] (.node ['c'] x (.node ['d'] y .nil)) (.node ['e'] y .nil)⟩ := by
    decide +kernel
  have hother : (twoSources.build ['p'] groupLast).2 =
      .ok ⟨['p'], [], [], .node ['e'] y (.node ['g'] (.node ['d'] y (.node ['c'] x .nil)) .nil)⟩ := by
    decide +kernel
  have hsame : groupFirst.isSame groupLast = true := by decide
  exact ⟨hsame, _, _, hbuilt, hother, by decide,
    (build_of_isSame twoSources ['p'] ⟨groupFirst, rfl⟩ ⟨groupLast, rfl⟩ hsame).2 _ _ hbuilt hother⟩

end Sources
end DtsBundle
