import DtsBundle.Bundle.Percolation
import DtsBundle.Proofs.Text.Lines
/-!
# What percolation moves

The walk through a forest does two things that have nothing to do with each other: each unit loses its dependencies
where it stands, and what the units lose is collected from left to right.  So **a walk gives the forest with bare units
and a fold over its units** (`percolate_eq`), and the fold is the concatenation of what the units state
(`foldl_add`).

What a forest is written as depends on its names and its units only: where none of them holds a line feed, no line does
(`Forest.not_mem_of_mem_lines`).
-/
namespace DtsBundle

namespace Forest

/-- A forest with a change to every unit. -/
def mapUnits (f : SourceUnit → SourceUnit) : Forest → Forest
  | nil => nil
  | leaf unit next => leaf (f unit) (next.mapUnits f)
  | node name inside next => node name (inside.mapUnits f) (next.mapUnits f)

/-- Every name, at any depth, from left to right, that of a module in front of those inside it. -/
def names : Forest → List Text
  | nil => []
  | leaf _ next => next.names
  | node name inside next => name :: (inside.names ++ next.names)

theorem units_mapUnits (f : SourceUnit → SourceUnit) (forest : Forest) :
    (forest.mapUnits f).units = forest.units.map f := by
  induction forest with
  | nil => rfl
  | leaf unit next ih => rw [mapUnits, units, units, ih, List.map_cons]
  | node name inside next ihInside ihNext => rw [mapUnits, units, units, ihInside, ihNext, List.map_append]

theorem names_mapUnits (f : SourceUnit → SourceUnit) (forest : Forest) : (forest.mapUnits f).names = forest.names := by
  induction forest with
  | nil => rfl
  | leaf unit next ih => rw [mapUnits, names, names, ih]
  | node name inside next ihInside ihNext => rw [mapUnits, names, names, ihInside, ihNext]

/-- **A walk bares every unit and collects what each has stated.** -/
theorem percolate_eq (forest : Forest) (moved : Percolated) :
    forest.percolate moved = (forest.mapUnits SourceUnit.bodyOnly, forest.units.foldl Percolated.add moved) := by
  induction forest generalizing moved with
  | nil => rfl
  | leaf unit next ih => simp only [percolate, ih, mapUnits, units, List.foldl_cons]
  | node name inside next ihInside ihNext =>
    simp only [percolate, ihInside, ihNext, mapUnits, units, List.foldl_append]

theorem not_mem_of_mem_indent {lines : List Text} (h : ∀ line ∈ lines, '\n' ∉ line) :
    ∀ line ∈ indent lines, '\n' ∉ line := by
  intro line hline
  obtain ⟨inner, hinner, rfl⟩ := List.mem_map.1 hline
  simp [h inner hinner]

/-- No line of a forest holds a line feed if no name and no line of a unit does. -/
theorem not_mem_of_mem_lines {forest : Forest} (hnames : ∀ name ∈ forest.names, '\n' ∉ name)
    (hunits : ∀ unit ∈ forest.units, ∀ line ∈ unit.lines, '\n' ∉ line) : ∀ line ∈ forest.lines, '\n' ∉ line := by
  induction forest with
  | nil => exact fun line hline => by cases hline
  | leaf unit next ih =>
    intro line hline
    rcases List.mem_append.1 hline with hline | hline
    · exact hunits unit List.mem_cons_self line hline
    · exact ih hnames (fun u hu => hunits u (List.mem_cons_of_mem _ hu)) line hline
  | node name inside next ihInside ihNext =>
    have hname : '\n' ∉ name := hnames name List.mem_cons_self
    have hinside := ihInside (fun n hn => hnames n (List.mem_cons_of_mem _ (List.mem_append_left _ hn)))
      fun u hu => hunits u (List.mem_append_left _ hu)
    have hnext := ihNext (fun n hn => hnames n (List.mem_cons_of_mem _ (List.mem_append_right _ hn)))
      fun u hu => hunits u (List.mem_append_right _ hu)
    intro line hline
    rw [lines, List.cons_append, List.mem_cons, List.mem_append, List.mem_cons] at hline
    rcases hline with rfl | hline | rfl | hline
    · exact Text.not_mem_around (by decide) hname (by decide)
    · exact not_mem_of_mem_indent hinside line hline
    · decide
    · exact hnext line hline

end Forest

namespace Percolated

/-- **What is collected is what was there and then what the units state**, in order, and each count is higher by as much
as they state. -/
theorem foldl_add (units : List SourceUnit) (moved : Percolated) :
    units.foldl add moved =
      { references := moved.references ++ units.flatMap SourceUnit.references
        requirements := moved.requirements ++ units.flatMap SourceUnit.externals
        tally :=
          { references := moved.tally.references + (units.flatMap SourceUnit.references).length
            requirements := moved.tally.requirements + (units.flatMap SourceUnit.externals).length
            dropped := moved.tally.dropped
              + (units.flatMap fun unit => unit.requirements.filter Requirement.isRelative).length } } := by
  induction units generalizing moved with
  | nil => simp
  | cons unit units ih => simp [ih, add, Nat.add_assoc]

end Percolated

/-- **What a percolated package is**: its name, what it depended on in front of what its units state, and its modules with
bare units. -/
theorem Bundle.percolate_eq (bundle : Bundle) :
    bundle.percolate.1 = ⟨bundle.name, bundle.references ++ bundle.units.flatMap SourceUnit.references,
      bundle.requirements ++ bundle.units.flatMap SourceUnit.externals, bundle.children.mapUnits SourceUnit.bodyOnly⟩ := by
  simp only [percolate, Forest.percolate_eq, Percolated.foldl_add, Percolated.none, List.nil_append, units]

end DtsBundle
