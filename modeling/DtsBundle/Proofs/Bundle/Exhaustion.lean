import DtsBundle.Proofs.Bundle.Percolation
import Mathlib.Data.List.Basic
/-!
# Percolation loses nothing but what is relative

Every unit states references, requirements of other packages and relative requirements.  What becomes of a package is
known from the three: the first two stand at the top afterwards, behind what stood there before and in the order of the
units, the third is gone, and no unit states anything any more.  **Nothing else changes**, so a package has as many lines
as its percolated form and the dropped requirements together, and there is nothing left to do for a second percolation
(`percolate_exhausts`).

The lines are counted unit by unit: each line of a unit is one of its dependencies or stays where it was.
-/
namespace DtsBundle

namespace SourceUnit

/-- A requirement is of another package or relative. -/
theorem length_requirements (unit : SourceUnit) :
    unit.requirements.length = unit.externals.length + (unit.requirements.filter Requirement.isRelative).length := by
  rw [externals, Nat.add_comm]
  exact List.length_eq_length_filter_add Requirement.isRelative

/-- A line of a unit states a reference, states a requirement or is one of its body. -/
theorem length_lines (unit : SourceUnit) :
    unit.lines.length = unit.bodyOnly.lines.length + unit.references.length + unit.requirements.length := by
  simp only [lines, bodyOnly, List.length_append, List.length_map, List.length_nil]
  omega

end SourceUnit

namespace Forest

/-- **A forest has the lines of its bare units and one for each of their dependencies.** -/
theorem length_lines (forest : Forest) :
    forest.lines.length = (forest.mapUnits SourceUnit.bodyOnly).lines.length
      + (forest.units.flatMap SourceUnit.references).length + (forest.units.flatMap SourceUnit.externals).length
      + (forest.units.flatMap fun unit => unit.requirements.filter Requirement.isRelative).length := by
  induction forest with
  | nil => rfl
  | leaf unit next ih =>
    have hunit := unit.length_lines
    have hrequirements := unit.length_requirements
    simp only [lines, mapUnits, units, List.flatMap_cons, List.length_append, ih]
    omega
  | node name inside next ihInside ihNext =>
    simp only [lines, mapUnits, units, indent, List.flatMap_append, List.length_append, List.length_cons,
      List.length_map, ihInside, ihNext]
    omega

/-- Units that were bared once are bare. -/
theorem mapUnits_bodyOnly (forest : Forest) :
    (forest.mapUnits SourceUnit.bodyOnly).mapUnits SourceUnit.bodyOnly = forest.mapUnits SourceUnit.bodyOnly := by
  induction forest with
  | nil => rfl
  | leaf unit next ih => simp only [mapUnits, ih, SourceUnit.bodyOnly]
  | node name inside next ihInside ihNext => simp only [mapUnits, ihInside, ihNext]

end Forest

namespace Bundle

/-- A package has a line for each dependency of its own, those of its modules, and three around them. -/
theorem length_lines (bundle : Bundle) :
    bundle.lines.length = bundle.references.length + bundle.requirements.length + bundle.children.lines.length + 3 := by
  simp only [lines, indent, List.length_append, List.length_cons, List.length_map, List.length_nil]
  omega

theorem percolate_tally (bundle : Bundle) :
    bundle.percolate.2 = ⟨(bundle.units.flatMap SourceUnit.references).length,
      (bundle.units.flatMap SourceUnit.externals).length,
      (bundle.units.flatMap fun unit => unit.requirements.filter Requirement.isRelative).length⟩ := by
  simp only [percolate, Forest.percolate_eq, Percolated.foldl_add, Percolated.none, Nat.zero_add, units]

/-- The units of a percolated package state nothing. -/
theorem flatMap_units_percolate {α : Type} {f : SourceUnit → List α} (h : ∀ unit, f (SourceUnit.bodyOnly unit) = [])
    (bundle : Bundle) : bundle.percolate.1.units.flatMap f = [] := by
  rw [percolate_eq, units, Forest.units_mapUnits, List.flatMap_map, List.flatMap_eq_nil_iff]
  exact fun unit _ => h unit

/-- A package whose units state nothing is percolated already. -/
theorem percolate_percolate (bundle : Bundle) : bundle.percolate.1.percolate = (bundle.percolate.1, ⟨0, 0, 0⟩) := by
  refine Prod.ext ?_ ?_
  · rw [percolate_eq bundle.percolate.1, flatMap_units_percolate (fun _ => rfl), flatMap_units_percolate (fun _ => rfl),
      List.append_nil, List.append_nil, percolate_eq bundle, Forest.mapUnits_bodyOnly]
  · rw [percolate_tally, flatMap_units_percolate (fun _ => rfl), flatMap_units_percolate (fun _ => rfl),
      flatMap_units_percolate (fun _ => rfl)]
    rfl

/-- **Percolation moves all that can be used elsewhere, drops all that is relative, and changes nothing else.** -/
theorem percolate_exhausts (bundle : Bundle) :
    bundle.percolate =
        ({ name := bundle.name
           references := bundle.references ++ bundle.units.flatMap SourceUnit.references
           requirements := bundle.requirements ++ bundle.units.flatMap SourceUnit.externals
           children := bundle.children.mapUnits SourceUnit.bodyOnly },
         { references := (bundle.units.flatMap SourceUnit.references).length
           requirements := (bundle.units.flatMap SourceUnit.externals).length
           dropped := (bundle.units.flatMap fun unit => unit.requirements.filter Requirement.isRelative).length }) ∧
      bundle.lines.length = bundle.percolate.1.lines.length + bundle.percolate.2.dropped ∧
      bundle.percolate.1.percolate = (bundle.percolate.1, ⟨0, 0, 0⟩) := by
  refine ⟨Prod.ext bundle.percolate_eq bundle.percolate_tally, ?_, bundle.percolate_percolate⟩
  rw [percolate_tally, percolate_eq, length_lines, length_lines, Forest.length_lines bundle.children]
  simp only [List.length_append, units]
  omega

end Bundle
end DtsBundle
