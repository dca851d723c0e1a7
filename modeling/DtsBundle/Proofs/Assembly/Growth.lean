import DtsBundle.Proofs.Assembly.Build
/-!
# How a forest grows from a layout

A forest that was read for a layout follows it member by member: a source becomes a module with the one unit its file
states, a group a module with the modules of its members.  `Grown` has a rule for each way in which a layout goes on, and
**a reading gives just the forest that has grown from the layout** (`forest_eq_ok_iff`).  What is to be shown of forests
that were read is shown along the rules, without a look at the reading again.
-/
namespace DtsBundle.Sources

/-- A forest has grown from a layout: every source can be read and is a module with its unit, every group is a module with
what has grown from its members. -/
inductive Grown (sources : Sources) : Layout → Forest → Prop
  | empty : Grown sources .empty .nil
  | source {name stem text : Text} {rest : Layout} {next : Forest}
    (hread : sources.files.readText sources.here (Layout.sourcePath sources.base stem) = .ok text)
    (hnext : Grown sources rest next) :
    Grown sources (.source name stem rest) (.node name (.leaf (SourceUnit.parseWith sources.patterns text) .nil) next)
  | group {name : Text} {members rest : Layout} {inside next : Forest} (hinside : Grown sources members inside)
    (hnext : Grown sources rest next) : Grown sources (.group name members rest) (.node name inside next)

variable {sources : Sources} {layout : Layout} {children : Forest}

theorem map_eq_ok_iff {α β : Type} {result : Except BuildError α} {f : α → β} {b : β} :
    result.map f = .ok b ↔ ∃ a, result = .ok a ∧ f a = b := by
  cases result <;> simp [Except.map]

/-- **What is read for a layout is what has grown from it.** -/
theorem forest_eq_ok_iff {scope : Text} : (sources.forest scope layout).2 = .ok children ↔ Grown sources layout children := by
  induction layout generalizing scope children with
  | empty =>
    constructor
    · intro h
      obtain rfl := Except.ok.inj h
      exact .empty
    · rintro ⟨⟩
      rfl
  | source name stem rest ih =>
    rw [forest_source]
    cases hread : sources.files.readText sources.here (Layout.sourcePath sources.base stem) with
    | error fault =>
      rw [readUnit_of_error hread]
      constructor
      · intro h
        cases h
      · rintro (_ | ⟨hread', -⟩)
        rw [hread] at hread'
        cases hread'
    | ok text =>
      simp only [readUnit_of_ok hread, map_eq_ok_iff]
      constructor
      · rintro ⟨next, hnext, rfl⟩
        exact .source hread (ih.1 hnext)
      · rintro (_ | ⟨hread', hnext⟩)
        obtain rfl := Except.ok.inj (hread.symm.trans hread')
        exact ⟨_, ih.2 hnext, rfl⟩
  | group name members rest ihMembers ihRest =>
    rw [forest_group]
    constructor
    · intro h
      split at h
      · cases h
      · rename_i inside hinside
        obtain ⟨next, hnext, rfl⟩ := map_eq_ok_iff.1 h
        exact .group (ihMembers.1 hinside) (ihRest.1 hnext)
    · rintro (_ | _ | ⟨hinside, hnext⟩)
      rw [ihMembers.2 hinside]
      exact map_eq_ok_iff.2 ⟨_, ihRest.2 hnext, rfl⟩

namespace Grown

theorem names_eq (h : Grown sources layout children) : children.names = layout.names := by
  induction h with
  | empty => rfl
  | source hread hnext ih => simp only [Forest.names, Layout.names, List.nil_append, ih]
  | group hinside hnext ihInside ihNext => simp only [Forest.names, Layout.names, ihInside, ihNext]

/-- Every unit is what some source states. -/
theorem exists_text_of_mem_units (h : Grown sources layout children) :
    ∀ unit ∈ children.units, ∃ text, unit = SourceUnit.parseWith sources.patterns text := by
  induction h with
  | empty => exact fun unit hm => absurd hm List.not_mem_nil
  | source hread hnext ih =>
    intro unit hm
    rcases List.mem_cons.1 hm with rfl | hm
    · exact ⟨_, rfl⟩
    · exact ih unit hm
  | group hinside hnext ihInside ihNext =>
    intro unit hm
    rcases List.mem_append.1 hm with hm | hm
    · exact ihInside unit hm
    · exact ihNext unit hm

end Grown
end DtsBundle.Sources
