import DtsBundle.Proofs.Assembly.Order
import DtsBundle.Proofs.Layout.Verdict
/-!
# A layout built in steps

A layout can be built by hand, one member after the other, a group from steps of its own.  What is built is what an
object with the same members states (`ofMembers?_values_listed`): a repeated name keeps its first place and takes its
last value on both ways, at every depth.  So **steps and any text of the object they list give the same layout**
(`parse_of_steps`), and such a text there is as long as the steps nest no deeper than a reader goes.
-/
namespace DtsBundle.Layout

open Json (Value IsDocument)

theorem mem_names_insert {layout : Layout} {name other : Text} {entry : Entry}
    (h : other ∈ (layout.insert name entry).names) : other = name ∨ other ∈ entry.names ∨ other ∈ layout.names := by
  induction layout using induction_cons with
  | hempty => simpa [insert, names_cons] using h
  | hcons first value rest ih =>
    rw [insert_cons] at h
    rw [names_cons]
    by_cases hname : first = name
    · rw [if_pos hname, names_cons] at h
      simp only [List.mem_append, List.mem_cons] at h ⊢
      tauto
    · rw [if_neg hname, names_cons] at h
      simp only [List.mem_append, List.mem_cons] at h ⊢
      tauto

/-- Members put in one after the other: sources by their stems, and groups that are built in steps of their own. -/
inductive Steps where
  | done
  | source (name stem : Text) (next : Steps)
  | group (name : Text) (inside next : Steps)
deriving DecidableEq, Repr

namespace Steps

/-- The layout that steps make of one that is there. -/
def build : Steps → Layout → Layout
  | done, layout => layout
  | source name stem next, layout => next.build (layout.insert name (.source stem))
  | group name inside next, layout => next.build (layout.insert name (.group (inside.build empty)))

/-- The members in the order of the steps, each name as often as it is given. -/
def listed : Steps → Layout
  | done => empty
  | source name stem next => .source name stem next.listed
  | group name inside next => .group name inside.listed next.listed

/-- **What steps make is what the values they list state**, whatever is there already. -/
theorem ofMembers?_values_listed (steps : Steps) (start : Layout) :
    ofMembers? steps.listed.values start = some (steps.build start) := by
  induction steps generalizing start with
  | done => rfl
  | source name stem next ih => exact ih _
  | group name inside next ihInside ihNext =>
    have hentry : entryOf? (.object inside.listed.values) = some (.group (inside.build empty)) := by
      rw [entryOf?, ihInside]
      rfl
    simp only [listed, values, ofMembers?, hentry, build]
    exact ihNext _

/-- No name comes into a layout that no step gives. -/
theorem mem_names_build {steps : Steps} {start : Layout} {name : Text} (h : name ∈ (steps.build start).names) :
    name ∈ steps.listed.names ∨ name ∈ start.names := by
  induction steps generalizing start with
  | done => exact .inr h
  | source first stem next ih =>
    rw [listed, names, List.mem_cons]
    rcases ih h with hnext | hstart
    · exact .inl (.inr hnext)
    · rcases mem_names_insert hstart with rfl | hentry | hstart
      · exact .inl (.inl rfl)
      · cases hentry
      · exact .inr hstart
  | group first inside next ihInside ihNext =>
    rw [listed, names, List.mem_cons, List.mem_append]
    rcases ihNext h with hnext | hstart
    · exact .inl (.inr (.inr hnext))
    · rcases mem_names_insert hstart with rfl | hentry | hstart
      · exact .inl (.inl rfl)
      · rcases ihInside hentry with hinside | hnone
        · exact .inl (.inr (.inl hinside))
        · cases hnone
      · exact .inr hstart

end Steps

/-- **Steps and the object they list give the same layout**, from every text of that object, and such a text is the
members written out.  In that layout no name stands twice, and each has the place it was first given and the value it was
last given, at every depth. -/
theorem parse_of_steps (steps : Steps) (hnames : ∀ name ∈ steps.listed.names, isIdentifier name = true)
    (hlevels : steps.listed.levels ≤ 127) :
    IsDocument steps.listed.json (.object steps.listed.values) ∧
      (∀ text, IsDocument text (.object steps.listed.values) → parse text = .ok (steps.build empty)) ∧
      (steps.build empty).isDistinct = true ∧
      Value.object (steps.build empty).values = (Value.object steps.listed.values).settled := by
  have hmembers := steps.ofMembers?_values_listed empty
  have hread := readValue_braced (spells_memberTexts hlevels) []
  rw [List.append_nil] at hread
  refine ⟨⟨[], hread, rfl⟩, fun text hdocument => ?_, isDistinct_of_ofMembers? hmembers rfl,
    (ofMembers?_eq_some_iff_settled.1 hmembers).2.symm⟩
  have hlayout : ofJson text = .ok (steps.build empty) := ofJson_eq_ok_iff.2 ⟨_, hdocument, hmembers⟩
  have hgood : (steps.build empty).badName? = none := by
    rw [badName?_eq_none_iff]
    intro name hm
    rcases Steps.mem_names_build hm with hstep | hstart
    · exact hnames name hstep
    · cases hstart
  rw [parse, hlayout]
  simp only [hgood]

/-- Steps in which a source takes the place of a group, a group that of a source, and a group has a name twice. -/
def turningSteps : Steps :=
  .group ['a'] (.source ['x'] ['1'] .done) (.source ['b'] ['2'] (.source ['a'] ['3']
    (.group ['b'] (.source ['y'] ['4'] (.source ['z'] ['5'] (.source ['y'] ['6'] .done))) .done)))

theorem parse_of_steps_turning :
    turningSteps.build empty = .source ['a'] ['3'] (.group ['b'] (.source ['y'] ['6'] (.source ['z'] ['5'] .empty)) .empty) ∧
      parse turningSteps.listed.json = .ok (turningSteps.build empty) ∧
      Value.object (turningSteps.build empty).values = (Value.object turningSteps.listed.values).settled := by
  obtain ⟨hdocument, hparse, -, hsettled⟩ := parse_of_steps turningSteps (by decide) (by decide)
  exact ⟨by decide, hparse _ hdocument, hsettled⟩

end DtsBundle.Layout
