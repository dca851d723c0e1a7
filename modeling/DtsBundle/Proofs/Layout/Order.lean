import DtsBundle.Layout.Basic
/-!
# Layouts in another order

Two layouts are the same if each has the other's members, in whatever order, and so have their groups.  Members are
looked up by name for this, so the order is not seen; but a traversal sees it, and it meets the members of one layout in
another order at every depth at once.  `Reordered` breaks the difference up into steps: two neighbours change places,
anywhere.  **Layouts that are the same, in which no name stands twice, are such steps apart** (`reordered_of_isSame`),
and what holds of both sides of one step holds of the same layouts.
-/
namespace DtsBundle.Layout

/-- Whether no name stands twice among the members of a layout, or of a group at any depth. -/
def isDistinct : Layout → Bool
  | empty => true
  | source name _ rest => (rest.find? name).isNone && rest.isDistinct
  | group name members rest => (rest.find? name).isNone && members.isDistinct && rest.isDistinct

/-- A layout in which no name stands twice, at any depth. -/
structure Distinct where
  layout : Layout
  isDistinct : layout.isDistinct = true
deriving DecidableEq

/-- Whether no name stands twice in what a name stands for. -/
def Entry.isDistinct : Entry → Bool
  | .source _ => true
  | .group members => members.isDistinct

/-- Layouts that are apart by neighbours that have changed places, at any depth. -/
inductive Reordered : Layout → Layout → Prop
  | empty : Reordered empty empty
  | source {name stem : Text} {rest rest' : Layout} (hrest : Reordered rest rest') :
    Reordered (source name stem rest) (source name stem rest')
  | group {name : Text} {members members' rest rest' : Layout} (hmembers : Reordered members members')
    (hrest : Reordered rest rest') : Reordered (group name members rest) (group name members' rest')
  | swap {name other : Text} {entry entry' : Entry} {rest : Layout} :
    Reordered (cons name entry (cons other entry' rest)) (cons other entry' (cons name entry rest))
  | trans {a b c : Layout} (hfirst : Reordered a b) (hsecond : Reordered b c) : Reordered a c

namespace Reordered

theorem refl : ∀ layout : Layout, Reordered layout layout
  | .empty => .empty
  | .source _ _ rest => .source (refl rest)
  | .group _ members rest => .group (refl members) (refl rest)

theorem symm {a b : Layout} (h : Reordered a b) : Reordered b a := by
  induction h with
  | empty => exact .empty
  | source hrest ih => exact .source ih
  | group hmembers hrest ihMembers ihRest => exact .group ihMembers ihRest
  | swap => exact .swap
  | trans hfirst hsecond ihFirst ihSecond => exact ihSecond.trans ihFirst

theorem cons {a b : Layout} (h : Reordered a b) (name : Text) (entry : Entry) :
    Reordered (Layout.cons name entry a) (Layout.cons name entry b) := by
  cases entry with
  | source stem => exact .source h
  | group members => exact .group (refl members) h

end Reordered

/-! ## One member in front -/

/-- Layouts by their members alone, whatever kind each is of. -/
@[elab_as_elim]
theorem induction_cons {motive : Layout → Prop} (hempty : motive empty)
    (hcons : ∀ name entry rest, motive rest → motive (cons name entry rest)) : ∀ layout, motive layout
  | empty => hempty
  | source name stem rest => hcons name (.source stem) rest (induction_cons hempty hcons rest)
  | group name members rest => hcons name (.group members) rest (induction_cons hempty hcons rest)

theorem find?_cons (name other : Text) (entry : Entry) (rest : Layout) :
    (cons other entry rest).find? name = if other = name then some entry else rest.find? name := by
  cases entry <;> rfl

theorem size_cons (name : Text) (entry : Entry) (rest : Layout) : (cons name entry rest).size = rest.size + 1 := by
  cases entry <;> rfl

theorem isDistinct_cons_iff {name : Text} {entry : Entry} {rest : Layout} :
    (cons name entry rest).isDistinct = true ↔
      rest.find? name = none ∧ entry.isDistinct = true ∧ rest.isDistinct = true := by
  cases entry <;> simp [cons, isDistinct, Entry.isDistinct, and_assoc]

theorem eq_empty_of_size {layout : Layout} (h : layout.size = 0) : layout = empty := by
  cases layout with
  | empty => rfl
  | source name stem rest => exact absurd h (Nat.succ_ne_zero _)
  | group name members rest => exact absurd h (Nat.succ_ne_zero _)

/-- What is left of a layout when one of its members is put in front. -/
structure Remainder (layout : Layout) (name : Text) (entry : Entry) (rest : Layout) : Prop where
  reordered : Reordered layout (cons name entry rest)
  distinct : (cons name entry rest).isDistinct = true
  size : layout.size = rest.size + 1
  find : ∀ other, name ≠ other → rest.find? other = layout.find? other

/-- **Any member can be put in front of the others.** -/
theorem exists_remainder {layout : Layout} {name : Text} {entry : Entry} (hdistinct : layout.isDistinct = true)
    (hfind : layout.find? name = some entry) : ∃ rest, Remainder layout name entry rest := by
  induction layout using induction_cons with
  | hempty => cases hfind
  | hcons first value rest ih =>
    rw [find?_cons] at hfind
    by_cases hname : first = name
    · subst hname
      rw [if_pos rfl, Option.some_inj] at hfind
      subst hfind
      refine ⟨rest, .refl _, hdistinct, size_cons _ _ _, fun other hne => ?_⟩
      rw [find?_cons, if_neg hne]
    · rw [if_neg hname] at hfind
      obtain ⟨hnew, hvalue, hrest⟩ := isDistinct_cons_iff.1 hdistinct
      obtain ⟨less, hreordered, hless, hsize, hsame⟩ := ih hrest hfind
      obtain ⟨hnot, hentry, hdistinct'⟩ := isDistinct_cons_iff.1 hless
      refine ⟨cons first value less, (hreordered.cons first value).trans .swap, ?_, ?_, fun other hne => ?_⟩
      · have hgone : less.find? first = none := by rw [hsame first (Ne.symm hname), hnew]
        rw [isDistinct_cons_iff, isDistinct_cons_iff, find?_cons, if_neg hname]
        exact ⟨hnot, hentry, hgone, hvalue, hdistinct'⟩
      · rw [size_cons, size_cons, hsize]
      · rw [find?_cons, find?_cons, hsame other hne]

/-! ## The same members -/

theorem isWithin_congr {layout other other' : Layout}
    (h : ∀ name, layout.find? name ≠ none → other.find? name = other'.find? name) :
    layout.isWithin other = layout.isWithin other' := by
  induction layout with
  | empty => rfl
  | source name stem rest ih =>
    have hname := h name (by simp [find?])
    have hrest := ih fun n hn => h n (by rw [find?]; split <;> simp [hn])
    simp only [isWithin, hname, hrest]
  | group name members rest _ ih =>
    have hname := h name (by simp [find?])
    have hrest := ih fun n hn => h n (by rw [find?]; split <;> simp [hn])
    simp only [isWithin, hname, hrest]

theorem Remainder.isWithin {layout rest inner : Layout} {name : Text} {entry : Entry}
    (h : Remainder layout name entry rest) (hnot : inner.find? name = none) :
    inner.isWithin layout = inner.isWithin rest := by
  refine isWithin_congr fun other hother => ?_
  have hne : name ≠ other := fun e => hother (e ▸ hnot)
  exact (h.find other hne).symm

/-- A layout that has all of another but one member has the same members as the other without it. -/
theorem Remainder.isSame {layout rest inner : Layout} {name : Text} {entry : Entry}
    (h : Remainder layout name entry rest) (hnot : inner.find? name = none) (hsize : inner.size + 1 = layout.size)
    (hwithin : inner.isWithin layout = true) : inner.isSame rest = true := by
  rw [h.isWithin hnot] at hwithin
  rw [h.size] at hsize
  rw [Layout.isSame, hwithin, Bool.and_true, beq_iff_eq]
  exact Nat.succ.inj hsize

/-- **Layouts that are the same and distinct differ in the order of neighbours only.** -/
theorem reordered_of_isSame {a b : Distinct} (h : a.layout.isSame b.layout = true) :
    Reordered a.layout b.layout := by
  obtain ⟨a, ha⟩ := a
  obtain ⟨b, hb⟩ := b
  simp only at h ⊢
  -- the second layout is brought into the order of the first: each member of the first is put in front of what is left
  induction a generalizing b with
  | empty =>
    rw [isSame, Bool.and_eq_true, beq_iff_eq] at h
    rw [eq_empty_of_size h.1.symm]
    exact .empty
  | source name stem rest ih =>
    simp only [isSame, isWithin, size, Bool.and_eq_true, beq_iff_eq] at h
    obtain ⟨hsize, hfind, hwithin⟩ := h
    obtain ⟨hnew, -, hrest⟩ := isDistinct_cons_iff.1 (show (cons name (.source stem) rest).isDistinct = true from ha)
    obtain ⟨left, hleft⟩ := exists_remainder hb hfind
    have hnext := ih hrest left (isDistinct_cons_iff.1 hleft.distinct).2.2 (hleft.isSame hnew hsize hwithin)
    exact (hnext.cons name (.source stem)).trans hleft.reordered.symm
  | group name members rest ihMembers ihRest =>
    simp only [isSame, isWithin, size, Bool.and_eq_true, beq_iff_eq] at h
    obtain ⟨hsize, hfind, hwithin⟩ := h
    obtain ⟨hnew, hmembers, hrest⟩ := isDistinct_cons_iff.1 (show (cons name (.group members) rest).isDistinct = true from ha)
    split at hfind
    · rename_i members' hfound
      obtain ⟨left, hleft⟩ := exists_remainder hb hfound
      obtain ⟨-, hmembers', hdistinct⟩ := isDistinct_cons_iff.1 hleft.distinct
      have hsame : members.isSame members' = true := by
        simpa only [isSame, Bool.and_eq_true, beq_iff_eq] using hfind
      have hnext := ihRest hrest left hdistinct (hleft.isSame hnew hsize hwithin)
      exact (Reordered.group (ihMembers hmembers members' hmembers' hsame) hnext).trans hleft.reordered.symm
    · cases hfind

end DtsBundle.Layout
