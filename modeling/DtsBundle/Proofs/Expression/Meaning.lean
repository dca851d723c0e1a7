import DtsBundle.Expression.Basic
/-!
# What an expression matches

A match goes through a text from one place to another and makes marks on its way, where groups start and end.  What an
expression matches is told by its parts: `Matches` has one line for each kind of expression, and says nothing about how
a match is looked for or which of several is preferred.
-/
namespace DtsBundle.Expression

/-- How far a match has come: the number of characters in front of it, and the marks it has made, the latest first. -/
structure Place where
  index : Nat
  marks : List (Nat × Nat)
deriving DecidableEq, Repr

namespace Place

/-- So many characters further on. -/
def past (place : Place) (count : Nat) : Place :=
  { place with index := place.index + count }

/-- The same place with one mark more. -/
def mark (place : Place) (slot : Nat) : Place :=
  { place with marks := (slot, place.index) :: place.marks }

/-- The character in front of a place. -/
def before (text : Text) (place : Place) : Option Char :=
  (text.take place.index).getLast?

/-- The character behind a place. -/
def after (text : Text) (place : Place) : Option Char :=
  (text.drop place.index).head?

end Place

/-- So many steps of one kind in a row. -/
def Times (step : Place → Place → Prop) : Nat → Place → Place → Prop
  | 0, a, b => a = b
  | n + 1, a, b => ∃ middle, step a middle ∧ Times step n middle b

/-- What an expression matches: from one place in a text to another. -/
def Matches (text : Text) : Expression → Place → Place → Prop
  | empty, a, b => a = b
  | literal t, a, b => t <+: text.drop a.index ∧ a.past t.length = b
  | one set, a, b => ∃ c, a.after text = some c ∧ set.has c = true ∧ a.past 1 = b
  | look l, a, b => l.holds (a.before text) (a.after text) = true ∧ a = b
  | group index inner, a, b => ∃ stop, inner.Matches text (a.mark (2 * index)) stop ∧ stop.mark (2 * index + 1) = b
  | repeated inner least most _, a, b =>
    ∃ n, least ≤ n ∧ (∀ m ∈ most, n ≤ max least m) ∧ Times (inner.Matches text) n a b
  | row former latter, a, b => ∃ middle, former.Matches text a middle ∧ latter.Matches text middle b
  | choice former latter, a, b => former.Matches text a b ∨ latter.Matches text a b

/-- Steps in a row are some of them and then the others. -/
theorem times_add {step : Place → Place → Prop} {m n : Nat} {a b : Place} :
    Times step (m + n) a b ↔ ∃ middle, Times step m a middle ∧ Times step n middle b := by
  induction m generalizing a with
  | zero =>
    rw [Nat.zero_add]
    exact ⟨fun h => ⟨a, rfl, h⟩, fun ⟨middle, hfirst, hsecond⟩ => (show a = middle from hfirst) ▸ hsecond⟩
  | succ m ih =>
    rw [Nat.succ_add]
    constructor
    · rintro ⟨next, hstep, hrest⟩
      obtain ⟨middle, hfirst, hsecond⟩ := ih.1 hrest
      exact ⟨middle, ⟨next, hstep, hfirst⟩, hsecond⟩
    · rintro ⟨middle, ⟨next, hstep, hfirst⟩, hsecond⟩
      exact ⟨next, hstep, ih.2 ⟨middle, hfirst, hsecond⟩⟩

theorem times_one {step : Place → Place → Prop} {a b : Place} : Times step 1 a b ↔ step a b :=
  ⟨fun ⟨_, hstep, hnone⟩ => (show _ = b from hnone) ▸ hstep, fun h => ⟨b, h, rfl⟩⟩

end DtsBundle.Expression
