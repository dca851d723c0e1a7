import DtsBundle.Characters.Set
import Mathlib.Data.List.Basic
/-!
# What sets of characters have

A set is made by walks over ranges, which bring any ranges into one form and read off what lies between them.  Here it is
said what that comes to: the ranges of a set lie over the same numbers as those it was made of (`covers_ofRanges`), and
behind a complement there is just what was not there before (`covers_of_gaps`, `covers_gaps`), if the ranges are in order.
So **a complement has what the set has not** (`has_complement_iff`), and **the difference of two sets has what the first has
and the second has not** (`covers_diff_iff`).  No operation makes more than a few ranges out of those it is given.
-/
namespace DtsBundle.CharSet

/-- A number lies in one of some ranges. -/
def Covers (ranges : List (Nat × Nat)) (n : Nat) : Prop :=
  ∃ range ∈ ranges, range.1 ≤ n ∧ n ≤ range.2

theorem not_covers_nil (n : Nat) : ¬ Covers [] n := by
  simp [Covers]

theorem covers_cons {low high n : Nat} {rest : List (Nat × Nat)} :
    Covers ((low, high) :: rest) n ↔ (low ≤ n ∧ n ≤ high) ∨ Covers rest n := by
  simp [Covers]

theorem Covers.mono {ranges others : List (Nat × Nat)} {n : Nat} (h : Covers ranges n)
    (hsub : ∀ range ∈ ranges, range ∈ others) : Covers others n := by
  obtain ⟨range, hm, hn⟩ := h
  exact ⟨range, hsub range hm, hn⟩

theorem covers_flatMap {α : Type} {items : List α} {f : α → List (Nat × Nat)} {n : Nat} :
    Covers (items.flatMap f) n ↔ ∃ item ∈ items, Covers (f item) n := by
  constructor
  · rintro ⟨range, hm, hn⟩
    obtain ⟨item, hitem, hrange⟩ := List.mem_flatMap.1 hm
    exact ⟨item, hitem, range, hrange, hn⟩
  · rintro ⟨item, hitem, range, hrange, hn⟩
    exact ⟨range, List.mem_flatMap.2 ⟨item, hitem, hrange⟩, hn⟩

theorem covers_of_within : ∀ {ranges : List (Nat × Nat)} {n : Nat}, within ranges n = true → Covers ranges n
  | (low, high) :: rest, n, h => by
    simp only [within, Bool.and_eq_true, Bool.or_eq_true, decide_eq_true_eq] at h
    rcases h.2 with hhigh | hrest
    · exact covers_cons.2 (.inl ⟨h.1, hhigh⟩)
    · exact covers_cons.2 (.inr (covers_of_within hrest))

theorem covers_of_has {set : CharSet} {c : Char} (h : set.has c = true) : Covers set.ranges c.toNat :=
  covers_of_within h

/-- The set of one character has that alone. -/
theorem has_only_iff {c d : Char} : (only c).has d = true ↔ d = c := by
  simp only [has, only, range, within, Bool.or_false, Bool.and_eq_true, decide_eq_true_eq]
  constructor
  · rintro ⟨hlow, hhigh⟩
    exact Char.toNat_inj.1 (Nat.le_antisymm hhigh hlow)
  · rintro rfl
    exact ⟨Nat.le_refl _, Nat.le_refl _⟩

theorem toNat_le_last (c : Char) : c.toNat ≤ last := by
  have hvalid := c.valid
  simp only [UInt32.isValidChar, Nat.isValidChar] at hvalid
  unfold Char.toNat last
  omega

/-! ## Ranges made one -/

/-- Ranges by where they start. -/
def Rising (ranges : List (Nat × Nat)) : Prop :=
  ranges.Pairwise fun a b => a.1 ≤ b.1

theorem Rising.tail {range : Nat × Nat} {rest : List (Nat × Nat)} (h : Rising (range :: rest)) : Rising rest :=
  (List.pairwise_cons.1 h).2

/-- The first two ranges can be made one. -/
theorem Rising.join {low high top : Nat} {next : Nat × Nat} {rest : List (Nat × Nat)} (h : Rising ((low, high) :: next :: rest)) :
    Rising ((low, top) :: rest) :=
  List.pairwise_cons.2
    ⟨fun range hm => (List.pairwise_cons.1 h).1 range (List.mem_cons_of_mem _ hm), h.tail.tail⟩

theorem covers_merged {n : Nat} : ∀ {rest : List (Nat × Nat)} {low high : Nat}, Rising ((low, high) :: rest) →
    (Covers (merged low high rest) n ↔ Covers ((low, high) :: rest) n)
  | [], low, high, _ => Iff.rfl
  | (a, b) :: rest, low, high, h => by
    have ha : low ≤ a := (List.pairwise_cons.1 h).1 (a, b) List.mem_cons_self
    unfold merged
    split
    · rename_i hmeet
      rw [covers_merged h.join, covers_cons, covers_cons, covers_cons]
      constructor
      · rintro (⟨hn, hhigh⟩ | hn)
        · by_cases hfirst : n ≤ high
          · exact .inl ⟨hn, hfirst⟩
          · exact .inr (.inl ⟨by omega, by omega⟩)
        · exact .inr (.inr hn)
      · rintro (⟨hn, hhigh⟩ | ⟨hn, hb⟩ | hn)
        · exact .inl ⟨hn, by omega⟩
        · exact .inl ⟨by omega, by omega⟩
        · exact .inr hn
    · rw [covers_cons, covers_merged h.tail, ← covers_cons]

/-- Ranges in the order in which they are merged. -/
theorem rising_mergeSort (ranges : List (Nat × Nat)) : Rising (ranges.mergeSort fun x y => x.1 ≤ y.1) := by
  have htrans : ∀ a b c : Nat × Nat, decide (a.1 ≤ b.1) = true → decide (b.1 ≤ c.1) = true → decide (a.1 ≤ c.1) = true :=
    fun a b c hab hbc => decide_eq_true (Nat.le_trans (of_decide_eq_true hab) (of_decide_eq_true hbc))
  have htotal : ∀ a b : Nat × Nat, (decide (a.1 ≤ b.1) || decide (b.1 ≤ a.1)) = true := by
    intro a b
    simp only [Bool.or_eq_true, decide_eq_true_eq]
    omega
  exact (List.pairwise_mergeSort htrans htotal ranges).imp of_decide_eq_true

/-- **A set made of ranges lies over the same numbers.** -/
theorem covers_ofRanges {ranges : List (Nat × Nat)} {n : Nat} : Covers (ofRanges ranges).ranges n ↔ Covers ranges n := by
  have hperm := List.mergeSort_perm ranges fun x y => x.1 ≤ y.1
  have hrising := rising_mergeSort ranges
  have hsorted : Covers (ranges.mergeSort fun x y => x.1 ≤ y.1) n ↔ Covers ranges n :=
    ⟨fun h => h.mono fun _ => hperm.mem_iff.1, fun h => h.mono fun _ => hperm.mem_iff.2⟩
  rw [← hsorted]
  unfold ofRanges
  split
  · rename_i hnil
    rw [hnil]
  · rename_i low high rest hcons
    rw [hcons] at hrising ⊢
    exact covers_merged hrising

theorem covers_unions {sets : List CharSet} {n : Nat} :
    Covers (unions sets).ranges n ↔ ∃ set ∈ sets, Covers set.ranges n := by
  rw [unions, covers_ofRanges, covers_flatMap]

/-! ## What lies between -/

/-- Ranges that go up and of which each ends before the next one starts. -/
structure Ordered (ranges : List (Nat × Nat)) : Prop where
  up : ∀ range ∈ ranges, range.1 ≤ range.2
  apart : ranges.Pairwise fun a b => a.2 < b.1

theorem within_of_covers {n : Nat} : ∀ {ranges : List (Nat × Nat)}, Ordered ranges → Covers ranges n → within ranges n = true
  | [], _, h => absurd h (not_covers_nil n)
  | (low, high) :: rest, hordered, h => by
    obtain ⟨hapart, hrest⟩ := List.pairwise_cons.1 hordered.apart
    obtain ⟨hup, hrestUp⟩ := List.forall_mem_cons.1 hordered.up
    simp only [within, Bool.and_eq_true, Bool.or_eq_true, decide_eq_true_eq]
    rcases covers_cons.1 h with ⟨hlow, hhigh⟩ | hcovers
    · exact ⟨hlow, .inl hhigh⟩
    · have ⟨range, hm, hn, _⟩ := hcovers
      have hbehind : high < range.1 := hapart range hm
      exact ⟨by omega, .inr (within_of_covers ⟨hrestUp, hrest⟩ hcovers)⟩

theorem has_iff_covers {set : CharSet} {c : Char} (h : Ordered set.ranges) : set.has c = true ↔ Covers set.ranges c.toNat :=
  ⟨covers_of_has, within_of_covers h⟩

theorem start_le_of_mem_merged : ∀ {rest : List (Nat × Nat)} {low high : Nat}, Rising ((low, high) :: rest) →
    ∀ range ∈ merged low high rest, low ≤ range.1
  | [], low, high, _, range, hm => by
    obtain rfl := List.mem_singleton.1 hm
    exact Nat.le_refl _
  | (a, b) :: rest, low, high, h, range, hm => by
    have ha : low ≤ a := (List.pairwise_cons.1 h).1 (a, b) List.mem_cons_self
    unfold merged at hm
    split at hm
    · exact start_le_of_mem_merged h.join range hm
    · rcases List.mem_cons.1 hm with rfl | hm
      · exact Nat.le_refl _
      · exact Nat.le_trans ha (start_le_of_mem_merged h.tail range hm)

theorem ordered_merged : ∀ {rest : List (Nat × Nat)} {low high : Nat}, Rising ((low, high) :: rest) → low ≤ high →
    (∀ range ∈ rest, range.1 ≤ range.2) → Ordered (merged low high rest)
  | [], low, high, _, hup, _ =>
    ⟨fun range hm => by rw [List.mem_singleton.1 hm]; exact hup, List.pairwise_singleton _ _⟩
  | (a, b) :: rest, low, high, h, hup, hrestUp => by
    obtain ⟨hab, hmoreUp⟩ := List.forall_mem_cons.1 hrestUp
    unfold merged
    split
    · exact ordered_merged h.join (by omega) hmoreUp
    · rename_i hapart
      have hnext := ordered_merged h.tail hab hmoreUp
      refine ⟨List.forall_mem_cons.2 ⟨hup, hnext.up⟩, List.pairwise_cons.2 ⟨fun range hm => ?_, hnext.apart⟩⟩
      have hstart := start_le_of_mem_merged h.tail range hm
      show high < range.1
      omega

theorem ordered_ofRanges {ranges : List (Nat × Nat)} (h : ∀ range ∈ ranges, range.1 ≤ range.2) :
    Ordered (ofRanges ranges).ranges := by
  have hperm := List.mergeSort_perm ranges fun x y => x.1 ≤ y.1
  have hrising := rising_mergeSort ranges
  have hup : ∀ range ∈ ranges.mergeSort fun x y => x.1 ≤ y.1, range.1 ≤ range.2 :=
    fun range hm => h range (hperm.mem_iff.1 hm)
  unfold ofRanges
  split
  · exact ⟨fun range hm => (List.not_mem_nil hm).elim, List.Pairwise.nil⟩
  · rename_i low high rest hcons
    rw [hcons] at hrising hup
    obtain ⟨hfirst, hrest⟩ := List.forall_mem_cons.1 hup
    exact ordered_merged hrising hfirst hrest

/-- What no range covers is in a gap. -/
theorem covers_gaps {n : Nat} (hlast : n ≤ last) : ∀ {ranges : List (Nat × Nat)} {start : Nat}, start ≤ n →
    ¬ Covers ranges n → Covers (gaps start ranges) n
  | [], start, hstart, _ => by
    rw [gaps, if_pos (by omega)]
    exact covers_cons.2 (.inl ⟨hstart, hlast⟩)
  | (low, high) :: rest, start, hstart, h => by
    rw [covers_cons, not_or] at h
    by_cases hn : n < low
    · rw [gaps, if_pos (by omega)]
      exact covers_cons.2 (.inl ⟨hstart, by omega⟩)
    · have hrest : Covers (gaps (high + 1) rest) n := covers_gaps hlast (by omega) h.2
      unfold gaps
      split
      · exact covers_cons.2 (.inr hrest)
      · exact hrest

/-- What is in a gap of ranges in order, none of them covers. -/
theorem covers_of_gaps {n : Nat} : ∀ {ranges : List (Nat × Nat)} {start : Nat}, Ordered ranges →
    (∀ range ∈ ranges, start ≤ range.1) → Covers (gaps start ranges) n → start ≤ n ∧ ¬ Covers ranges n
  | [], start, _, _, h => by
    unfold gaps at h
    split at h
    · rw [covers_cons] at h
      exact ⟨(h.resolve_right (not_covers_nil n)).1, not_covers_nil n⟩
    · exact absurd h (not_covers_nil n)
  | (low, high) :: rest, start, hordered, hstart, h => by
    obtain ⟨hapart, hrest⟩ := List.pairwise_cons.1 hordered.apart
    obtain ⟨hup, hrestUp⟩ := List.forall_mem_cons.1 hordered.up
    have hlow : start ≤ low := hstart (low, high) List.mem_cons_self
    -- behind the first range the gaps are those of the others
    have hbehind : Covers (gaps (high + 1) rest) n → start ≤ n ∧ ¬ Covers ((low, high) :: rest) n := by
      intro hn
      obtain ⟨hfrom, hnot⟩ := covers_of_gaps ⟨hrestUp, hrest⟩ (fun range hm => hapart range hm) hn
      refine ⟨by simp only at hup; omega, ?_⟩
      rw [covers_cons]
      rintro (⟨-, hhigh⟩ | hcovers)
      · omega
      · exact hnot hcovers
    unfold gaps at h
    split at h
    · rcases covers_cons.1 h with ⟨hfrom, hto⟩ | hn
      · refine ⟨hfrom, ?_⟩
        rw [covers_cons]
        rintro (⟨hn, -⟩ | ⟨range, hm, hn, -⟩)
        · omega
        · have := hapart range hm
          simp only at hup this
          omega
      · exact hbehind hn
    · exact hbehind h

theorem up_of_mem_gaps : ∀ {ranges : List (Nat × Nat)} {start : Nat}, ∀ range ∈ gaps start ranges, range.1 ≤ range.2
  | [], start, range, hm => by
    unfold gaps at hm
    split at hm
    · rw [List.mem_singleton.1 hm]
      assumption
    · cases hm
  | (low, high) :: rest, start, range, hm => by
    unfold gaps at hm
    split at hm
    · rcases List.mem_cons.1 hm with rfl | hm
      · show start ≤ low - 1
        omega
      · exact up_of_mem_gaps range hm
    · exact up_of_mem_gaps range hm

theorem start_le_of_mem_gaps : ∀ {ranges : List (Nat × Nat)} {start : Nat}, Ordered ranges →
    (∀ range ∈ ranges, start ≤ range.1) → ∀ range ∈ gaps start ranges, start ≤ range.1
  | [], start, _, _, range, hm => by
    unfold gaps at hm
    split at hm
    · obtain rfl := List.mem_singleton.1 hm
      exact Nat.le_refl _
    · cases hm
  | (low, high) :: rest, start, hordered, hstart, range, hm => by
    obtain ⟨hapart, hrest⟩ := List.pairwise_cons.1 hordered.apart
    obtain ⟨hup, hrestUp⟩ := List.forall_mem_cons.1 hordered.up
    have hlow : start ≤ low := hstart (low, high) List.mem_cons_self
    have hbehind : range ∈ gaps (high + 1) rest → start ≤ range.1 := by
      intro hm
      have hnext := start_le_of_mem_gaps ⟨hrestUp, hrest⟩ hapart range hm
      simp only at hup
      omega
    unfold gaps at hm
    split at hm
    · rcases List.mem_cons.1 hm with rfl | hm
      · exact Nat.le_refl _
      · exact hbehind hm
    · exact hbehind hm

theorem ordered_gaps : ∀ {ranges : List (Nat × Nat)} {start : Nat}, Ordered ranges →
    (∀ range ∈ ranges, start ≤ range.1) → Ordered (gaps start ranges)
  | [], start, _, _ => by
    refine ⟨up_of_mem_gaps, ?_⟩
    unfold gaps
    split
    · exact List.pairwise_singleton _ _
    · exact List.Pairwise.nil
  | (low, high) :: rest, start, hordered, hstart => by
    obtain ⟨hapart, hrest⟩ := List.pairwise_cons.1 hordered.apart
    obtain ⟨hup, hrestUp⟩ := List.forall_mem_cons.1 hordered.up
    have hmore := ordered_gaps ⟨hrestUp, hrest⟩ hapart
    refine ⟨up_of_mem_gaps, ?_⟩
    unfold gaps
    split
    · refine List.pairwise_cons.2 ⟨fun range hm => ?_, hmore.apart⟩
      have hnext := start_le_of_mem_gaps ⟨hrestUp, hrest⟩ hapart range hm
      simp only at hup ⊢
      omega
    · exact hmore.apart

theorem ordered_complement {set : CharSet} (h : Ordered set.ranges) : Ordered set.complement.ranges :=
  ordered_gaps h fun _ _ => Nat.zero_le _

theorem covers_complement_iff {set : CharSet} {n : Nat} (h : Ordered set.ranges) (hlast : n ≤ last) :
    Covers set.complement.ranges n ↔ ¬ Covers set.ranges n :=
  ⟨fun hgap => (covers_of_gaps h (fun _ _ => Nat.zero_le _) hgap).2, covers_gaps hlast (Nat.zero_le _)⟩

/-- **The complement of a set has what the set has not.** -/
theorem has_complement_iff {set : CharSet} {c : Char} (h : Ordered set.ranges) :
    set.complement.has c = true ↔ ¬ set.has c = true := by
  rw [has_iff_covers h, has_iff_covers (ordered_complement h), covers_complement_iff h (toNat_le_last c)]

theorem ordered_unions {sets : List CharSet} (h : ∀ set ∈ sets, Ordered set.ranges) : Ordered (unions sets).ranges := by
  refine ordered_ofRanges fun range hm => ?_
  obtain ⟨set, hset, hrange⟩ := List.mem_flatMap.1 hm
  exact (h set hset).up range hrange

section Difference

variable {s t : CharSet} {n : Nat}

theorem ordered_union (hs : Ordered s.ranges) (ht : Ordered t.ranges) : Ordered (s.union t).ranges :=
  ordered_unions (List.forall_mem_cons.2 ⟨hs, List.forall_mem_singleton.2 ht⟩)

theorem covers_union_iff : Covers (s.union t).ranges n ↔ Covers s.ranges n ∨ Covers t.ranges n := by
  simp [union, covers_unions]

theorem ordered_diff (hs : Ordered s.ranges) (ht : Ordered t.ranges) : Ordered (s.diff t).ranges :=
  ordered_complement (ordered_union (ordered_complement hs) (ordered_complement (ordered_complement ht)))

/-- **The difference of two sets has what the first has and the second has not.** -/
theorem covers_diff_iff (hs : Ordered s.ranges) (ht : Ordered t.ranges) (hlast : n ≤ last) :
    Covers (s.diff t).ranges n ↔ Covers s.ranges n ∧ ¬ Covers t.ranges n := by
  have ht' := ordered_complement ht
  have hunion := ordered_union (ordered_complement hs) (ordered_complement ht')
  rw [diff, inter, covers_complement_iff hunion hlast, covers_union_iff, covers_complement_iff hs hlast,
    covers_complement_iff ht' hlast, covers_complement_iff ht hlast]
  tauto

end Difference

/-- A set with two members has not just one. -/
theorem only?_eq_none {set : CharSet} {c d : Char} (hc : set.has c = true) (hd : set.has d = true) (hne : c ≠ d) :
    set.only? = none := by
  obtain ⟨ranges⟩ := set
  match ranges with
  | [] => rfl
  | [(low, high)] =>
    have hnot : low ≠ high := by
      rintro rfl
      simp only [has, within, Bool.or_false, Bool.and_eq_true, decide_eq_true_eq] at hc hd
      exact hne (Char.toNat_inj.1 (by omega))
    exact if_neg hnot
  | _ :: _ :: _ => rfl

/-! ## How many ranges -/

theorem length_merged_le : ∀ {rest : List (Nat × Nat)} {low high : Nat}, (merged low high rest).length ≤ rest.length + 1
  | [], _, _ => Nat.le_refl _
  | (a, b) :: rest, low, high => by
    unfold merged
    split
    · exact Nat.le_succ_of_le length_merged_le
    · exact Nat.succ_le_succ length_merged_le

theorem length_ofRanges_le (ranges : List (Nat × Nat)) : (ofRanges ranges).ranges.length ≤ ranges.length := by
  have hlength := (List.mergeSort_perm ranges fun x y => x.1 ≤ y.1).length_eq
  unfold ofRanges
  split
  · exact Nat.zero_le _
  · rename_i low high rest hcons
    rw [hcons, List.length_cons] at hlength
    rw [← hlength]
    exact length_merged_le

theorem length_union_le (s t : CharSet) : (s.union t).ranges.length ≤ s.ranges.length + t.ranges.length := by
  refine Nat.le_trans (length_ofRanges_le _) ?_
  simp

theorem length_gaps_le : ∀ {ranges : List (Nat × Nat)} {start : Nat}, (gaps start ranges).length ≤ ranges.length + 1
  | [], start => by
    unfold gaps
    split
    · exact Nat.le_refl _
    · exact Nat.zero_le _
  | (low, high) :: rest, start => by
    unfold gaps
    split
    · exact Nat.succ_le_succ length_gaps_le
    · exact Nat.le_succ_of_le length_gaps_le

theorem length_complement_le (set : CharSet) : set.complement.ranges.length ≤ set.ranges.length + 1 :=
  length_gaps_le

theorem length_diff_le (s t : CharSet) : (s.diff t).ranges.length ≤ s.ranges.length + t.ranges.length + 4 := by
  have hs := length_complement_le s
  have ht := length_complement_le t
  have ht' := length_complement_le t.complement
  have hunion := length_union_le s.complement t.complement.complement
  have hall := length_complement_le (s.complement.union t.complement.complement)
  rw [diff, inter]
  omega

end DtsBundle.CharSet
