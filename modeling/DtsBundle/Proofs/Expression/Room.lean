import DtsBundle.Expression.Size
import Mathlib
/-!
# The room of a set

A range of characters is cut into a few sequences of byte ranges: what is left over at its two ends for each byte, and
the rest between (`length_cutRange_le`).  The machines of a set have no more states and transitions than its sequences
have byte ranges, since each step takes one off every sequence.  So **the room of a set is bounded by the number of its
ranges** (`setSize_le`).
-/
namespace DtsBundle

namespace CharSet

/-! ## Sequences -/

theorem length_bytesOf (others n : Nat) : (bytesOf others n).length = others + 1 := by
  simp [bytesOf]

/-- What is alike for a unit is alike for its multiples. -/
theorem div_eq_of_dvd {low high small great : Nat} (h : low / small = high / small) (hdvd : small ∣ great) :
    low / great = high / great := by
  obtain ⟨times, rfl⟩ := hdvd
  rw [← Nat.div_div_eq_div_mul, h, Nat.div_div_eq_div_mul]

section Cut

variable {others place low high : Nat}

/-- Numbers that differ in front of the last bytes are cut in three: what is left at the ends is alike up to the unit. -/
theorem exists_cutRange_succ (h : ¬ low / Nat.pow 64 (others - place) = high / Nat.pow 64 (others - place)) :
    ∃ first past, (low < first → low / Nat.pow 64 (others - place) = (first - 1) / Nat.pow 64 (others - place)) ∧
      (past ≤ high → past / Nat.pow 64 (others - place) = high / Nat.pow 64 (others - place)) ∧
      cutRange others low high (place + 1) =
        (if low < first then cutRange others low (first - 1) place else [])
          ++ (if first < past then cutRange others first (past - 1) place else [])
          ++ (if past ≤ high then cutRange others past high place else []) := by
  have hpos : 0 < Nat.pow 64 (others - place) := Nat.pow_pos (by decide)
  rw [cutRange, if_neg h]
  refine ⟨_, _, fun hlow => ?_, fun hhigh => ?_, rfl⟩
  · by_cases haligned : low % Nat.pow 64 (others - place) = 0
    · rw [if_pos haligned] at hlow
      exact absurd hlow (Nat.lt_irrefl low)
    · rw [if_neg haligned]
      have hnext : (low / Nat.pow 64 (others - place) + 1) * Nat.pow 64 (others - place) =
          low / Nat.pow 64 (others - place) * Nat.pow 64 (others - place) + Nat.pow 64 (others - place) :=
        Nat.succ_mul _ _
      exact (Nat.div_eq_of_lt_le (by omega) (by omega)).symm
  · by_cases haligned : high % Nat.pow 64 (others - place) = Nat.pow 64 (others - place) - 1
    · rw [if_pos haligned] at hhigh
      exact absurd hhigh (Nat.not_succ_le_self high)
    · rw [if_neg haligned]
      exact Nat.mul_div_cancel _ hpos

theorem length_of_mem_cutRange : ∀ {place low high : Nat}, ∀ sequence ∈ cutRange others low high place,
    sequence.length = others + 1
  | 0, low, high, sequence, hm => by
    obtain rfl := List.mem_singleton.1 hm
    simp [length_bytesOf]
  | place + 1, low, high, sequence, hm => by
    by_cases hsame : low / Nat.pow 64 (others - place) = high / Nat.pow 64 (others - place)
    · rw [cutRange, if_pos hsame] at hm
      exact length_of_mem_cutRange sequence hm
    · obtain ⟨first, past, -, -, heq⟩ := exists_cutRange_succ hsame
      simp only [heq, List.mem_append, List.mem_ite_nil_right] at hm
      rcases hm with (⟨-, hm⟩ | ⟨-, hm⟩) | ⟨-, hm⟩
      · exact length_of_mem_cutRange sequence hm
      · exact length_of_mem_cutRange sequence hm
      · exact length_of_mem_cutRange sequence hm

/-- Numbers that differ in the last bytes alone make one sequence. -/
theorem length_cutRange_of_same : ∀ {place low high : Nat},
    (∀ q < place, low / Nat.pow 64 (others - q) = high / Nat.pow 64 (others - q)) →
      (cutRange others low high place).length = 1
  | 0, _, _, _ => rfl
  | place + 1, low, high, h => by
    rw [cutRange, if_pos (h place (Nat.lt_succ_self place))]
    exact length_cutRange_of_same fun q hq => h q (Nat.lt_succ_of_lt hq)

/-- Numbers that are alike for one unit make one sequence for all greater units. -/
theorem length_cutRange_le_one (h : low / Nat.pow 64 (others - place) = high / Nat.pow 64 (others - place)) :
    (cutRange others low high place).length ≤ 1 := by
  refine Nat.le_of_eq (length_cutRange_of_same fun q hq => div_eq_of_dvd h ?_)
  exact Nat.pow_dvd_pow 64 (by omega)

theorem length_ite_nil_le {α : Type} {c : Prop} [Decidable c] {l : List α} {n : Nat} (h : c → l.length ≤ n) :
    (if c then l else []).length ≤ n := by
  split
  · exact h ‹c›
  · exact Nat.zero_le n

/-- **A range is cut into one sequence more at each end for each place.** -/
theorem length_cutRange_le : ∀ {place low high : Nat}, (cutRange others low high place).length ≤ 2 * place + 1
  | 0, _, _ => Nat.le_refl _
  | place + 1, low, high => by
    by_cases hsame : low / Nat.pow 64 (others - place) = high / Nat.pow 64 (others - place)
    · rw [cutRange, if_pos hsame]
      exact Nat.le_trans length_cutRange_le (by omega)
    · obtain ⟨first, past, hlow, hhigh, heq⟩ := exists_cutRange_succ hsame
      have hfront := length_ite_nil_le fun h => length_cutRange_le_one (hlow h)
      have hmiddle : (if first < past then cutRange others first (past - 1) place else []).length ≤ 2 * place + 1 :=
        length_ite_nil_le fun _ => length_cutRange_le
      have hback := length_ite_nil_le fun h => length_cutRange_le_one (hhigh h)
      rw [heq, List.length_append, List.length_append]
      omega

end Cut

/-- How many byte ranges some sequences have in all. -/
def weight (sequences : List (List (Nat × Nat))) : Nat :=
  (sequences.map List.length).sum

theorem weight_append (a b : List (List (Nat × Nat))) : weight (a ++ b) = weight a + weight b := by
  rw [weight, List.map_append, List.sum_append]
  rfl

theorem weight_flatMap_le {α : Type} {f : α → List (List (Nat × Nat))} {most : α → Nat} :
    ∀ {items : List α}, (∀ item ∈ items, weight (f item) ≤ most item) → weight (items.flatMap f) ≤ (items.map most).sum
  | [], _ => Nat.le_refl _
  | item :: items, h => by
    obtain ⟨hitem, hrest⟩ := List.forall_mem_cons.1 h
    rw [List.flatMap_cons, weight_append, List.map_cons, List.sum_cons]
    exact Nat.add_le_add hitem (weight_flatMap_le hrest)

theorem weight_of_forall {size : Nat} : ∀ {sequences : List (List (Nat × Nat))},
    (∀ sequence ∈ sequences, sequence.length = size) → weight sequences = sequences.length * size
  | [], _ => (Nat.zero_mul size).symm
  | sequence :: sequences, h => by
    obtain ⟨hfirst, hrest⟩ := List.forall_mem_cons.1 h
    rw [weight, List.map_cons, List.sum_cons, hfirst, ← weight, weight_of_forall hrest, List.length_cons, Nat.succ_mul,
      Nat.add_comm]

theorem length_le_weight : ∀ {sequences : List (List (Nat × Nat))}, (∀ sequence ∈ sequences, sequence ≠ []) →
    sequences.length ≤ weight sequences
  | [], _ => Nat.le_refl _
  | sequence :: sequences, h => by
    obtain ⟨hfirst, hrest⟩ := List.forall_mem_cons.1 h
    have hmore := length_le_weight hrest
    have hpos := List.length_pos_of_ne_nil hfirst
    rw [weight, List.map_cons, List.sum_cons, ← weight, List.length_cons]
    omega

theorem weight_cutRange_le (others low high : Nat) :
    weight (cutRange others low high others) ≤ (2 * others + 1) * (others + 1) := by
  rw [weight_of_forall length_of_mem_cutRange]
  exact Nat.mul_le_mul_right _ length_cutRange_le

theorem ne_nil_of_mem_byteSequences {set : CharSet} {sequence : List (Nat × Nat)} (h : sequence ∈ set.byteSequences) :
    sequence ≠ [] := by
  obtain ⟨⟨low, high⟩, -, h⟩ := List.mem_flatMap.1 h
  obtain ⟨⟨others, least, most⟩, -, h⟩ := List.mem_flatMap.1 h
  simp only [List.mem_ite_nil_right] at h
  exact List.ne_nil_of_length_eq_add_one (length_of_mem_cutRange sequence h.2)

/-- **A range of characters has no more than so many byte ranges.** -/
theorem weight_byteSequences_le (set : CharSet) : weight set.byteSequences ≤ 65 * set.ranges.length := by
  have hrange : ∀ range ∈ set.ranges, weight (lengths.flatMap fun length =>
      if max range.1 length.2.1 ≤ min range.2 length.2.2 then
        cutRange length.1 (max range.1 length.2.1) (min range.2 length.2.2) length.1
      else []) ≤ 65 := by
    intro range _
    refine Nat.le_trans (weight_flatMap_le fun length _ => ?_)
      (show (lengths.map fun length => (2 * length.1 + 1) * (length.1 + 1)).sum ≤ 65 by decide)
    split
    · exact weight_cutRange_le _ _ _
    · exact Nat.zero_le _
  refine Nat.le_trans (weight_flatMap_le hrange) ?_
  rw [List.map_const', List.sum_replicate, smul_eq_mul, Nat.mul_comm]

end CharSet

namespace Expression

open CharSet

/-! ## Machines -/

/-- The byte ranges of the ways on, with one for each sequence that goes there. -/
def onward (groups : List ((Nat × Nat) × List (List (Nat × Nat)))) : Nat :=
  (groups.map fun group => weight group.2 + group.2.length).sum

theorem byFirst_cons (sequence : List (Nat × Nat)) (sequences : List (List (Nat × Nat))) :
    byFirst (sequence :: sequences) =
      match sequence, byFirst sequences with
      | [], groups => groups
      | first :: rest, [] => [(first, [rest])]
      | first :: rest, (other, ends) :: groups =>
        if first = other then (first, rest :: ends) :: groups else (first, [rest]) :: (other, ends) :: groups :=
  rfl

/-- By what they start with, each sequence loses its first byte range, and no way on is without a sequence. -/
theorem byFirst_spec : ∀ sequences : List (List (Nat × Nat)),
    onward (byFirst sequences) = weight sequences ∧ ∀ group ∈ byFirst sequences, group.2 ≠ []
  | [] => ⟨rfl, List.forall_mem_nil _⟩
  | sequence :: sequences => by
    obtain ⟨hweight, hne⟩ := byFirst_spec sequences
    have hcons : weight (sequence :: sequences) = sequence.length + weight sequences := List.sum_cons
    rw [byFirst_cons, hcons]
    rcases sequence with _ | ⟨first, rest⟩
    · rw [List.length_nil, Nat.zero_add]
      exact ⟨hweight, hne⟩
    · rw [List.length_cons]
      rcases hgroups : byFirst sequences with _ | ⟨⟨other, ends⟩, groups⟩
      · rw [hgroups] at hweight
        refine ⟨?_, List.forall_mem_singleton.2 (List.cons_ne_nil _ _)⟩
        rw [← hweight]
        simp [onward, weight]
      · rw [hgroups] at hweight hne
        obtain ⟨hends, hothers⟩ := List.forall_mem_cons.1 hne
        simp only
        split
        · refine ⟨?_, List.forall_mem_cons.2 ⟨List.cons_ne_nil _ _, hothers⟩⟩
          rw [← hweight]
          simp only [onward, weight, List.map_cons, List.sum_cons, List.length_cons]
          omega
        · refine ⟨?_, List.forall_mem_cons.2 ⟨List.cons_ne_nil _ _, hne⟩⟩
          rw [← hweight]
          simp only [onward, weight, List.map_cons, List.map_nil, List.sum_cons, List.sum_nil, List.length_cons, List.length_nil]
          omega

/-- Backwards there is a state for a byte range at most. -/
theorem backwardStates_le : ∀ (depth : Nat) (sequences : List (List (Nat × Nat))),
    backwardStates depth sequences ≤ weight sequences
  | 0, _ => Nat.zero_le _
  | depth + 1, sequences => by
    obtain ⟨hweight, hne⟩ := byFirst_spec sequences
    have hfold : ∀ (groups : List ((Nat × Nat) × List (List (Nat × Nat)))) (n : Nat), (∀ group ∈ groups, group.2 ≠ []) →
        groups.foldl (fun n group => n + 1 + backwardStates depth group.2) n ≤ n + onward groups := by
      intro groups
      induction groups with
      | nil => exact fun n _ => Nat.le_refl _
      | cons group groups ih =>
        intro n h
        obtain ⟨hgroup, hgroups⟩ := List.forall_mem_cons.1 h
        have hstates := backwardStates_le depth group.2
        have hlength := List.length_pos_of_ne_nil hgroup
        have hrest := ih (n + 1 + backwardStates depth group.2) hgroups
        rw [List.foldl_cons]
        simp only [onward, List.map_cons, List.sum_cons] at hrest ⊢
        omega
    rw [backwardStates, ← hweight]
    exact Nat.le_trans (hfold _ 0 hne) (Nat.le_of_eq (Nat.zero_add _))

/-- The room of some states. -/
def roomOf (known : Std.HashSet (List (List (Nat × Nat)))) : Nat :=
  known.fold (fun n state => n + 32 + 8 * (byFirst state).length) 32

theorem roomOf_eq (known : Std.HashSet (List (List (Nat × Nat)))) :
    roomOf known = 32 + (known.toList.map fun state => 32 + 8 * (byFirst state).length).sum := by
  have hfold : ∀ (states : List (List (List (Nat × Nat)))) (n : Nat),
      states.foldl (fun n state => n + 32 + 8 * (byFirst state).length) n =
        n + (states.map fun state => 32 + 8 * (byFirst state).length).sum := by
    intro states
    induction states with
    | nil => exact fun n => rfl
    | cons state states ih =>
      intro n
      rw [List.foldl_cons, ih, List.map_cons, List.sum_cons]
      omega
  rw [roomOf, Std.HashSet.fold_eq_foldl_toList, hfold]

theorem roomOf_insert_le (known : Std.HashSet (List (List (Nat × Nat)))) (state : List (List (Nat × Nat))) :
    roomOf (known.insert state) ≤ roomOf known + 32 + 8 * (byFirst state).length := by
  have hperm := (Std.HashSet.toList_insert_perm (m := known) (k := state)).map fun state => 32 + 8 * (byFirst state).length
  rw [roomOf_eq, roomOf_eq, hperm.sum_eq]
  split
  · omega
  · rw [List.map_cons, List.sum_cons]
    omega

/-- **Forwards a step takes a state, and a transition for a byte range at most.** -/
theorem roomOf_forwardStates_le : ∀ (depth : Nat) (sequences : List (List (Nat × Nat)))
    (known : Std.HashSet (List (List (Nat × Nat)))),
    roomOf (forwardStates depth sequences known) ≤ roomOf known + 32 + 40 * weight sequences
  | 0, _, _ => by
    rw [forwardStates]
    omega
  | depth + 1, sequences, known => by
    obtain ⟨hweight, hne⟩ := byFirst_spec sequences
    have hfold : ∀ (groups : List ((Nat × Nat) × List (List (Nat × Nat)))) (known : Std.HashSet (List (List (Nat × Nat)))),
        (∀ group ∈ groups, group.2 ≠ []) →
          roomOf (groups.foldl (fun known group => forwardStates depth group.2 known) known) + 8 * groups.length ≤
            roomOf known + 40 * onward groups := by
      intro groups
      induction groups with
      | nil => exact fun known _ => Nat.le_refl _
      | cons group groups ih =>
        intro known h
        obtain ⟨hgroup, hgroups⟩ := List.forall_mem_cons.1 h
        have hstates := roomOf_forwardStates_le depth group.2 known
        have hlength := List.length_pos_of_ne_nil hgroup
        have hrest := ih (forwardStates depth group.2 known) hgroups
        rw [List.foldl_cons, List.length_cons]
        simp only [onward, List.map_cons, List.sum_cons] at hrest ⊢
        omega
    rw [forwardStates]
    split
    · omega
    · have hinsert := roomOf_insert_le known sequences
      have hrest := hfold (byFirst sequences) (known.insert sequences) hne
      rw [hweight] at hrest
      change roomOf ((byFirst sequences).foldl (fun known group => forwardStates depth group.2 known) _) ≤ _
      omega

/-- **The room of a set is bounded by the number of its ranges.** -/
theorem setSize_le (backward : Bool) (set : CharSet) : setSize backward set ≤ 64 + 2600 * set.ranges.length := by
  have hweight := weight_byteSequences_le set
  rw [setSize]
  split
  · omega
  · split
    · have hstates := backwardStates_le 4 set.byteSequences
      have hlength : set.byteSequences.length ≤ weight set.byteSequences :=
        length_le_weight fun _ => ne_nil_of_mem_byteSequences
      simp only
      omega
    · have hroom := roomOf_forwardStates_le 4 set.byteSequences ∅
      have hempty : roomOf ∅ = 32 := by simp [roomOf_eq]
      rw [hempty] at hroom
      exact Nat.le_trans hroom (by omega)

/-! ## Parts -/

section Parts

variable (backward : Bool) (former latter inner : Expression)

theorem size_look (l : Look) : (look l).size backward false = 32 :=
  rfl

theorem size_row : (row former latter).size backward false = former.size backward false + latter.size backward false :=
  rfl

theorem size_group_le (index : Nat) : (group index inner).size backward false ≤ inner.size backward false + 64 := by
  cases backward
  · exact Nat.le_refl _
  · exact Nat.le_add_right _ _

theorem length_bytesRead_le : ∀ t : Text, (bytesRead backward t).length ≤ 4 * t.length := by
  have hbytes : ∀ t : Text, (t.flatMap String.utf8EncodeChar).length ≤ 4 * t.length := by
    intro t
    induction t with
    | nil => exact Nat.le_refl _
    | cons c t ih =>
      have hchar : (String.utf8EncodeChar c).length ≤ 4 := by
        rw [String.length_utf8EncodeChar]
        exact c.utf8Size_le_four
      rw [List.flatMap_cons, List.length_append, List.length_cons]
      omega
  intro t
  cases backward
  · exact hbytes t
  · exact Nat.le_trans (Nat.le_of_eq List.length_reverse) (hbytes t)

theorem size_literal_le (t : Text) : (literal t).size backward false ≤ 128 * t.length := by
  have hbytes := length_bytesRead_le backward t
  change 32 * (bytesRead backward t).length ≤ _
  omega

/-- A repetition of a set without an upper bound. -/
theorem size_repeated_one_le (set : CharSet) {least : Nat} (hleast : least ≤ 1) (greedy : Bool) :
    (repeated (one set) least none greedy).size backward false ≤ 176 + 2600 * set.ranges.length := by
  have hset := setSize_le backward set
  change repetitionSize (one set).takesSome (setSize backward set) least none ≤ _
  match least, hleast with
  | 0, _ =>
    rw [repetitionSize]
    split <;> omega
  | 1, _ =>
    rw [repetitionSize]
    omega

/-- An expression fits if it leaves what the search through a text takes too. -/
theorem fits_of_size_le {expression : Expression} (h : ∀ backward, expression.size backward false + 208 ≤ mostRoom) :
    expression.fits = true := by
  have hforward := h false
  have hbackward := h true
  rw [fits, Bool.and_eq_true_iff, decide_eq_true_iff, decide_eq_true_iff]
  omega

end Parts

end Expression
end DtsBundle
