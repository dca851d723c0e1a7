import DtsBundle.Expression.Automaton
import DtsBundle.Proofs.Characters.Set
import DtsBundle.Proofs.Expression.Meaning
/-!
# The automaton of an expression

A thread of an automaton goes from state to state until one is done.  Where a thread can end is what an automaton means,
and **the automaton of an expression ends just where the expression matches to** (`ends_automaton_iff`).

The states of an expression are added behind those that are there, so they are found in the whole automaton again.  What
the states of a part mean is said for every automaton that has them (`Means`): a thread that starts with them gets to the
state behind them just by what the part matches.  The way from an end back to a match is an induction on the number of
steps, which is less behind each round of a loop.
-/
namespace DtsBundle

open Expression (Place Times times_add times_one addState)

/-- Where a state leads: from a place to the next state and its place. -/
def State.Leads (text : Text) : State → Place → Nat → Place → Prop
  | take set next, a, s, b => s = next ∧ ∃ c, a.after text = some c ∧ set.has c = true ∧ a.past 1 = b
  | check look next, a, s, b => s = next ∧ look.holds (a.before text) (a.after text) = true ∧ a = b
  | mark slot next, a, s, b => s = next ∧ a.mark slot = b
  | choose nexts, a, s, b => s ∈ nexts ∧ a = b
  | done, _, _, _ => False

namespace Automaton

/-- A thread that is in a state at a place ends at a place, after so many steps. -/
inductive Ends (automaton : Automaton) (text : Text) (stop : Place) : Nat → Nat → Place → Prop
  | done {s : Nat} (hstate : automaton.states[s]? = some .done) : Ends automaton text stop 0 s stop
  | step {count s next : Nat} {state : State} {a b : Place} (hstate : automaton.states[s]? = some state)
    (hleads : state.Leads text a next b) (hrest : Ends automaton text stop count next b) :
    Ends automaton text stop (count + 1) s a

/-- An automaton has the states that were added to some. -/
def Has (automaton : Automaton) (states built : Array State) : Prop :=
  ∀ i, states.size ≤ i → i < built.size → automaton.states[i]? = built[i]?

variable {automaton : Automaton} {text : Text} {stop a b : Place} {s next count : Nat} {state : State}

theorem ends_iff (hstate : automaton.states[s]? = some state) (hdone : state ≠ .done) :
    Ends automaton text stop count s a ↔
      ∃ less next b, count = less + 1 ∧ state.Leads text a next b ∧ Ends automaton text stop less next b := by
  constructor
  · intro h
    cases h with
    | done hend =>
      rw [hend] at hstate
      exact absurd (Option.some.inj hstate).symm hdone
    | @step less _ next other _ b hother hleads hrest =>
      rw [hother] at hstate
      obtain rfl := Option.some.inj hstate
      exact ⟨less, next, b, rfl, hleads, hrest⟩
  · rintro ⟨less, next, b, rfl, hleads, hrest⟩
    exact .step hstate hleads hrest

/-- What was added first, and what was added to that. -/
theorem Has.split {states built all : Array State} (h : Has automaton states all) (hsize : states.size ≤ built.size)
    (hmore : built.size ≤ all.size) (hkept : ∀ i, i < built.size → all[i]? = built[i]?) :
    Has automaton states built ∧ Has automaton built all := by
  refine ⟨fun i hlow hhigh => ?_, fun i hlow hhigh => h i (Nat.le_trans hsize hlow) hhigh⟩
  rw [h i hlow (Nat.lt_of_lt_of_le hhigh hmore), hkept i hhigh]

theorem size_addState (state : State) (states : Array State) : (addState state states).2.size = states.size + 1 := by
  simp [addState]

theorem getElem?_addState {state : State} {states : Array State} {i : Nat} (h : i < states.size) :
    (addState state states).2[i]? = states[i]? := by
  simp [addState, Array.getElem?_push, Nat.ne_of_lt h]

/-- The state that was added last, and those before it. -/
theorem Has.of_addState {states built : Array State} (h : Has automaton states (addState state built).2) (hsize : states.size ≤ built.size) :
    Has automaton states built ∧ automaton.states[(addState state built).1]? = some state := by
  constructor
  · intro i hlow hhigh
    rw [h i hlow (by rw [size_addState]; exact Nat.lt_succ_of_lt hhigh), getElem?_addState hhigh]
  · rw [show (addState state built).1 = built.size from rfl, h built.size hsize (by simp [addState])]
    simp [addState]

theorem ends_done_iff (hstate : automaton.states[s]? = some .done) :
    (∃ count, Ends automaton text stop count s a) ↔ a = stop := by
  constructor
  · rintro ⟨count, h⟩
    cases h with
    | done => rfl
    | step hother hleads hrest =>
      rw [hother] at hstate
      obtain rfl := Option.some.inj hstate
      exact hleads.elim
  · rintro rfl
    exact ⟨0, .done hstate⟩

end Automaton

namespace Expression

open Automaton (Ends Has ends_iff ends_done_iff size_addState getElem?_addState)

/-! ## States added to others -/

/-- What adds states leaves those that are there, and a thread that starts with the new ones gets to the state behind
them just by some steps. -/
structure Means (text : Text) (add : Adding) (step : Place → Place → Prop) : Prop where
  size_le : ∀ next states, states.size ≤ (add next states).2.size
  kept : ∀ next states i, i < states.size → (add next states).2[i]? = states[i]?
  ends : ∀ {next states automaton}, Has automaton states (add next states).2 → ∀ {stop count a b}, step a b →
    Ends automaton text stop count next b → ∃ count, Ends automaton text stop count (add next states).1 a
  of_ends : ∀ {next states automaton}, Has automaton states (add next states).2 → ∀ {stop count a},
    Ends automaton text stop count (add next states).1 a →
    ∃ b, step a b ∧ ∃ less ≤ count, Ends automaton text stop less next b

variable {text : Text} {add former latter : Adding} {step step' : Place → Place → Prop}

theorem Means.congr (h : Means text add step) (hstep : ∀ a b, step a b ↔ step' a b) : Means text add step' where
  size_le := h.size_le
  kept := h.kept
  ends hhas _ _ _ _ hstep' hend := h.ends hhas ((hstep _ _).2 hstep') hend
  of_ends hhas _ _ _ hend := by
    obtain ⟨b, hfirst, hrest⟩ := h.of_ends hhas hend
    exact ⟨b, (hstep _ _).1 hfirst, hrest⟩

/-- Nothing added, for no step. -/
theorem means_none : Means text (fun next states => (next, states)) (fun a b => a = b) where
  size_le _ _ := Nat.le_refl _
  kept _ _ _ _ := rfl
  ends _ _ _ _ _ heq hend := ⟨_, heq ▸ hend⟩
  of_ends _ _ _ a hend := ⟨a, rfl, _, Nat.le_refl _, hend⟩

/-- One state, for one step. -/
theorem means_state (state : Nat → State) (hdone : ∀ next, state next ≠ .done)
    (hleads : ∀ next a s b, (state next).Leads text a s b ↔ s = next ∧ step a b) :
    Means text (fun next states => addState (state next) states) step where
  size_le next states := by simp [addState]
  kept next states i hi := by
    have hne : i ≠ states.size := Nat.ne_of_lt hi
    simp [addState, Array.getElem?_push, hne]
  ends {next states automaton} hhas stop count a b hstep hend := by
    have hstate : automaton.states[states.size]? = some (state next) := by
      rw [hhas states.size (Nat.le_refl _) (by simp [addState])]
      simp [addState]
    exact ⟨_, .step hstate ((hleads _ _ _ _).2 ⟨rfl, hstep⟩) hend⟩
  of_ends {next states automaton} hhas stop count a hend := by
    have hstate : automaton.states[states.size]? = some (state next) := by
      rw [hhas states.size (Nat.le_refl _) (by simp [addState])]
      simp [addState]
    obtain ⟨less, s, b, rfl, hlead, hrest⟩ := (ends_iff hstate (hdone next)).1 hend
    obtain ⟨rfl, hstep⟩ := (hleads _ _ _ _).1 hlead
    exact ⟨b, hstep, less, Nat.le_succ less, hrest⟩

/-- What stands in front is added last. -/
theorem Means.comp (hformer : Means text former step) (hlatter : Means text latter step') :
    Means text (fun next states => former (latter next states).1 (latter next states).2)
      (fun a b => ∃ middle, step a middle ∧ step' middle b) where
  size_le next states := Nat.le_trans (hlatter.size_le next states) (hformer.size_le _ _)
  kept next states i hi := by
    rw [hformer.kept _ _ i (Nat.lt_of_lt_of_le hi (hlatter.size_le next states)), hlatter.kept next states i hi]
  ends {next states automaton} hhas stop count a b hstep hend := by
    obtain ⟨hlast, hfirst⟩ := hhas.split (hlatter.size_le next states) (hformer.size_le _ _) (hformer.kept _ _)
    obtain ⟨middle, hs, hs'⟩ := hstep
    obtain ⟨more, hmiddle⟩ := hlatter.ends hlast hs' hend
    exact hformer.ends hfirst hs hmiddle
  of_ends {next states automaton} hhas stop count a hend := by
    obtain ⟨hlast, hfirst⟩ := hhas.split (hlatter.size_le next states) (hformer.size_le _ _) (hformer.kept _ _)
    obtain ⟨middle, hs, less, hless, hmiddle⟩ := hformer.of_ends hfirst hend
    obtain ⟨b, hs', least, hleast, hrest⟩ := hlatter.of_ends hlast hmiddle
    exact ⟨b, ⟨middle, hs, hs'⟩, least, Nat.le_trans hleast hless, hrest⟩

/-! ## Parts without repetition -/

theorem means_take (set : CharSet) : Means text (fun next states => addState (.take set next) states)
    (fun a b => ∃ c, a.after text = some c ∧ set.has c = true ∧ a.past 1 = b) :=
  means_state (State.take set) (fun _ h => by cases h) fun _ _ _ _ => Iff.rfl

theorem means_check (l : Look) : Means text (fun next states => addState (.check l next) states)
    (fun a b => l.holds (a.before text) (a.after text) = true ∧ a = b) :=
  means_state (State.check l) (fun _ h => by cases h) fun _ _ _ _ => Iff.rfl

theorem means_mark (slot : Nat) : Means text (fun next states => addState (.mark slot next) states)
    (fun a b => a.mark slot = b) :=
  means_state (State.mark slot) (fun _ h => by cases h) fun _ _ _ _ => Iff.rfl

/-- A character and the text behind it. -/
theorem literal_cons_iff {c : Char} {t : Text} {a b : Place} :
    (∃ middle, (∃ d, a.after text = some d ∧ (CharSet.only c).has d = true ∧ a.past 1 = middle) ∧
        t <+: text.drop middle.index ∧ middle.past t.length = b) ↔
      (c :: t) <+: text.drop a.index ∧ a.past (t.length + 1) = b := by
  have hplace : (a.past 1).past t.length = a.past (t.length + 1) := by
    simp only [Place.past, Place.mk.injEq, and_true]
    omega
  have hrest : text.drop (a.past 1).index = (text.drop a.index).tail := by
    rw [List.tail_drop]
    rfl
  constructor
  · rintro ⟨_, ⟨d, hd, hhas, rfl⟩, ht, rfl⟩
    obtain rfl := CharSet.has_only_iff.1 hhas
    obtain ⟨rest, hcons⟩ := List.head?_eq_some_iff.1 (show (text.drop a.index).head? = some d from hd)
    rw [hrest, hcons] at ht
    rw [hcons]
    exact ⟨List.cons_prefix_cons.2 ⟨rfl, ht⟩, hplace.symm⟩
  · rintro ⟨hfront, rfl⟩
    obtain ⟨rest, hcons⟩ := hfront
    refine ⟨_, ⟨c, ?_, CharSet.has_only_iff.2 rfl, rfl⟩, ?_, hplace⟩
    · rw [Place.after, ← hcons]
      rfl
    · rw [hrest, ← hcons]
      exact ⟨rest, rfl⟩

theorem means_literal : ∀ t : Text, Means text
    (fun next states => t.foldr (fun c (next, states) => addState (.take (.only c) next) states) (next, states))
    (fun a b => t <+: text.drop a.index ∧ a.past t.length = b)
  | [] => means_none.congr fun _ _ => ⟨fun h => ⟨List.nil_prefix, h⟩, fun h => h.2⟩
  | c :: t => ((means_take (.only c)).comp (means_literal t)).congr fun _ _ => literal_cons_iff

theorem means_group (index : Nat) (h : Means text add step) : Means text
    (fun next states =>
      let (stop, states) := addState (.mark (2 * index + 1) next) states
      let (start, states) := add stop states
      addState (.mark (2 * index) start) states)
    (fun a b => ∃ stop, step (a.mark (2 * index)) stop ∧ stop.mark (2 * index + 1) = b) := by
  refine ((means_mark (2 * index)).comp (h.comp (means_mark (2 * index + 1)))).congr fun a b => ?_
  exact ⟨fun ⟨_, hmark, hrest⟩ => hmark ▸ hrest, fun h => ⟨_, rfl, h⟩⟩

/-! ## Ways that part -/

theorem ends_choose_iff {automaton : Automaton} {stop a : Place} {s count : Nat} {nexts : List Nat}
    (hstate : automaton.states[s]? = some (.choose nexts)) :
    Ends automaton text stop count s a ↔ ∃ less next, count = less + 1 ∧ next ∈ nexts ∧ Ends automaton text stop less next a := by
  rw [ends_iff hstate (fun h => by cases h)]
  constructor
  · rintro ⟨less, next, _, hcount, ⟨hm, rfl⟩, hrest⟩
    exact ⟨less, next, hcount, hm, hrest⟩
  · rintro ⟨less, next, hcount, hm, hrest⟩
    exact ⟨less, next, a, hcount, ⟨hm, rfl⟩, hrest⟩

theorem ways_eq (greedy : Bool) (round on : Nat) :
    ∃ nexts, ways greedy round on = .choose nexts ∧ ∀ next, next ∈ nexts ↔ next = round ∨ next = on := by
  refine ⟨_, rfl, fun next => ?_⟩
  cases greedy
  · simp [or_comm]
  · simp

theorem ends_ways_iff {automaton : Automaton} {stop a : Place} {s count round on : Nat} {greedy : Bool}
    (hstate : automaton.states[s]? = some (ways greedy round on)) :
    Ends automaton text stop count s a ↔
      ∃ less, count = less + 1 ∧ (Ends automaton text stop less round a ∨ Ends automaton text stop less on a) := by
  obtain ⟨nexts, hways, hmem⟩ := ways_eq greedy round on
  rw [hways] at hstate
  rw [ends_choose_iff hstate]
  constructor
  · rintro ⟨less, next, hcount, hm, hrest⟩
    rcases (hmem next).1 hm with rfl | rfl
    · exact ⟨less, hcount, .inl hrest⟩
    · exact ⟨less, hcount, .inr hrest⟩
  · rintro ⟨less, hcount, hround | hon⟩
    · exact ⟨less, round, hcount, (hmem round).2 (.inl rfl), hround⟩
    · exact ⟨less, on, hcount, (hmem on).2 (.inr rfl), hon⟩

/-- Two ways on, of which either may be taken. -/
theorem Means.either (hformer : Means text former step) (hlatter : Means text latter step') : Means text
    (fun next states =>
      let (second, states) := latter next states
      let (first, states) := former next states
      addState (.choose [first, second]) states)
    (fun a b => step a b ∨ step' a b) where
  size_le next states := by
    rw [size_addState]
    exact Nat.le_succ_of_le (Nat.le_trans (hlatter.size_le next states) (hformer.size_le _ _))
  kept next states i hi := by
    have hsecond := Nat.lt_of_lt_of_le hi (hlatter.size_le next states)
    rw [getElem?_addState (Nat.lt_of_lt_of_le hsecond (hformer.size_le _ _)), hformer.kept _ _ i hsecond,
      hlatter.kept next states i hi]
  ends {next states automaton} hhas stop count a b hstep hend := by
    obtain ⟨hboth, hstate⟩ := hhas.of_addState (Nat.le_trans (hlatter.size_le next states) (hformer.size_le _ _))
    obtain ⟨hlast, hfirst⟩ := hboth.split (hlatter.size_le next states) (hformer.size_le _ _) (hformer.kept _ _)
    rcases hstep with hs | hs'
    · obtain ⟨more, hmore⟩ := hformer.ends hfirst hs hend
      exact ⟨_, (ends_choose_iff hstate).2 ⟨more, _, rfl, List.mem_cons_self, hmore⟩⟩
    · obtain ⟨more, hmore⟩ := hlatter.ends hlast hs' hend
      exact ⟨_, (ends_choose_iff hstate).2 ⟨more, _, rfl, List.mem_cons_of_mem _ List.mem_cons_self, hmore⟩⟩
  of_ends {next states automaton} hhas stop count a hend := by
    obtain ⟨hboth, hstate⟩ := hhas.of_addState (Nat.le_trans (hlatter.size_le next states) (hformer.size_le _ _))
    obtain ⟨hlast, hfirst⟩ := hboth.split (hlatter.size_le next states) (hformer.size_le _ _) (hformer.kept _ _)
    obtain ⟨less, way, rfl, hm, hway⟩ := (ends_choose_iff hstate).1 hend
    rcases List.mem_pair.1 hm with rfl | rfl
    · obtain ⟨b, hs, least, hleast, hrest⟩ := hformer.of_ends hfirst hway
      exact ⟨b, .inl hs, least, Nat.le_succ_of_le hleast, hrest⟩
    · obtain ⟨b, hs', least, hleast, hrest⟩ := hlatter.of_ends hlast hway
      exact ⟨b, .inr hs', least, Nat.le_succ_of_le hleast, hrest⟩

/-! ## Repetitions -/

/-- One step more, behind the others. -/
theorem times_succ_iff {n : Nat} {a b : Place} : (∃ middle, Times step n a middle ∧ step middle b) ↔ Times step (n + 1) a b := by
  rw [times_add]
  exact exists_congr fun middle => and_congr_right fun _ => times_one.symm

theorem Means.copies (h : Means text add step) : ∀ n, Means text (addCopies add n) (Times step n)
  | 0 => means_none
  | n + 1 => ((h.copies n).comp h).congr fun _ _ => times_succ_iff

/-- What is added for at most so many steps: a thread goes that many and on, or fewer and then to the end of all. -/
structure MeansUpTo (text : Text) (add : Nat → Adding) (step : Place → Place → Prop) (n : Nat) : Prop where
  size_le : ∀ stop next states, states.size ≤ (add stop next states).2.size
  kept : ∀ stop next states i, i < states.size → (add stop next states).2[i]? = states[i]?
  ends : ∀ {stop next states automaton}, Has automaton states (add stop next states).2 → ∀ {last count a b},
    (∃ i < n, Times step i a b ∧ Ends automaton text last count stop b) ∨
      (Times step n a b ∧ Ends automaton text last count next b) →
    ∃ count, Ends automaton text last count (add stop next states).1 a
  of_ends : ∀ {stop next states automaton}, Has automaton states (add stop next states).2 → ∀ {last count a},
    Ends automaton text last count (add stop next states).1 a →
    ∃ b, ∃ less ≤ count, (∃ i < n, Times step i a b ∧ Ends automaton text last less stop b) ∨
      (Times step n a b ∧ Ends automaton text last less next b)

/-! ### A state behind the others -/

theorem Means.size_le_addState (h : Means text add step) (state : State) (next : Nat) (states : Array State) :
    states.size ≤ (addState state (add next states).2).2.size := by
  rw [size_addState]
  exact Nat.le_succ_of_le (h.size_le next states)

theorem Means.kept_addState (h : Means text add step) {state : State} {next i : Nat} {states : Array State}
    (hi : i < states.size) : (addState state (add next states).2).2[i]? = states[i]? := by
  rw [getElem?_addState (Nat.lt_of_lt_of_le hi (h.size_le next states)), h.kept next states i hi]

/-- The states of one step that may be left out, the fork before it, and what stands in front. -/
theorem Means.split_optional {greedy : Bool} {n stop next : Nat} {states : Array State} {automaton : Automaton}
    (h : Means text add step) (ih : MeansUpTo text (fun stop => addOptional add greedy stop n) step n)
    (hhas : Has automaton states (addOptional add greedy stop (n + 1) next states).2) :
    Has automaton states (add next states).2 ∧
      Has automaton (addState (ways greedy (add next states).1 stop) (add next states).2).2
        (addOptional add greedy stop n (addState (ways greedy (add next states).1 stop) (add next states).2).1
          (addState (ways greedy (add next states).1 stop) (add next states).2).2).2 ∧
      automaton.states[(addState (ways greedy (add next states).1 stop) (add next states).2).1]? =
        some (ways greedy (add next states).1 stop) := by
  obtain ⟨hforked, hrest⟩ := hhas.split (h.size_le_addState _ next states) (ih.size_le stop _ _) (ih.kept stop _ _)
  obtain ⟨hadd, hfork⟩ := hforked.of_addState (h.size_le next states)
  exact ⟨hadd, hrest, hfork⟩

theorem Means.upTo_zero (greedy : Bool) : MeansUpTo text (fun stop => addOptional add greedy stop 0) step 0 where
  size_le _ _ _ := Nat.le_refl _
  kept _ _ _ _ _ := rfl
  ends _ _ _ _ _ hways := by
    obtain ⟨i, hi, _⟩ | ⟨hnone, hend⟩ := hways
    · exact absurd hi (Nat.not_lt_zero i)
    · exact ⟨_, (show _ = _ from hnone) ▸ hend⟩
  of_ends _ _ _ a hend := ⟨a, _, Nat.le_refl _, .inr ⟨rfl, hend⟩⟩

theorem Means.upTo_succ {greedy : Bool} {n : Nat} (h : Means text add step)
    (ih : MeansUpTo text (fun stop => addOptional add greedy stop n) step n) :
    MeansUpTo text (fun stop => addOptional add greedy stop (n + 1)) step (n + 1) where
  size_le stop next states := Nat.le_trans (h.size_le_addState _ next states) (ih.size_le stop _ _)
  kept stop next states i hi :=
    (ih.kept stop _ _ i (Nat.lt_of_lt_of_le hi (h.size_le_addState _ next states))).trans (h.kept_addState hi)
  ends {stop next states automaton} hhas last count a b hways := by
    obtain ⟨hadd, hrest, hfork⟩ := h.split_optional ih hhas
    obtain ⟨i, hi, htimes, hend⟩ | ⟨htimes, hend⟩ := hways
    · rcases Nat.lt_succ_iff_lt_or_eq.1 hi with hless | rfl
      · exact ih.ends hrest (.inl ⟨i, hless, htimes, hend⟩)
      · exact ih.ends hrest (.inr ⟨htimes, (ends_ways_iff hfork).2 ⟨_, rfl, .inr hend⟩⟩)
    · obtain ⟨middle, hfirst, hlast⟩ := times_succ_iff.2 htimes
      obtain ⟨more, hmore⟩ := h.ends hadd hlast hend
      exact ih.ends hrest (.inr ⟨hfirst, (ends_ways_iff hfork).2 ⟨_, rfl, .inl hmore⟩⟩)
  of_ends {stop next states automaton} hhas last count a hend := by
    obtain ⟨hadd, hrest, hfork⟩ := h.split_optional ih hhas
    obtain ⟨b, less, hless, ⟨i, hi, hway⟩ | ⟨htimes, hforked⟩⟩ := ih.of_ends hrest hend
    · exact ⟨b, less, hless, .inl ⟨i, Nat.lt_succ_of_lt hi, hway⟩⟩
    · obtain ⟨least, rfl, hround | hon⟩ := (ends_ways_iff hfork).1 hforked
      · obtain ⟨b', hstep, fewer, hfewer, hbehind⟩ := h.of_ends hadd hround
        exact ⟨b', fewer, by omega, .inr ⟨times_succ_iff.1 ⟨b, htimes, hstep⟩, hbehind⟩⟩
      · exact ⟨b, least, by omega, .inl ⟨n, Nat.lt_succ_self n, htimes, hon⟩⟩

theorem Means.upTo (h : Means text add step) (greedy : Bool) :
    ∀ n, MeansUpTo text (fun stop => addOptional add greedy stop n) step n
  | 0 => Means.upTo_zero greedy
  | n + 1 => h.upTo_succ (h.upTo greedy n)

/-- At most so many steps. -/
theorem Means.optional (h : Means text add step) (greedy : Bool) (n : Nat) :
    Means text (fun next states => addOptional add greedy next n next states) (fun a b => ∃ i ≤ n, Times step i a b) where
  size_le next states := (h.upTo greedy n).size_le next next states
  kept next states := (h.upTo greedy n).kept next next states
  ends hhas _ _ _ _ hstep hend := by
    obtain ⟨i, hi, htimes⟩ := hstep
    rcases Nat.lt_or_eq_of_le hi with hless | rfl
    · exact (h.upTo greedy n).ends hhas (.inl ⟨i, hless, htimes, hend⟩)
    · exact (h.upTo greedy i).ends hhas (.inr ⟨htimes, hend⟩)
  of_ends hhas _ _ _ hend := by
    obtain ⟨b, less, hless, ⟨i, hi, htimes, hrest⟩ | ⟨htimes, hrest⟩⟩ := (h.upTo greedy n).of_ends hhas hend
    · exact ⟨b, ⟨i, Nat.le_of_lt hi, htimes⟩, less, hless, hrest⟩
    · exact ⟨b, ⟨n, Nat.le_refl n, htimes⟩, less, hless, hrest⟩

/-! ### Loops -/

theorem size_addLoop (add : Adding) (greedy : Bool) (next : Nat) (states : Array State) :
    (addLoop add greedy next states).2.2.size = (add states.size (addState (.choose []) states).2).2.size := by
  rw [addLoop]
  exact Array.size_setIfInBounds

theorem getElem?_addLoop {add : Adding} {greedy : Bool} {next i : Nat} {states : Array State} (h : i ≠ states.size) :
    (addLoop add greedy next states).2.2[i]? = (add states.size (addState (.choose []) states).2).2[i]? := by
  rw [addLoop]
  exact Array.getElem?_setIfInBounds_ne h.symm

theorem Means.size_lt_addLoop (h : Means text add step) (greedy : Bool) (next : Nat) (states : Array State) :
    states.size < (addLoop add greedy next states).2.2.size := by
  have hinner := h.size_le states.size (addState (.choose []) states).2
  rw [size_addState] at hinner
  rw [size_addLoop]
  exact hinner

theorem Means.kept_addLoop (h : Means text add step) {greedy : Bool} {next i : Nat} {states : Array State}
    (hi : i < states.size) : (addLoop add greedy next states).2.2[i]? = states[i]? := by
  rw [getElem?_addLoop (Nat.ne_of_lt hi), h.kept, getElem?_addState hi]
  rw [size_addState]
  exact Nat.lt_succ_of_lt hi

/-- What a loop goes round, and the fork behind it. -/
theorem Means.split_loop {greedy : Bool} {next : Nat} {states : Array State} {automaton : Automaton}
    (h : Means text add step) (hhas : Has automaton states (addLoop add greedy next states).2.2) :
    Has automaton (addState (.choose []) states).2 (add states.size (addState (.choose []) states).2).2 ∧
      automaton.states[states.size]? = some (ways greedy (addLoop add greedy next states).1 next) := by
  constructor
  · intro i hlow hhigh
    rw [size_addState] at hlow
    rw [hhas i (Nat.le_of_succ_le hlow) (by rw [size_addLoop]; exact hhigh), getElem?_addLoop (by omega)]
  · rw [hhas states.size (Nat.le_refl _) (h.size_lt_addLoop greedy next states), addLoop]
    refine Array.getElem?_setIfInBounds_self_of_lt ?_
    have hinner := h.size_le states.size (addState (.choose []) states).2
    rw [size_addState] at hinner
    exact hinner

section Loop

variable {greedy : Bool} {next : Nat} {states : Array State} {automaton : Automaton} {last : Place}

theorem Means.ends_loop (h : Means text add step) (hhas : Has automaton states (addLoop add greedy next states).2.2)
    {count : Nat} {b : Place} (hend : Ends automaton text last count next b) : ∀ {n : Nat} {a : Place}, Times step (n + 1) a b →
      ∃ count, Ends automaton text last count (addLoop add greedy next states).1 a
  | 0, a, htimes => by
    obtain ⟨hadd, hfork⟩ := h.split_loop hhas
    exact h.ends hadd (times_one.1 htimes) ((ends_ways_iff hfork).2 ⟨_, rfl, .inr hend⟩)
  | n + 1, a, ⟨middle, hstep, hrest⟩ => by
    obtain ⟨hadd, hfork⟩ := h.split_loop hhas
    obtain ⟨more, hmore⟩ := h.ends_loop hhas hend hrest
    exact h.ends hadd hstep ((ends_ways_iff hfork).2 ⟨_, rfl, .inl hmore⟩)

/-- Behind each round fewer steps are left. -/
theorem Means.loop_of_ends (h : Means text add step) (hhas : Has automaton states (addLoop add greedy next states).2.2)
    {count : Nat} {a : Place} (hend : Ends automaton text last count (addLoop add greedy next states).1 a) :
    ∃ b, (∃ n, Times step (n + 1) a b) ∧ ∃ less ≤ count, Ends automaton text last less next b := by
  induction count using Nat.strongRecOn generalizing a with
  | _ count ih =>
    obtain ⟨hadd, hfork⟩ := h.split_loop hhas
    obtain ⟨middle, hstep, less, hless, hforked⟩ := h.of_ends hadd hend
    obtain ⟨least, rfl, hround | hon⟩ := (ends_ways_iff hfork).1 hforked
    · obtain ⟨b, ⟨n, htimes⟩, fewer, hfewer, hrest⟩ := ih least hless hround
      exact ⟨b, ⟨n + 1, middle, hstep, htimes⟩, fewer, by omega, hrest⟩
    · exact ⟨middle, ⟨0, times_one.2 hstep⟩, least, by omega, hon⟩

/-- No step or more. -/
theorem times_or_iff {a b : Place} : ((∃ n, Times step (n + 1) a b) ∨ a = b) ↔ ∃ n, Times step n a b := by
  constructor
  · rintro (⟨n, htimes⟩ | rfl)
    · exact ⟨n + 1, htimes⟩
    · exact ⟨0, rfl⟩
  · rintro ⟨_ | n, htimes⟩
    · exact .inr htimes
    · exact .inl ⟨n, htimes⟩

/-- From a fork that leads into a loop or past it. -/
theorem Means.ends_fork (h : Means text add step) (hhas : Has automaton states (addLoop add greedy next states).2.2)
    {s count : Nat} {a b : Place} (hfork : automaton.states[s]? = some (ways greedy (addLoop add greedy next states).1 next))
    (htimes : ∃ n, Times step n a b) (hend : Ends automaton text last count next b) :
    ∃ count, Ends automaton text last count s a := by
  rcases times_or_iff.2 htimes with ⟨n, hsome⟩ | rfl
  · obtain ⟨more, hmore⟩ := h.ends_loop hhas hend hsome
    exact ⟨_, (ends_ways_iff hfork).2 ⟨_, rfl, .inl hmore⟩⟩
  · exact ⟨_, (ends_ways_iff hfork).2 ⟨_, rfl, .inr hend⟩⟩

theorem Means.fork_of_ends (h : Means text add step) (hhas : Has automaton states (addLoop add greedy next states).2.2)
    {s count : Nat} {a : Place} (hfork : automaton.states[s]? = some (ways greedy (addLoop add greedy next states).1 next))
    (hend : Ends automaton text last count s a) :
    ∃ b, (∃ n, Times step n a b) ∧ ∃ less ≤ count, Ends automaton text last less next b := by
  obtain ⟨less, rfl, hround | hon⟩ := (ends_ways_iff hfork).1 hend
  · obtain ⟨b, htimes, least, hleast, hrest⟩ := h.loop_of_ends hhas hround
    exact ⟨b, times_or_iff.1 (.inl htimes), least, Nat.le_succ_of_le hleast, hrest⟩
  · exact ⟨a, ⟨0, rfl⟩, less, Nat.le_succ less, hon⟩

end Loop

/-- One step or more: from the start of a loop. -/
theorem Means.loop (h : Means text add step) (greedy : Bool) :
    Means text (fun next states => ((addLoop add greedy next states).1, (addLoop add greedy next states).2.2))
      (fun a b => ∃ n, Times step (n + 1) a b) where
  size_le next states := Nat.le_of_lt (h.size_lt_addLoop greedy next states)
  kept _ _ _ := h.kept_addLoop
  ends hhas _ _ _ _ hstep hend := hstep.elim fun _ => h.ends_loop hhas hend
  of_ends hhas _ _ _ hend := h.loop_of_ends hhas hend

/-- No step or more: from the fork of a loop. -/
theorem Means.fork (h : Means text add step) (greedy : Bool) :
    Means text (fun next states => ((addLoop add greedy next states).2.1, (addLoop add greedy next states).2.2))
      (fun a b => ∃ n, Times step n a b) where
  size_le next states := Nat.le_of_lt (h.size_lt_addLoop greedy next states)
  kept _ _ _ := h.kept_addLoop
  ends hhas _ _ _ _ hstep hend := h.ends_fork hhas (h.split_loop hhas).2 hstep hend
  of_ends hhas _ _ _ hend := h.fork_of_ends hhas (h.split_loop hhas).2 hend

/-- No step or more: from a fork in front of a loop. -/
theorem Means.forkBefore (h : Means text add step) (greedy : Bool) :
    Means text (fun next states => addState (ways greedy (addLoop add greedy next states).1 next) (addLoop add greedy next states).2.2)
      (fun a b => ∃ n, Times step n a b) where
  size_le next states := (h.loop greedy).size_le_addState _ next states
  kept _ _ _ := (h.loop greedy).kept_addState
  ends hhas _ _ _ _ hstep hend :=
    have ⟨hloop, hfork⟩ := hhas.of_addState ((h.loop greedy).size_le _ _)
    h.ends_fork hloop hfork hstep hend
  of_ends hhas _ _ _ hend :=
    have ⟨hloop, hfork⟩ := hhas.of_addState ((h.loop greedy).size_le _ _)
    h.fork_of_ends hloop hfork hend

/-! ### Bounds -/

/-- Some steps, and then at most so many. -/
theorem times_upTo_iff {least most : Nat} {a b : Place} :
    (∃ middle, Times step least a middle ∧ ∃ i ≤ most - least, Times step i middle b) ↔
      ∃ n, least ≤ n ∧ n ≤ max least most ∧ Times step n a b := by
  constructor
  · rintro ⟨middle, hfirst, i, hi, hlast⟩
    exact ⟨least + i, by omega, by omega, times_add.2 ⟨middle, hfirst, hlast⟩⟩
  · rintro ⟨n, hleast, hmost, htimes⟩
    obtain ⟨i, rfl⟩ := Nat.exists_eq_add_of_le hleast
    obtain ⟨middle, hfirst, hlast⟩ := times_add.1 htimes
    exact ⟨middle, hfirst, i, by omega, hlast⟩

/-- Some steps, and then one or more. -/
theorem times_more_iff {least : Nat} {a b : Place} :
    (∃ middle, Times step least a middle ∧ ∃ i, Times step (i + 1) middle b) ↔ ∃ n, least + 1 ≤ n ∧ Times step n a b := by
  constructor
  · rintro ⟨middle, hfirst, i, hlast⟩
    exact ⟨least + (i + 1), by omega, times_add.2 ⟨middle, hfirst, hlast⟩⟩
  · rintro ⟨n, hleast, htimes⟩
    obtain ⟨i, rfl⟩ := Nat.exists_eq_add_of_le hleast
    rw [Nat.add_assoc, Nat.add_comm 1 i] at htimes
    obtain ⟨middle, hfirst, hlast⟩ := times_add.1 htimes
    exact ⟨middle, hfirst, i, hlast⟩

theorem Means.repeated (h : Means text add step) (takesSome : Bool) (least : Nat) (most : Option Nat) (greedy : Bool) :
    Means text (addRepeated add takesSome least most greedy)
      (fun a b => ∃ n, least ≤ n ∧ (∀ m ∈ most, n ≤ max least m) ∧ Times step n a b) := by
  cases most with
  | some most =>
    refine ((h.copies least).comp (h.optional greedy (most - least))).congr fun a b => ?_
    rw [times_upTo_iff]
    simp
  | none =>
    cases least with
    | zero =>
      cases takesSome with
      | true => exact (h.fork greedy).congr fun a b => by simp
      | false => exact (h.forkBefore greedy).congr fun a b => by simp
    | succ n =>
      refine ((h.copies n).comp (h.loop greedy)).congr fun a b => ?_
      rw [times_more_iff]
      simp

/-! ## Expressions -/

/-- **The states of an expression mean what it matches.** -/
theorem means_add : ∀ expression : Expression, Means text expression.add (expression.Matches text)
  | empty => means_none
  | literal t => means_literal t
  | one set => means_take set
  | look l => means_check l
  | group index inner => means_group index (means_add inner)
  | .repeated inner least most greedy => (means_add inner).repeated inner.takesSome least most greedy
  | row former latter => (means_add former).comp (means_add latter)
  | choice former latter => (means_add former).either (means_add latter)

/-- **The automaton of an expression ends just where the expression matches to.** -/
theorem ends_automaton_iff (expression : Expression) {a stop : Place} :
    (∃ count, Ends expression.automaton text stop count expression.automaton.start a) ↔ expression.Matches text a stop := by
  have hmeans : Means text expression.add (expression.Matches text) := means_add expression
  have hhas : Has expression.automaton #[.done] (expression.add 0 #[.done]).2 := fun _ _ _ => rfl
  have hdone : expression.automaton.states[0]? = some .done := hmeans.kept 0 #[.done] 0 (by decide)
  constructor
  · rintro ⟨count, hend⟩
    obtain ⟨b, hmatches, less, -, hrest⟩ := hmeans.of_ends hhas hend
    obtain rfl := (ends_done_iff hdone).1 ⟨less, hrest⟩
    exact hmatches
  · intro hmatches
    exact hmeans.ends hhas hmatches (.done hdone)

end Expression
end DtsBundle
