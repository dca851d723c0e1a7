import DtsBundle.Proofs.Expression.Building
import Mathlib.Algebra.BigOperators.Fin
import Mathlib.Algebra.Order.BigOperators.Group.Finset
/-!
# What a search finds

A search keeps no more than the most preferred thread of each state.  So **what it finds is a match** of the expression
(`exists_matches_of_search?`), and **it finds one where there is one** (`search?_isSome_iff`).

The first says of every thread that wherever it ends, one that has just started would end too.  The second says of every
state that was entered at a place: if a thread can end from there, then one that waits can, after no more steps, or one
that is still to be followed can, after fewer (`Covered`); so dropping a thread whose state was entered loses nothing.  Each
way out of a state is followed once at most, which is why the steps of a search are enough.
-/
namespace DtsBundle

open Expression (Place)

namespace Automaton

variable {automaton : Automaton} {text : Text} {place : Nat}

/-! ## Following a thread -/

/-- The threads that follow one that neither waits nor is done. -/
def follows (automaton : Automaton) (text : Text) (place : Nat) (thread : Thread) : List Thread :=
  match automaton.states.getD thread.state (.choose []) with
  | .check look next =>
    if look.holds (text.take place).getLast? (text.drop place).head? then [⟨next, thread.marks⟩] else []
  | .mark slot next => [⟨next, (slot, place) :: thread.marks⟩]
  | .choose nexts => nexts.map (⟨·, thread.marks⟩)
  | _ => []

/-- The threads of a text at a place, followed. -/
def settleAt (automaton : Automaton) (text : Text) (place : Nat) : Nat → List Thread → List Thread → Array Nat → Settled :=
  automaton.settle (text.take place).getLast? (text.drop place).head? place

section Steps

variable {fuel : Nat} {thread : Thread} {threads waiting : List Thread} {entered : Array Nat}

theorem settleAt_entered (h : entered.getD thread.state 0 = place + 1) :
    automaton.settleAt text place (fuel + 1) (thread :: threads) waiting entered =
      automaton.settleAt text place fuel threads waiting entered := by
  rw [settleAt, settle, if_pos h]

/-- What becomes of a thread whose state was not entered yet. -/
theorem settleAt_fresh (h : ¬ entered.getD thread.state 0 = place + 1) :
    (∃ set next, automaton.states[thread.state]? = some (.take set next) ∧
      automaton.settleAt text place (fuel + 1) (thread :: threads) waiting entered =
        automaton.settleAt text place fuel threads (thread :: waiting) (entered.setIfInBounds thread.state (place + 1))) ∨
    (automaton.states[thread.state]? = some .done ∧
      automaton.settleAt text place (fuel + 1) (thread :: threads) waiting entered =
        ⟨waiting.reverse, some thread.marks, entered.setIfInBounds thread.state (place + 1)⟩) ∨
    ((∀ set next, automaton.states[thread.state]? ≠ some (.take set next)) ∧ automaton.states[thread.state]? ≠ some .done ∧
      automaton.settleAt text place (fuel + 1) (thread :: threads) waiting entered =
        automaton.settleAt text place fuel (automaton.follows text place thread ++ threads) waiting
          (entered.setIfInBounds thread.state (place + 1))) := by
  rw [settleAt, settle, if_neg h]
  simp only [follows, Array.getD_eq_getD_getElem?]
  cases automaton.states[thread.state]? with
  | none => exact .inr (.inr ⟨nofun, nofun, rfl⟩)
  | some state =>
    cases state with
    | take set next => exact .inl ⟨set, next, rfl, rfl⟩
    | done => exact .inr (.inl ⟨rfl, rfl⟩)
    | check look next =>
      refine .inr (.inr ⟨nofun, nofun, ?_⟩)
      simp only [Option.getD_some]
      split <;> rfl
    | mark slot next => exact .inr (.inr ⟨nofun, nofun, rfl⟩)
    | choose nexts => exact .inr (.inr ⟨nofun, nofun, rfl⟩)

end Steps

/-- Where a thread leads is told by its state. -/
theorem leads_of_mem_follows {thread next : Thread} (h : next ∈ automaton.follows text place thread) :
    ∃ state, automaton.states[thread.state]? = some state ∧
      state.Leads text ⟨place, thread.marks⟩ next.state ⟨place, next.marks⟩ := by
  rw [follows, Array.getD_eq_getD_getElem?] at h
  cases hstate : automaton.states[thread.state]? with
  | none =>
    rw [hstate] at h
    cases h
  | some state =>
    rw [hstate, Option.getD_some] at h
    refine ⟨state, rfl, ?_⟩
    cases state with
    | take set next => cases h
    | done => cases h
    | check look next =>
      simp only at h
      split at h
      · rename_i hholds
        obtain rfl := List.mem_singleton.1 h
        exact ⟨rfl, hholds, rfl⟩
      · cases h
    | mark slot next =>
      obtain rfl := List.mem_singleton.1 h
      exact ⟨rfl, rfl⟩
    | choose nexts =>
      obtain ⟨s, hm, rfl⟩ := List.mem_map.1 h
      exact ⟨hm, rfl⟩

/-! ## Nothing else is found -/

/-- Wherever a thread can end, one that has just started could end. -/
def Sound (automaton : Automaton) (text : Text) (place : Nat) (thread : Thread) : Prop :=
  ∀ stop count, Ends automaton text stop count thread.state ⟨place, thread.marks⟩ →
    ∃ i ≤ text.length, ∃ count, Ends automaton text stop count automaton.start ⟨i, []⟩

/-- Marks that one which has just started could end with. -/
def SoundMarks (automaton : Automaton) (text : Text) (marks : List (Nat × Nat)) : Prop :=
  ∃ i ≤ text.length, ∃ index count, Ends automaton text ⟨index, marks⟩ count automaton.start ⟨i, []⟩

theorem sound_start (h : place ≤ text.length) : Sound automaton text place ⟨automaton.start, []⟩ :=
  fun _ count hend => ⟨place, h, count, hend⟩

theorem Sound.of_leads {thread next : Thread} {state : State} {index : Nat} (h : Sound automaton text place thread)
    (hstate : automaton.states[thread.state]? = some state)
    (hleads : state.Leads text ⟨place, thread.marks⟩ next.state ⟨index, next.marks⟩) : Sound automaton text index next :=
  fun stop _ hend => h stop _ (.step hstate hleads hend)

theorem sound_settleAt {fuel : Nat} : ∀ {threads waiting : List Thread} {entered : Array Nat},
    (∀ thread ∈ threads, Sound automaton text place thread) → (∀ thread ∈ waiting, Sound automaton text place thread) →
      (∀ thread ∈ (automaton.settleAt text place fuel threads waiting entered).waiting, Sound automaton text place thread) ∧
        ∀ marks ∈ (automaton.settleAt text place fuel threads waiting entered).found, SoundMarks automaton text marks := by
  induction fuel with
  | zero => 
    intro threads waiting entered _ hwaiting
    exact ⟨fun thread hm => hwaiting thread (List.mem_reverse.1 hm), fun _ hm => by cases hm⟩
  | succ fuel ih =>
    intro threads waiting entered hthreads hwaiting
    cases threads with
    | nil => exact ⟨fun thread hm => hwaiting thread (List.mem_reverse.1 hm), fun _ hm => by cases hm⟩
    | cons thread threads =>
      obtain ⟨hthread, hrest⟩ := List.forall_mem_cons.1 hthreads
      by_cases hentered : entered.getD thread.state 0 = place + 1
      · rw [settleAt_entered hentered]
        exact ih hrest hwaiting
      · rcases automaton.settleAt_fresh hentered with ⟨set, next, -, heq⟩ | ⟨hdone, heq⟩ | ⟨-, -, heq⟩
        · rw [heq]
          exact ih hrest (List.forall_mem_cons.2 ⟨hthread, hwaiting⟩)
        · rw [heq]
          refine ⟨fun other hm => hwaiting other (List.mem_reverse.1 hm), fun marks hm => ?_⟩
          obtain rfl := Option.some.inj hm
          obtain ⟨i, hi, count, hend⟩ := hthread _ _ (.done hdone)
          exact ⟨i, hi, place, count, hend⟩
        · rw [heq]
          refine ih (fun next hm => ?_) hwaiting
          rcases List.mem_append.1 hm with hnext | hother
          · obtain ⟨state, hstate, hleads⟩ := leads_of_mem_follows hnext
            exact hthread.of_leads hstate hleads
          · exact hrest next hother

/-! ## Everything is found -/

/-- A thread in a state at a place can end after so many steps, with some marks. -/
def Lives (automaton : Automaton) (text : Text) (place count s : Nat) : Prop :=
  ∃ marks stop, Ends automaton text stop count s ⟨place, marks⟩

theorem Lives.step {count s : Nat} {state : State} (h : Lives automaton text place count s)
    (hstate : automaton.states[s]? = some state) (hdone : state ≠ .done) :
    ∃ less next marks b, count = less + 1 ∧ state.Leads text ⟨place, marks⟩ next b ∧ Lives automaton text b.index less next := by
  obtain ⟨marks, stop, hend⟩ := h
  obtain ⟨less, next, b, hcount, hleads, hrest⟩ := (ends_iff hstate hdone).1 hend
  exact ⟨less, next, marks, b, hcount, hleads, b.marks, stop, hrest⟩

theorem Lives.exists_state {count s : Nat} (h : Lives automaton text place count s) :
    ∃ state, automaton.states[s]? = some state := by
  obtain ⟨marks, stop, hend⟩ := h
  cases hend with
  | done hstate => exact ⟨_, hstate⟩
  | step hstate => exact ⟨_, hstate⟩

/-- One of the threads that follow lives, after fewer steps. -/
theorem Lives.exists_follows {thread : Thread} {count : Nat} (h : Lives automaton text place count thread.state)
    (htake : ∀ set next, automaton.states[thread.state]? ≠ some (.take set next))
    (hdone : automaton.states[thread.state]? ≠ some .done) :
    ∃ next ∈ automaton.follows text place thread, ∃ less < count, Lives automaton text place less next.state := by
  obtain ⟨state, hstate⟩ := h.exists_state
  rw [hstate] at htake hdone
  obtain ⟨less, next, marks, b, rfl, hleads, hrest⟩ := h.step hstate fun heq => hdone (congrArg some heq)
  rw [follows, Array.getD_eq_getD_getElem?, hstate, Option.getD_some]
  cases state with
  | take set next => exact absurd rfl (htake set next)
  | done => exact absurd rfl hdone
  | check look next =>
    obtain ⟨rfl, hholds, rfl⟩ := hleads
    have hholds : look.holds (text.take place).getLast? (text.drop place).head? = true := hholds
    refine ⟨⟨next, thread.marks⟩, ?_, less, Nat.lt_succ_self less, hrest⟩
    simp only [hholds, if_true, List.mem_singleton]
  | mark slot next =>
    obtain ⟨rfl, rfl⟩ := hleads
    exact ⟨_, List.mem_singleton_self _, less, Nat.lt_succ_self less, hrest⟩
  | choose nexts =>
    obtain ⟨hm, rfl⟩ := hleads
    exact ⟨_, List.mem_map_of_mem hm, less, Nat.lt_succ_self less, hrest⟩

/-- A thread that waits can end after no more than so many steps, or one that is still to be followed after fewer. -/
def Reaches (automaton : Automaton) (text : Text) (place count : Nat) (threads waiting : List Thread) : Prop :=
  (∃ thread ∈ waiting, ∃ less ≤ count, Lives automaton text place less thread.state) ∨
    ∃ thread ∈ threads, ∃ less < count, Lives automaton text place less thread.state

/-- Whatever can be done from a state that was entered here can be done without it. -/
def Covered (automaton : Automaton) (text : Text) (place : Nat) (threads waiting : List Thread) (entered : Array Nat) : Prop :=
  ∀ count s, entered.getD s 0 = place + 1 → Lives automaton text place count s →
    Reaches automaton text place count threads waiting

section Cover

variable {count : Nat} {thread : Thread} {threads threads' waiting waiting' : List Thread} {entered : Array Nat}

theorem Reaches.mono {more : Nat} (h : Reaches automaton text place count threads waiting) (hle : count ≤ more) :
    Reaches automaton text place more threads waiting := by
  rcases h with ⟨other, hm, less, hless, hlives⟩ | ⟨other, hm, less, hless, hlives⟩
  · exact .inl ⟨other, hm, less, Nat.le_trans hless hle, hlives⟩
  · exact .inr ⟨other, hm, less, Nat.lt_of_lt_of_le hless hle, hlives⟩

/-- What was reached by a thread is reached by what takes its place. -/
theorem Reaches.replace (h : Reaches automaton text place count (thread :: threads) waiting) (hwaiting : waiting ⊆ waiting')
    (hthreads : threads ⊆ threads')
    (hthread : ∀ less < count, Lives automaton text place less thread.state →
      Reaches automaton text place less threads' waiting') :
    Reaches automaton text place count threads' waiting' := by
  rcases h with ⟨other, hm, hlives⟩ | ⟨other, hm, less, hless, hlives⟩
  · exact .inl ⟨other, hwaiting hm, hlives⟩
  · rcases List.mem_cons.1 hm with rfl | hm
    · exact (hthread less hless hlives).mono (Nat.le_of_lt hless)
    · exact .inr ⟨other, hthreads hm, less, hless, hlives⟩

/-- Nothing is lost with a thread whose state was entered: the steps it needs get fewer until another is reached. -/
theorem Covered.drop (h : Covered automaton text place (thread :: threads) waiting entered)
    (hentered : entered.getD thread.state 0 = place + 1) : Covered automaton text place threads waiting entered := by
  intro count
  induction count using Nat.strongRecOn with
  | _ count ih =>
    intro s hs hlives
    exact (h count s hs hlives).replace (List.Subset.refl _) (List.Subset.refl _)
      fun less hless hthread => ih less hless thread.state hentered hthread

theorem getD_setIfInBounds {i s mark : Nat} (h : (entered.setIfInBounds i mark).getD s 0 = mark) :
    s = i ∨ entered.getD s 0 = mark := by
  by_cases hs : s = i
  · exact .inl hs
  · rw [Array.getD_eq_getD_getElem?, Array.getElem?_setIfInBounds_ne (Ne.symm hs), ← Array.getD_eq_getD_getElem?] at h
    exact .inr h

/-- A thread gives way to others that reach what it did. -/
theorem Covered.enter (h : Covered automaton text place (thread :: threads) waiting entered) (hwaiting : waiting ⊆ waiting')
    (hthreads : threads ⊆ threads')
    (hthread : ∀ count, Lives automaton text place count thread.state →
      Reaches automaton text place count threads' waiting') :
    Covered automaton text place threads' waiting' (entered.setIfInBounds thread.state (place + 1)) := by
  intro count s hs hlives
  rcases getD_setIfInBounds hs with rfl | hother
  · exact hthread count hlives
  · exact (h count s hother hlives).replace hwaiting hthreads fun less _ => hthread less

/-- One of the threads can end. -/
def Alive (automaton : Automaton) (text : Text) (place : Nat) (threads : List Thread) : Prop :=
  ∃ thread ∈ threads, ∃ count, Lives automaton text place count thread.state

theorem Reaches.alive (h : Reaches automaton text place count threads waiting) :
    Alive automaton text place (threads ++ waiting) := by
  rcases h with ⟨other, hm, less, -, hlives⟩ | ⟨other, hm, less, -, hlives⟩
  · exact ⟨other, List.mem_append_right _ hm, less, hlives⟩
  · exact ⟨other, List.mem_append_left _ hm, less, hlives⟩

theorem Alive.replace (h : Alive automaton text place ((thread :: threads) ++ waiting)) (hwaiting : waiting ⊆ waiting')
    (hthreads : threads ⊆ threads')
    (hthread : ∀ count, Lives automaton text place count thread.state →
      Reaches automaton text place count threads' waiting') :
    Alive automaton text place (threads' ++ waiting') := by
  obtain ⟨other, hm, count, hlives⟩ := h
  rcases List.mem_append.1 hm with hm | hm
  · rcases List.mem_cons.1 hm with rfl | hm
    · exact (hthread count hlives).alive
    · exact ⟨other, List.mem_append_left _ (hthreads hm), count, hlives⟩
  · exact ⟨other, List.mem_append_right _ (hwaiting hm), count, hlives⟩

end Cover

/-! ## Steps are enough -/

/-- The number of ways out of a state. -/
def outs : State → Nat
  | .choose nexts => nexts.length
  | _ => 1

/-- The weight of all states that were not entered at a place. -/
def unentered (automaton : Automaton) (weight : State → Nat) (entered : Array Nat) (mark : Nat) : Nat :=
  ∑ s ∈ Finset.range automaton.states.size,
    if entered.getD s 0 = mark then 0 else weight (automaton.states.getD s (.choose []))

section Count

variable {weight : State → Nat} {entered : Array Nat} {mark s : Nat} {thread : Thread}

theorem unentered_enter (hsize : entered.size = automaton.states.size) (hs : s < automaton.states.size)
    (hfresh : ¬ entered.getD s 0 = mark) :
    automaton.unentered weight entered mark =
      weight (automaton.states.getD s (.choose [])) + automaton.unentered weight (entered.setIfInBounds s mark) mark := by
  have hmark : (entered.setIfInBounds s mark).getD s 0 = mark := by
    rw [Array.getD_eq_getD_getElem?, Array.getElem?_setIfInBounds_self_of_lt (hsize ▸ hs), Option.getD_some]
  rw [unentered, unentered, ← Finset.add_sum_erase _ _ (Finset.mem_range.2 hs), if_neg hfresh,
    ← Finset.add_sum_erase _ (fun s => if (entered.setIfInBounds _ mark).getD s 0 = mark then 0 else _)
      (Finset.mem_range.2 hs), if_pos hmark, Nat.zero_add]
  refine congrArg _ (Finset.sum_congr rfl fun other hother => ?_)
  have hne : s ≠ other := (Finset.ne_of_mem_erase hother).symm
  simp only [Array.getD_eq_getD_getElem?, Array.getElem?_setIfInBounds_ne hne]

theorem unentered_enter_le (hsize : entered.size = automaton.states.size) (hfresh : ¬ entered.getD s 0 = mark) :
    automaton.unentered weight (entered.setIfInBounds s mark) mark ≤ automaton.unentered weight entered mark := by
  by_cases hs : s < automaton.states.size
  · rw [unentered_enter hsize hs hfresh]
    exact Nat.le_add_left _ _
  · rw [Array.setIfInBounds_eq_of_size_le (by omega)]

/-- Each way out of a state is followed once. -/
theorem length_follows_add_le (hsize : entered.size = automaton.states.size)
    (hfresh : ¬ entered.getD thread.state 0 = mark) :
    (automaton.follows text place thread).length +
        automaton.unentered outs (entered.setIfInBounds thread.state mark) mark ≤ automaton.unentered outs entered mark := by
  by_cases hs : thread.state < automaton.states.size
  · rw [unentered_enter hsize hs hfresh, follows]
    refine Nat.add_le_add_right ?_ _
    cases automaton.states.getD thread.state (.choose []) with
    | take set next => exact Nat.zero_le _
    | done => exact Nat.zero_le _
    | check look next =>
      simp only
      split
      · exact Nat.le_refl _
      · exact Nat.zero_le _
    | mark slot next => exact Nat.le_refl _
    | choose nexts => exact Nat.le_of_eq (List.length_map _)
  · rw [follows, Array.getD_eq_getD_getElem?, Array.getElem?_eq_none (by omega), Option.getD_none,
      Array.setIfInBounds_eq_of_size_le (by omega)]
    exact Nat.le_of_eq (Nat.zero_add _)

end Count

/-- **If a thread lives, then one is done or one that waits lives.** -/
theorem settleAt_alive {fuel : Nat} : ∀ {threads waiting : List Thread} {entered : Array Nat},
    entered.size = automaton.states.size → threads.length + automaton.unentered outs entered (place + 1) ≤ fuel →
      Covered automaton text place threads waiting entered → Alive automaton text place (threads ++ waiting) →
        (automaton.settleAt text place fuel threads waiting entered).found.isSome ∨
          Alive automaton text place (automaton.settleAt text place fuel threads waiting entered).waiting := by
  -- with no thread left the result is what waits
  have hrest : ∀ {waiting : List Thread}, Alive automaton text place ([] ++ waiting) →
      Alive automaton text place waiting.reverse :=
    fun ⟨thread, hm, hlives⟩ => ⟨thread, List.mem_reverse.2 hm, hlives⟩
  induction fuel with
  | zero =>
    intro threads waiting entered _ hfuel _ halive
    obtain rfl := List.length_eq_zero_iff.1 (by omega : threads.length = 0)
    exact .inr (hrest halive)
  | succ fuel ih =>
    intro threads waiting entered hsize hfuel hcovered halive
    cases threads with
    | nil => exact .inr (hrest halive)
    | cons thread threads =>
      rw [List.length_cons] at hfuel
      by_cases hentered : entered.getD thread.state 0 = place + 1
      · have hless := hcovered.drop hentered
        rw [settleAt_entered hentered]
        exact ih hsize (by omega) hless (halive.replace (List.Subset.refl _) (List.Subset.refl _)
          fun count => hless count thread.state hentered)
      · have hsize' : (entered.setIfInBounds thread.state (place + 1)).size = automaton.states.size := by
          rw [Array.size_setIfInBounds, hsize]
        rcases automaton.settleAt_fresh hentered with ⟨set, next, -, heq⟩ | ⟨-, heq⟩ | ⟨htake, hdone, heq⟩
        · have hthread : ∀ count, Lives automaton text place count thread.state →
              Reaches automaton text place count threads (thread :: waiting) :=
            fun count hlives => .inl ⟨thread, List.mem_cons_self, count, Nat.le_refl count, hlives⟩
          have hleft : automaton.unentered outs _ _ ≤ _ := unentered_enter_le hsize hentered
          rw [heq]
          exact ih hsize' (by omega) (hcovered.enter (List.subset_cons_self _ _) (List.Subset.refl _) hthread)
            (halive.replace (List.subset_cons_self _ _) (List.Subset.refl _) hthread)
        · rw [heq]
          exact .inl rfl
        · have hthread : ∀ count, Lives automaton text place count thread.state →
              Reaches automaton text place count (automaton.follows text place thread ++ threads) waiting := by
            intro count hlives
            obtain ⟨next, hm, less, hless, hnext⟩ := hlives.exists_follows htake hdone
            exact .inr ⟨next, List.mem_append_left _ hm, less, hless, hnext⟩
          have hleft : (automaton.follows text place thread).length + _ ≤ _ := length_follows_add_le hsize hentered
          rw [heq]
          refine ih hsize' ?_ (hcovered.enter (List.Subset.refl _) (List.subset_append_right _ _) hthread)
            (halive.replace (List.Subset.refl _) (List.subset_append_right _ _) hthread)
          rw [List.length_append]
          omega

/-! ## From place to place -/

/-- What holds at a place of the threads that wait and of the states that were entered. -/
structure Kept (automaton : Automaton) (place : Nat) (waiting : List Thread) (entered : Array Nat) : Prop where
  size : entered.size = automaton.states.size
  entered_le : ∀ s, entered.getD s 0 ≤ place + 1
  takes : ∀ thread ∈ waiting, ∃ set next, automaton.states[thread.state]? = some (.take set next)
  count : waiting.length + automaton.unentered (fun _ => 1) entered (place + 1) ≤ automaton.states.size

section Kept

variable {thread : Thread} {waiting : List Thread} {entered : Array Nat}

theorem Kept.reverse (h : Kept automaton place waiting entered) : Kept automaton place waiting.reverse entered :=
  ⟨h.size, h.entered_le, fun thread hm => h.takes thread (List.mem_reverse.1 hm), by rw [List.length_reverse]; exact h.count⟩

theorem Kept.entered_enter_le (h : Kept automaton place waiting entered) (i s : Nat) :
    (entered.setIfInBounds i (place + 1)).getD s 0 ≤ place + 1 := by
  by_cases hi : i = s
  · subst hi
    rw [Array.getD_eq_getD_getElem?, Array.getElem?_setIfInBounds_self]
    split
    · exact Nat.le_refl _
    · exact Nat.zero_le _
  · rw [Array.getD_eq_getD_getElem?, Array.getElem?_setIfInBounds_ne hi, ← Array.getD_eq_getD_getElem?]
    exact h.entered_le s

theorem Kept.enter (h : Kept automaton place waiting entered) {s : Nat} (hfresh : ¬ entered.getD s 0 = place + 1) :
    Kept automaton place waiting (entered.setIfInBounds s (place + 1)) where
  size := by rw [Array.size_setIfInBounds, h.size]
  entered_le := h.entered_enter_le s
  takes := h.takes
  count := Nat.le_trans (Nat.add_le_add_left (unentered_enter_le h.size hfresh) _) h.count

/-- A thread that waits is counted by its state. -/
theorem Kept.wait (h : Kept automaton place waiting entered) {set : CharSet} {next : Nat}
    (hstate : automaton.states[thread.state]? = some (.take set next)) (hfresh : ¬ entered.getD thread.state 0 = place + 1) :
    Kept automaton place (thread :: waiting) (entered.setIfInBounds thread.state (place + 1)) where
  size := by rw [Array.size_setIfInBounds, h.size]
  entered_le := h.entered_enter_le thread.state
  takes := List.forall_mem_cons.2 ⟨⟨set, next, hstate⟩, h.takes⟩
  count := by
    obtain ⟨hs, -⟩ := Array.getElem?_eq_some_iff.1 hstate
    have hcount := h.count
    rw [unentered_enter h.size hs hfresh] at hcount
    rw [List.length_cons]
    omega

end Kept

theorem kept_settleAt {fuel : Nat} : ∀ {threads waiting : List Thread} {entered : Array Nat},
    Kept automaton place waiting entered →
      Kept automaton place (automaton.settleAt text place fuel threads waiting entered).waiting
        (automaton.settleAt text place fuel threads waiting entered).entered := by
  induction fuel with
  | zero => exact fun h => h.reverse
  | succ fuel ih =>
    intro threads waiting entered h
    cases threads with
    | nil => exact h.reverse
    | cons thread threads =>
      by_cases hentered : entered.getD thread.state 0 = place + 1
      · rw [settleAt_entered hentered]
        exact ih h
      · rcases automaton.settleAt_fresh hentered with ⟨set, next, hstate, heq⟩ | ⟨-, heq⟩ | ⟨-, -, heq⟩
        · rw [heq]
          exact ih (h.wait hstate hentered)
        · rw [heq]
          exact (h.enter hentered).reverse
        · rw [heq]
          exact ih (h.enter hentered)

theorem sum_range_getD (f : State → Nat) (d : State) :
    ∀ states : List State, ∑ s ∈ Finset.range states.length, f (states.getD s d) = (states.map f).sum
  | [] => rfl
  | state :: states => by
    rw [List.length_cons, Finset.sum_range_succ', List.map_cons, List.sum_cons, Nat.add_comm]
    exact congrArg (f state + ·) (sum_range_getD f d states)

/-- The ways out of all states, by the number of a state. -/
theorem edges_eq (automaton : Automaton) :
    automaton.edges = ∑ s ∈ Finset.range automaton.states.size, outs (automaton.states.getD s (.choose [])) := by
  have hedges : automaton.edges = automaton.states.toList.foldl (fun n state => n + outs state) 0 := by
    rw [Array.foldl_toList, edges]
    congr
  have hsum := sum_range_getD outs (.choose []) automaton.states.toList
  rw [List.sum_eq_foldl, List.foldl_map, ← hedges] at hsum
  rw [← hsum, Array.length_toList]
  simp only [Array.getD_eq_getD_getElem?, List.getD_eq_getElem?_getD, Array.getElem?_toList]

theorem unentered_outs_le (entered : Array Nat) (mark : Nat) : automaton.unentered outs entered mark ≤ automaton.edges := by
  rw [edges_eq]
  refine Finset.sum_le_sum fun s _ => ?_
  split
  · exact Nat.zero_le _
  · exact Nat.le_refl _

theorem unentered_one_le (entered : Array Nat) (mark : Nat) :
    automaton.unentered (fun _ => 1) entered mark ≤ automaton.states.size := by
  have hall : ∑ s ∈ Finset.range automaton.states.size, 1 = automaton.states.size := by simp
  refine Nat.le_trans (Finset.sum_le_sum fun s _ => ?_) (Nat.le_of_eq hall)
  split
  · exact Nat.zero_le _
  · exact Nat.le_refl _

/-- What holds between two places of the threads there and of the states that were entered before. -/
structure Ready (automaton : Automaton) (place : Nat) (threads : List Thread) (entered : Array Nat) : Prop where
  size : entered.size = automaton.states.size
  entered_le : ∀ s, entered.getD s 0 ≤ place
  length : threads.length ≤ automaton.states.size

/-- The threads at a place, with the one that starts there if nothing was found before. -/
def started (automaton : Automaton) (threads : List Thread) (found : Option (List (Nat × Nat))) : List Thread :=
  if found.isNone then threads ++ [⟨automaton.start, []⟩] else threads

/-- The steps that are enough at one place. -/
def room (automaton : Automaton) : Nat :=
  automaton.edges + automaton.states.size + 2

/-- The threads at a place, followed to the end. -/
def settled (automaton : Automaton) (text : Text) (place : Nat) (threads : List Thread)
    (found : Option (List (Nat × Nat))) (entered : Array Nat) : Settled :=
  automaton.settleAt text place automaton.room (automaton.started threads found) [] entered

/-- The search from a place in a text on. -/
def searchAt (automaton : Automaton) (text : Text) (place : Nat) (threads : List Thread)
    (found : Option (List (Nat × Nat))) (entered : Array Nat) : Option (List (Nat × Nat)) :=
  automaton.searchFrom automaton.room (text.take place).getLast? place threads found entered (text.drop place)

section Search

variable {threads : List Thread} {found : Option (List (Nat × Nat))} {entered : Array Nat} {c : Char} {rest : Text}

theorem searchAt_end (h : text.drop place = []) :
    automaton.searchAt text place threads found entered =
      ((automaton.settled text place threads found entered).found <|> found) := by
  rw [searchAt, settled, settleAt, h, searchFrom]
  rfl

theorem getLast?_take_succ (h : text.drop place = c :: rest) : (text.take (place + 1)).getLast? = some c := by
  have hget : text[place]? = some c := by
    rw [← List.head?_drop, h]
    rfl
  rw [List.take_add_one, hget]
  exact List.getLast?_concat

theorem drop_succ (h : text.drop place = c :: rest) : text.drop (place + 1) = rest := by
  rw [← List.tail_drop, h]
  rfl

theorem searchAt_next (h : text.drop place = c :: rest) :
    automaton.searchAt text place threads found entered =
      if (automaton.started threads found).isEmpty then found
      else
        let settled := automaton.settled text place threads found entered
        automaton.searchAt text (place + 1) (settled.waiting.filterMap (automaton.advance? c)) (settled.found <|> found)
          settled.entered := by
  rw [searchAt, h, searchFrom, searchAt, drop_succ h, getLast?_take_succ h, settled, settleAt, h]
  rfl

theorem advance?_eq_some_iff {thread next : Thread} :
    automaton.advance? c thread = some next ↔
      ∃ set, automaton.states[thread.state]? = some (.take set next.state) ∧ set.has c = true ∧ thread.marks = next.marks := by
  unfold advance?
  split
  · rename_i set s hstate
    rw [hstate]
    split
    · rename_i hhas
      constructor
      · intro h
        obtain rfl := Option.some.inj h
        exact ⟨set, rfl, hhas, rfl⟩
      · rintro ⟨other, hother, -, hmarks⟩
        obtain ⟨-, rfl⟩ := State.take.inj (Option.some.inj hother)
        rw [hmarks]
    · rename_i hhas
      refine ⟨nofun, fun ⟨other, hother, hhas', _⟩ => ?_⟩
      obtain ⟨rfl, -⟩ := State.take.inj (Option.some.inj hother)
      exact absurd hhas' hhas
  · rename_i hnot
    exact ⟨nofun, fun ⟨set, hstate, _⟩ => absurd hstate (hnot set next.state)⟩

/-- A thread that waits and could end goes on behind the character. -/
theorem Lives.exists_advance {thread : Thread} {count : Nat} (h : Lives automaton text place count thread.state)
    (htake : ∃ set next, automaton.states[thread.state]? = some (.take set next)) :
    ∃ c, (text.drop place).head? = some c ∧ ∃ next, automaton.advance? c thread = some next ∧
      ∃ less, Lives automaton text (place + 1) less next.state := by
  obtain ⟨set, next, hstate⟩ := htake
  obtain ⟨less, s, marks, b, -, ⟨rfl, c, hc, hhas, rfl⟩, hrest⟩ := h.step hstate nofun
  exact ⟨c, hc, ⟨s, thread.marks⟩, advance?_eq_some_iff.2 ⟨set, hstate, hhas, rfl⟩, less, hrest⟩

theorem sound_started (hplace : place ≤ text.length) (h : ∀ thread ∈ threads, Sound automaton text place thread) :
    ∀ thread ∈ automaton.started threads found, Sound automaton text place thread := by
  intro thread hm
  unfold started at hm
  split at hm
  · rcases List.mem_append.1 hm with hm | hm
    · exact h thread hm
    · obtain rfl := List.mem_singleton.1 hm
      exact sound_start hplace
  · exact h thread hm

theorem Sound.advance {thread next : Thread} (h : Sound automaton text place thread) (hc : (text.drop place).head? = some c)
    (hnext : automaton.advance? c thread = some next) : Sound automaton text (place + 1) next := by
  obtain ⟨set, hstate, hhas, hmarks⟩ := advance?_eq_some_iff.1 hnext
  refine h.of_leads hstate ⟨rfl, c, hc, hhas, ?_⟩
  rw [Place.past, hmarks]

theorem sound_settled (found : Option (List (Nat × Nat))) (entered : Array Nat) (hplace : place ≤ text.length)
    (h : ∀ thread ∈ threads, Sound automaton text place thread) :
    (∀ thread ∈ (automaton.settled text place threads found entered).waiting, Sound automaton text place thread) ∧
      ∀ marks ∈ (automaton.settled text place threads found entered).found, SoundMarks automaton text marks :=
  sound_settleAt (sound_started hplace h) (List.forall_mem_nil _)

theorem lt_length_of_drop (h : text.drop place = c :: rest) : place < text.length := by
  have hlength := congrArg List.length h
  rw [List.length_drop, List.length_cons] at hlength
  omega

/-- **A search from any place on finds only what one that has just started could end with.** -/
theorem sound_searchAt : ∀ {rest : Text} {place : Nat} {threads : List Thread} {found : Option (List (Nat × Nat))}
    {entered : Array Nat}, text.drop place = rest → place ≤ text.length →
      (∀ thread ∈ threads, Sound automaton text place thread) → (∀ marks ∈ found, SoundMarks automaton text marks) →
        ∀ marks ∈ automaton.searchAt text place threads found entered, SoundMarks automaton text marks := by
  intro rest
  induction rest with
  | nil =>
    intro place threads found entered hrest hplace hthreads hfound marks hm
    rw [searchAt_end hrest] at hm
    rcases (Option.orElse_eq_some _ _ _).1 hm with hnow | ⟨-, hbefore⟩
    · exact (sound_settled found entered hplace hthreads).2 marks hnow
    · exact hfound marks hbefore
  | cons c rest ih =>
    intro place threads found entered hrest hplace hthreads hfound marks hm
    have hsettled := sound_settled found entered hplace hthreads
    rw [searchAt_next hrest] at hm
    split at hm
    · exact hfound marks hm
    · refine ih (drop_succ hrest) (lt_length_of_drop hrest) (fun next hnext => ?_) (fun other hother => ?_) marks hm
      · obtain ⟨thread, hthread, hadvance⟩ := List.mem_filterMap.1 hnext
        exact (hsettled.1 thread hthread).advance (by rw [hrest]; rfl) hadvance
      · rcases (Option.orElse_eq_some _ _ _).1 hother with hother | ⟨-, hother⟩
        · exact hsettled.2 other hother
        · exact hfound other hother

theorem Ready.settled (h : Ready automaton place threads entered) :
    Kept automaton place (automaton.settled text place threads found entered).waiting
      (automaton.settled text place threads found entered).entered :=
  kept_settleAt ⟨h.size, fun s => Nat.le_succ_of_le (h.entered_le s), List.forall_mem_nil _,
    Nat.le_trans (Nat.le_of_eq (Nat.zero_add _)) (unentered_one_le entered (place + 1))⟩

theorem Ready.next (h : Ready automaton place threads entered) (c : Char) :
    Ready automaton (place + 1) ((automaton.settled text place threads found entered).waiting.filterMap (automaton.advance? c))
      (automaton.settled text place threads found entered).entered where
  size := h.settled.size
  entered_le := h.settled.entered_le
  length := Nat.le_trans (List.length_filterMap_le _ _) (Nat.le_trans (Nat.le_add_right _ _) h.settled.count)

/-- At a new place no state was entered, and the steps are enough. -/
theorem Ready.settled_alive (h : Ready automaton place threads entered)
    (halive : Alive automaton text place (automaton.started threads found)) :
    (automaton.settled text place threads found entered).found.isSome ∨
      Alive automaton text place (automaton.settled text place threads found entered).waiting := by
  refine settleAt_alive h.size ?_ (fun count s hs => ?_) (by rwa [List.append_nil])
  · have hlength : (automaton.started threads found).length ≤ threads.length + 1 := by
      unfold started
      split
      · exact Nat.le_of_eq List.length_append
      · exact Nat.le_succ _
    have hleft : automaton.unentered outs entered (place + 1) ≤ automaton.edges := unentered_outs_le entered (place + 1)
    have hsize := h.length
    rw [room]
    omega
  · have := h.entered_le s
    omega

theorem searchAt_isSome_of_found : ∀ {rest : Text} {place : Nat} {threads : List Thread}
    {found : Option (List (Nat × Nat))} {entered : Array Nat}, text.drop place = rest → found.isSome →
      (automaton.searchAt text place threads found entered).isSome := by
  intro rest
  induction rest with
  | nil =>
    intro place threads found entered hrest hfound
    rw [searchAt_end hrest]
    simp [hfound]
  | cons c rest ih =>
    intro place threads found entered hrest hfound
    rw [searchAt_next hrest]
    split
    · exact hfound
    · exact ih (drop_succ hrest) (by simp [hfound])

/-- **A search finds something if a thread lives or one that starts later would.** -/
theorem searchAt_isSome : ∀ {rest : Text} {place : Nat} {threads : List Thread} {entered : Array Nat},
    text.drop place = rest → Ready automaton place threads entered →
      (Alive automaton text place threads ∨
        ∃ i, place ≤ i ∧ i ≤ text.length ∧ ∃ count, Lives automaton text i count automaton.start) →
      (automaton.searchAt text place threads none entered).isSome := by
  intro rest
  induction rest with
  | nil =>
    intro place threads entered hrest hready halive
    have hnow : Alive automaton text place (automaton.started threads none) := by
      rcases halive with ⟨thread, hm, hlives⟩ | ⟨i, hi, hlength, hlives⟩
      · exact ⟨thread, List.mem_append_left _ hm, hlives⟩
      · have := List.drop_eq_nil_iff.1 hrest
        obtain rfl : i = place := by omega
        exact ⟨_, List.mem_append_right _ (List.mem_singleton_self _), hlives⟩
    rw [searchAt_end hrest]
    rcases hready.settled_alive hnow with hfound | ⟨thread, hm, count, hlives⟩
    · simp [hfound]
    · obtain ⟨c, hc, -⟩ := hlives.exists_advance (hready.settled.takes thread hm)
      rw [hrest] at hc
      cases hc
  | cons c rest ih =>
    intro place threads entered hrest hready halive
    rw [searchAt_next hrest, if_neg (by simp [started])]
    by_cases hfound : (automaton.settled text place threads none entered).found.isSome
    · exact searchAt_isSome_of_found (drop_succ hrest) (by simp [hfound])
    · have hnone : ((automaton.settled text place threads none entered).found <|> none) = none := by
        simpa using hfound
      -- behind the character one lives that lived in front of it, or one that starts later would
      have hlater : (∃ i, place + 1 ≤ i ∧ i ≤ text.length ∧ ∃ count, Lives automaton text i count automaton.start) ∨
          Alive automaton text place (automaton.started threads none) := by
        rcases halive with ⟨thread, hm, hlives⟩ | ⟨i, hi, hlength, hlives⟩
        · exact .inr ⟨thread, List.mem_append_left _ hm, hlives⟩
        · rcases Nat.lt_or_eq_of_le hi with hi | rfl
          · exact .inl ⟨i, hi, hlength, hlives⟩
          · exact .inr ⟨_, List.mem_append_right _ (List.mem_singleton_self _), hlives⟩
      simp only [hnone]
      refine ih (drop_succ hrest) (hready.next c) ?_
      rcases hlater with hlater | hnow
      · exact .inr hlater
      · obtain ⟨thread, hm, count, hlives⟩ := (hready.settled_alive hnow).resolve_left hfound
        obtain ⟨d, hd, next, hadvance, less, hnext⟩ := hlives.exists_advance (hready.settled.takes thread hm)
        rw [hrest] at hd
        obtain rfl := Option.some.inj hd
        exact .inl ⟨next, List.mem_filterMap.2 ⟨thread, hm, hadvance⟩, less, hnext⟩

end Search

/-! ## Searching a text -/

theorem search?_eq (automaton : Automaton) (text : Text) :
    automaton.search? text =
      (automaton.searchAt text 0 [] none (Array.replicate automaton.states.size 0)).map (⟨text, ·⟩) :=
  rfl

theorem ready_start (automaton : Automaton) : Ready automaton 0 [] (Array.replicate automaton.states.size 0) where
  size := Array.size_replicate
  entered_le s := by
    rw [Array.getD_eq_getD_getElem?, Array.getElem?_replicate]
    split <;> rfl
  length := Nat.zero_le _

/-- **What a search finds is where a thread that starts somewhere ends.** -/
theorem exists_ends_of_search? {found : Match} (h : automaton.search? text = some found) :
    found.text = text ∧ ∃ i ≤ text.length, ∃ index count,
      Ends automaton text ⟨index, found.marks⟩ count automaton.start ⟨i, []⟩ := by
  rw [search?_eq] at h
  obtain ⟨marks, hmarks, rfl⟩ := Option.map_eq_some_iff.1 h
  exact ⟨rfl, sound_searchAt rfl (Nat.zero_le _) (List.forall_mem_nil _) (fun _ hm => by cases hm) marks hmarks⟩

/-- **A search finds something where a thread that starts somewhere ends.** -/
theorem search?_isSome_of_ends {stop : Place} {i count : Nat} (hi : i ≤ text.length)
    (h : Ends automaton text stop count automaton.start ⟨i, []⟩) : (automaton.search? text).isSome := by
  rw [search?_eq, Option.isSome_map]
  exact searchAt_isSome rfl automaton.ready_start (.inr ⟨i, Nat.zero_le i, hi, count, [], stop, h⟩)

end Automaton

namespace Expression

variable {text : Text}

/-- **A search for an expression finds a match of it.** -/
theorem exists_matches_of_search? {expression : Expression} {found : Match}
    (h : expression.automaton.search? text = some found) :
    found.text = text ∧ ∃ i ≤ text.length, ∃ index, expression.Matches text ⟨i, []⟩ ⟨index, found.marks⟩ := by
  obtain ⟨htext, i, hi, index, count, hend⟩ := Automaton.exists_ends_of_search? h
  exact ⟨htext, i, hi, index, expression.ends_automaton_iff.1 ⟨count, hend⟩⟩

/-- **A search for an expression finds something if there is a match anywhere.** -/
theorem search?_isSome_iff (expression : Expression) (text : Text) :
    (expression.automaton.search? text).isSome ↔ ∃ i ≤ text.length, ∃ stop, expression.Matches text ⟨i, []⟩ stop := by
  constructor
  · intro h
    obtain ⟨found, hfound⟩ := Option.isSome_iff_exists.1 h
    obtain ⟨-, i, hi, index, hmatches⟩ := exists_matches_of_search? hfound
    exact ⟨i, hi, _, hmatches⟩
  · rintro ⟨i, hi, stop, hmatches⟩
    obtain ⟨count, hend⟩ := expression.ends_automaton_iff.2 hmatches
    exact Automaton.search?_isSome_of_ends hi hend

end Expression
end DtsBundle
