import DtsBundle.Expression.Basic
/-!
# Automata

An expression is matched by an automaton whose states take a character, ask something of the place, mark the place as
an end of a group, or choose between states of which the earlier is preferred.

A search follows all threads at once, in the order of preference.  At each place every state is entered at most once,
by the thread that prefers it most, which bounds the work at a place by the size of the automaton; a thread that is done
drops all that are less preferred.  Until one is done a new thread starts at each place, behind all others.  So the
match is the earliest, and of those that start there the most preferred.

What a repetition of something that may take no character means is told by how it is built: one way round is always
tried before the way on, and a second way round without a character finds its states entered.
-/
namespace DtsBundle

/-- A state of an automaton, with the states that follow it. -/
inductive State where
  | take (set : CharSet) (next : Nat)
  | check (look : Look) (next : Nat)
  | mark (slot : Nat) (next : Nat)
  | choose (nexts : List Nat)
  | done
deriving Repr

/-- An automaton: its states by number, and the one a match starts with. -/
structure Automaton where
  states : Array State
  start : Nat
deriving Repr

namespace Expression

/-! ## Building -/

/-- What adds the states of an expression: from the state that follows it, to the one it starts with. -/
abbrev Adding := Nat → Array State → Nat × Array State

/-- One state more. -/
def addState (state : State) (states : Array State) : Nat × Array State :=
  (states.size, states.push state)

/-- A choice between going round and going on. -/
def ways (greedy : Bool) (round on : Nat) : State :=
  .choose (if greedy then [round, on] else [on, round])

/-- So many of the same in a row. -/
def addCopies (add : Adding) : Nat → Adding
  | 0, next, states => (next, states)
  | n + 1, next, states =>
    let (start, states) := add next states
    addCopies add n start states

/-- At most so many of the same in a row; from between any two a way leads to the end of all. -/
def addOptional (add : Adding) (greedy : Bool) (stop : Nat) : Nat → Adding
  | 0, next, states => (next, states)
  | n + 1, next, states =>
    let (start, states) := add next states
    let (fork, states) := addState (ways greedy start stop) states
    addOptional add greedy stop n fork states

/-- One or more of the same: where it starts, and the state behind it that leads round or on. -/
def addLoop (add : Adding) (greedy : Bool) (next : Nat) (states : Array State) : Nat × Nat × Array State :=
  let (fork, states) := addState (.choose []) states
  let (start, states) := add fork states
  (start, fork, states.setIfInBounds fork (ways greedy start next))

/-- The states of a repetition. -/
def addRepeated (add : Adding) (takesSome : Bool) (least : Nat) (most : Option Nat) (greedy : Bool) : Adding :=
  fun next states =>
    match most with
    | some most =>
      let (start, states) := addOptional add greedy next (most - least) next states
      addCopies add least start states
    | none =>
      let (start, fork, states) := addLoop add greedy next states
      match least with
      | 0 => if takesSome then (fork, states) else addState (ways greedy start next) states
      | n + 1 => addCopies add n start states

/-- The states of an expression. -/
def add : Expression → Adding
  | empty, next, states => (next, states)
  | literal t, next, states =>
    t.foldr (fun c (next, states) => addState (.take (.only c) next) states) (next, states)
  | one set, next, states => addState (.take set next) states
  | look l, next, states => addState (.check l next) states
  | group index inner, next, states =>
    let (stop, states) := addState (.mark (2 * index + 1) next) states
    let (start, states) := inner.add stop states
    addState (.mark (2 * index) start) states
  | repeated inner least most greedy, next, states =>
    addRepeated inner.add inner.takesSome least most greedy next states
  | row former latter, next, states =>
    let (middle, states) := latter.add next states
    former.add middle states
  | choice former latter, next, states =>
    let (second, states) := latter.add next states
    let (first, states) := former.add next states
    addState (.choose [first, second]) states

/-- The automaton of an expression. -/
def automaton (expression : Expression) : Automaton :=
  let (start, states) := expression.add 0 #[.done]
  ⟨states, start⟩

end Expression

namespace Automaton

/-! ## Searching -/

/-- A thread: the state it is in, and the marks it has made, the latest first, each a slot and the place. -/
structure Thread where
  state : Nat
  marks : List (Nat × Nat)
deriving Repr

/-- The threads at a place that wait for a character, the most preferred first, and the marks of the one that is done
behind them.  For every state it is told at which place it was entered last. -/
structure Settled where
  waiting : List Thread
  found : Option (List (Nat × Nat))
  entered : Array Nat

/-- The number of ways out of all states. -/
def edges (automaton : Automaton) : Nat :=
  automaton.states.foldl (fun n state => n + match state with | .choose nexts => nexts.length | _ => 1) 0

/-- Follows threads, the most preferred first, until they wait for a character or are done.  Each way out of a state is
followed once at most, so there are no more steps than threads and ways. -/
def settle (automaton : Automaton) (before after : Option Char) (place : Nat) :
    Nat → List Thread → List Thread → Array Nat → Settled
  | 0, _, waiting, entered => ⟨waiting.reverse, none, entered⟩
  | _, [], waiting, entered => ⟨waiting.reverse, none, entered⟩
  | fuel + 1, thread :: threads, waiting, entered =>
    if entered.getD thread.state 0 = place + 1 then settle automaton before after place fuel threads waiting entered
    else
      let entered := entered.setIfInBounds thread.state (place + 1)
      match automaton.states.getD thread.state (.choose []) with
      | .take _ _ => settle automaton before after place fuel threads (thread :: waiting) entered
      | .done => ⟨waiting.reverse, some thread.marks, entered⟩
      | .check look next =>
        let threads := if look.holds before after then ⟨next, thread.marks⟩ :: threads else threads
        settle automaton before after place fuel threads waiting entered
      | .mark slot next =>
        settle automaton before after place fuel (⟨next, (slot, place) :: thread.marks⟩ :: threads) waiting entered
      | .choose nexts =>
        settle automaton before after place fuel (nexts.map (⟨·, thread.marks⟩) ++ threads) waiting entered

/-- A thread behind a character, if it takes that. -/
def advance? (automaton : Automaton) (c : Char) (thread : Thread) : Option Thread :=
  match automaton.states[thread.state]? with
  | some (.take set next) => if set.has c then some ⟨next, thread.marks⟩ else none
  | _ => none

/-- The search from a place on: the threads there, and what was found by one more preferred than they are. -/
def searchFrom (automaton : Automaton) (fuel : Nat) (before : Option Char) (place : Nat) (threads : List Thread)
    (found : Option (List (Nat × Nat))) (entered : Array Nat) : Text → Option (List (Nat × Nat))
  | [] =>
    let threads := if found.isNone then threads ++ [⟨automaton.start, []⟩] else threads
    (settle automaton before none place fuel threads [] entered).found <|> found
  | c :: rest =>
    let threads := if found.isNone then threads ++ [⟨automaton.start, []⟩] else threads
    if threads.isEmpty then found
    else
      let settled := settle automaton before (some c) place fuel threads [] entered
      searchFrom automaton fuel (some c) (place + 1) (settled.waiting.filterMap (automaton.advance? c))
        (settled.found <|> found) settled.entered rest

end Automaton

/-- A match: the text it was found in, and the marks of its groups. -/
structure Match where
  text : Text
  marks : List (Nat × Nat)
deriving DecidableEq, Repr

/-- What a group took, if it took part. -/
def Match.group? (found : Match) (index : Nat) : Option Text := do
  let start ← found.marks.lookup (2 * index)
  let stop ← found.marks.lookup (2 * index + 1)
  return (found.text.drop start).take (stop - start)

/-- The first match in a text. -/
def Automaton.search? (automaton : Automaton) (text : Text) : Option Match :=
  (automaton.searchFrom (automaton.edges + automaton.states.size + 2) none 0 [] none
    (Array.replicate automaton.states.size 0) text).map (⟨text, ·⟩)

end DtsBundle
