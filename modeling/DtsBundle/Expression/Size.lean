import DtsBundle.Expression.Basic
import Std.Data.HashSet
/-!
# The size of an expression

An expression that takes too much room is refused before it is used.  The room is that of two machines that read bytes
in UTF-8: one reads the text from its start and remembers groups, the other reads it backwards and does not.  A state
takes 32 bytes, a transition that a state has besides takes 8, and a way on that a branching state has takes 4.  Neither
machine may take more than ten mebibytes.

A set of characters is a machine of its own, made of the byte sequences of its ranges.  Reading forwards, states from
which the same can follow are one; reading backwards, sequences that start with the same bytes share the states for
these.
-/
namespace DtsBundle

/-! ## Byte sequences -/

namespace CharSet

/-- The bytes of a number in UTF-8, where a lead byte and so many others are used. -/
def bytesOf (others n : Nat) : List Nat :=
  let lead := match others with | 0 => 0 | 1 => 0xC0 | 2 => 0xE0 | _ => 0xF0
  (lead + n / Nat.pow 64 others) :: (List.range others).reverse.map fun i => 0x80 + n / Nat.pow 64 i % 64

/-- The sequences of byte ranges for numbers of one length in UTF-8: a range is cut until below some place the numbers
go through all values. -/
def cutRange (others low high : Nat) : Nat → List (List (Nat × Nat))
  | 0 => [(bytesOf others low).zip (bytesOf others high)]
  | place + 1 =>
    let unit := Nat.pow 64 (others - place)
    if low / unit = high / unit then cutRange others low high place
    else
      let first := if low % unit = 0 then low else (low / unit + 1) * unit
      let past := if high % unit = unit - 1 then high + 1 else high / unit * unit
      (if low < first then cutRange others low (first - 1) place else [])
        ++ (if first < past then cutRange others first (past - 1) place else [])
        ++ (if past ≤ high then cutRange others past high place else [])

/-- The numbers that UTF-8 writes with one byte, and with each number of others; surrogates are left out. -/
def lengths : List (Nat × Nat × Nat) :=
  [(0, 0, 0x7F), (1, 0x80, 0x7FF), (2, 0x800, 0xD7FF), (2, 0xE000, 0xFFFF), (3, 0x10000, last)]

/-- The sequences of byte ranges of a set, in order. -/
def byteSequences (set : CharSet) : List (List (Nat × Nat)) :=
  set.ranges.flatMap fun (low, high) =>
    lengths.flatMap fun (others, least, most) =>
      let low := max low least
      let high := min high most
      if low ≤ high then cutRange others low high others else []

end CharSet

namespace Expression

/-! ## Sets -/

/-- Sequences by what they start with: for each first range, what follows it. -/
def byFirst (sequences : List (List (Nat × Nat))) : List ((Nat × Nat) × List (List (Nat × Nat))) :=
  sequences.foldr
    (fun sequence groups =>
      match sequence, groups with
      | [], groups => groups
      | first :: rest, [] => [(first, [rest])]
      | first :: rest, (other, ends) :: groups =>
        if first = other then (first, rest :: ends) :: groups else (first, [rest]) :: (other, ends) :: groups)
    []

/-- The different states of the machine that reads some sequences forwards, each as the sequences it goes on with. -/
def forwardStates : Nat → List (List (Nat × Nat)) → Std.HashSet (List (List (Nat × Nat))) →
    Std.HashSet (List (List (Nat × Nat)))
  | 0, _, known => known
  | depth + 1, sequences, known =>
    if sequences.any (·.isEmpty) || known.contains sequences then known
    else (byFirst sequences).foldl (fun known (_, ends) => forwardStates depth ends known) (known.insert sequences)

/-- How many states read some sequences backwards: one for each different start. -/
def backwardStates : Nat → List (List (Nat × Nat)) → Nat
  | 0, _ => 0
  | depth + 1, sequences => (byFirst sequences).foldl (fun n (_, ends) => n + 1 + backwardStates depth ends) 0

/-- The room of a set. -/
def setSize (backward : Bool) (set : CharSet) : Nat :=
  if set.isAscii then 64 + 8 * set.ranges.length
  else
    let sequences := set.byteSequences
    if backward then 64 + 4 * sequences.length + 32 * backwardStates 4 sequences
    else (forwardStates 4 sequences ∅).fold (fun n state => n + 32 + 8 * (byFirst state).length) 32

/-! ## Choices of texts -/

/-- Words up to each that has ended, and those after the last such. -/
def chunks : List (List UInt8) → List (List (List UInt8))
  | [] => [[]]
  | word :: words =>
    match word, chunks words with
    | [], chunks => [] :: chunks
    | word, chunk :: chunks => (word :: chunk) :: chunks
    | word, [] => [[word]]

/-- Words by their first byte, each without it. -/
def byByte (words : List (List UInt8)) : List (UInt8 × List (List UInt8)) :=
  words.foldr
    (fun word groups =>
      match word with
      | [] => groups
      | byte :: rest =>
        match groups.lookup byte with
        | some ends => (byte, rest :: ends) :: groups.filter (·.1 != byte)
        | none => (byte, [rest]) :: groups)
    []

/-- The room of the states that read some words as a tree, so many bytes deep. -/
def treeSize : Nat → List (List UInt8) → Nat
  | 0, _ => 0
  | depth + 1, words =>
    if words.all (·.isEmpty) then 0
    else
      let groups := (chunks words).map byByte
      let full := groups.filter (!·.isEmpty)
      let own := 32 + 4 * (full.length + (groups.length - 1))
      full.foldl
        (fun n ways =>
          let room := if ways.length = 1 then 32 else 32 + 8 * ways.length
          ways.foldl (fun n (_, ends) => n + treeSize depth ends) (n + room))
        own

/-- The text of an expression that is one. -/
def text? : Expression → Option Text
  | literal t => some t
  | _ => none

/-- The bytes of a text in the order they are read. -/
def bytesRead (backward : Bool) (t : Text) : List UInt8 :=
  let bytes := t.flatMap String.utf8EncodeChar
  if backward then bytes.reverse else bytes

/-- The room of a choice of texts. -/
def textsSize (backward : Bool) (texts : List Text) : Nat :=
  let words := texts.map (bytesRead backward)
  32 + treeSize (words.foldl (fun n word => max n word.length) 0 + 1) words

/-! ## Expressions -/

/-- The room of a repetition, from the room of what is repeated. -/
def repetitionSize (takesSome : Bool) (inner least : Nat) : Option Nat → Nat
  | none =>
    match least with
    | 0 => inner + if takesSome then 40 else 112
    | n + 1 => (n + 1) * inner + 40
  | some most =>
    if most = least then least * inner
    else if least = 0 ∧ most = 1 then inner + 72
    else (if least = 0 then 32 else least * inner) + 32 + (most - least) * (inner + 40)

/-- The room of an expression, or the room it takes as the last alternatives of a choice. -/
def size (backward : Bool) : (inChoice : Bool) → Expression → Nat
  | inChoice, choice former latter =>
    let rest := former.size backward false + 4 + latter.size backward true
    if inChoice then rest
    else match former.text?, latter.alternatives.mapM text? with
      | some first, some others => textsSize backward (first :: others)
      | _, _ => 64 + rest
  | inChoice, expression =>
    let own := match expression with
      | empty | look _ | choice _ _ => 32
      | literal t => 32 * (bytesRead backward t).length
      | one set => setSize backward set
      | group _ inner => inner.size backward false + if backward then 0 else 64
      | repeated inner least most _ =>
        repetitionSize inner.takesSome (inner.size backward false) least most
      | row former latter => former.size backward false + latter.size backward false
    if inChoice then own + 4 else own

/-- The most room a machine may take. -/
def mostRoom : Nat :=
  10 * 1024 * 1024

/-- Whether the machines of an expression take no more room than they may, with that for a search through a text. -/
def fits (expression : Expression) : Bool :=
  expression.size false false + 208 ≤ mostRoom && expression.size true false + 144 ≤ mostRoom

end Expression
end DtsBundle
