import DtsBundle.Text.Lines
/-!
# Sets of characters

A set of characters is a list of ranges of their numbers, in order and with a gap between any two; so every set is
written in one way, and two sets are equal when their lists are.  `ofRanges` brings any ranges into that form, and the
operations on sets are walks over lists in it.

A table is a set as text.  Its items stand between spaces or in lines of their own: `AA` is one number in hexadecimal,
`41-5A` a range, and `100/12E` every other number of a range.
-/
namespace DtsBundle

/-- A set of characters, as ranges of their numbers. -/
structure CharSet where
  ranges : List (Nat × Nat)
deriving DecidableEq, Repr

namespace CharSet

/-- The greatest number of a character. -/
def last : Nat :=
  0x10FFFF

/-! ## Building -/

/-- A range and ranges that start no earlier, with those that meet or touch made one. -/
def merged (low high : Nat) : List (Nat × Nat) → List (Nat × Nat)
  | [] => [(low, high)]
  | (a, b) :: rest => if a ≤ high + 1 then merged low (max high b) rest else (low, high) :: merged a b rest

/-- The set of all characters that lie in one of some ranges. -/
def ofRanges (ranges : List (Nat × Nat)) : CharSet :=
  match ranges.mergeSort fun x y => x.1 ≤ y.1 with
  | [] => ⟨[]⟩
  | (low, high) :: rest => ⟨merged low high rest⟩

/-- The set without members. -/
def empty : CharSet :=
  ⟨[]⟩

/-- The characters from one to another. -/
def range (low high : Char) : CharSet :=
  ⟨[(low.toNat, high.toNat)]⟩

/-- The set of one character. -/
def only (c : Char) : CharSet :=
  range c c

/-- The set of all characters. -/
def all : CharSet :=
  ⟨[(0, last)]⟩

/-! ## Asking -/

/-- Whether a number lies in one of some ranges that are in order. -/
def within : List (Nat × Nat) → Nat → Bool
  | [], _ => false
  | (low, high) :: rest, n => low ≤ n && (n ≤ high || within rest n)

/-- Whether a set has a character. -/
def has (set : CharSet) (c : Char) : Bool :=
  within set.ranges c.toNat

/-- The one member of a set that has just one. -/
def only? (set : CharSet) : Option Char :=
  match set.ranges with
  | [(low, high)] => if low = high then some (Char.ofNat low) else none
  | _ => none

/-- Whether a set has ASCII characters only. -/
def isAscii (set : CharSet) : Bool :=
  set.ranges.all fun (_, high) => high < 0x80

/-! ## Combining -/

/-- What lies between some ranges, from a number on. -/
def gaps (start : Nat) : List (Nat × Nat) → List (Nat × Nat)
  | [] => if start ≤ last then [(start, last)] else []
  | (low, high) :: rest => if start < low then (start, low - 1) :: gaps (high + 1) rest else gaps (high + 1) rest

/-- The characters that a set has not. -/
def complement (set : CharSet) : CharSet :=
  ⟨gaps 0 set.ranges⟩

/-- The characters that one of some sets has. -/
def unions (sets : List CharSet) : CharSet :=
  ofRanges (sets.flatMap ranges)

/-- The characters that one of two sets has. -/
def union (s t : CharSet) : CharSet :=
  unions [s, t]

/-- The characters that both of two sets have. -/
def inter (s t : CharSet) : CharSet :=
  (s.complement.union t.complement).complement

/-- The characters that the first of two sets has and the second has not. -/
def diff (s t : CharSet) : CharSet :=
  s.inter t.complement

/-- The characters that just one of two sets has. -/
def symmDiff (s t : CharSet) : CharSet :=
  (s.diff t).union (t.diff s)

/-! ## Tables -/

/-- The value of a hexadecimal digit, upper case letters included. -/
def digitValue (c : Char) : Nat :=
  if c.isDigit then c.toNat - '0'.toNat else c.toLower.toNat - 'a'.toNat + 10

/-- A number in hexadecimal. -/
def ofHex (digits : Text) : Nat :=
  digits.foldl (fun n c => n * 16 + digitValue c) 0

/-- Every other number from one on, so many of them. -/
def everyOther (start : Nat) : Nat → List (Nat × Nat)
  | 0 => []
  | count + 1 => (start, start) :: everyOther (start + 2) count

/-- The ranges that an item of a table stands for. -/
def itemRanges (item : Text) : List (Nat × Nat) :=
  match Text.fields '-' item, Text.fields '/' item with
  | [low, high], _ => [(ofHex low, ofHex high)]
  | _, [first, final] => everyOther (ofHex first) ((ofHex final - ofHex first) / 2 + 1)
  | _, _ => [(ofHex item, ofHex item)]

/-- The items of a table. -/
def items (table : String) : List Text :=
  ((Text.lines table.toList).flatMap (Text.fields ' ')).filter (!·.isEmpty)

/-- The ranges that a table lists. -/
def tableRanges (table : String) : List (Nat × Nat) :=
  (items table).flatMap itemRanges

/-- The set that a table lists. -/
def ofTable (table : String) : CharSet :=
  ofRanges (tableRanges table)

end CharSet
end DtsBundle
