import DtsBundle.Proofs.Characters.Set
import DtsBundle.Proofs.Text.Lines
import Mathlib
/-!
# Tables, read in one pass

A table is cut into items, and each item is cut again at its hyphen or its slash.  To have all the items of a table it is
enough to go over its characters once, with what the item that is being read has spelled so far (`Begun`).  What that is
in the middle of an item is what the item spells up to there (`Spells`), so **the pass gives the ranges that the table
lists** (`tableRanges_eq`).  It can be gone through in a proof, where the cutting cannot.
-/
namespace DtsBundle

namespace Text

/-- Text without the separator belongs to the field it stands in front of. -/
theorem fields_append_of_not_mem {separator : Char} {front : Text} (h : separator ∉ front) (rest : Text) :
    fields separator (front ++ rest) = (fields separator rest).modifyHead (front ++ ·) := by
  induction front with
  | nil =>
    cases hrest : fields separator rest <;> simp [hrest]
  | cons c front ih =>
    have hc : ¬ c = separator := (List.ne_of_not_mem_cons h).symm
    rw [List.cons_append, fields_cons, if_neg hc, ih (List.not_mem_of_not_mem_cons h), List.modifyHead_modifyHead]
    rfl

/-- The parts of a text between blanks and line feeds. -/
def words (text : Text) : List Text :=
  (lines text).flatMap (fields ' ')

theorem words_of_not_mem {word : Text} (hspace : ' ' ∉ word) (hfeed : '\n' ∉ word) : words word = [word] := by
  rw [words, lines, fields_of_not_mem hfeed, List.flatMap_singleton, fields_of_not_mem hspace]

/-- Behind a word that has ended the next one begins. -/
theorem words_append_cons {word : Text} {c : Char} (hspace : ' ' ∉ word) (hfeed : '\n' ∉ word) (hc : c = ' ' ∨ c = '\n')
    (rest : Text) : words (word ++ c :: rest) = word :: words rest := by
  rcases hc with rfl | rfl
  · obtain ⟨first, more, hlines⟩ := List.exists_cons_of_ne_nil (show lines rest ≠ [] from List.cons_ne_nil _ _)
    have hfront : '\n' ∉ word ++ [' '] := by simpa using hfeed
    have hall : lines (word ++ ' ' :: rest) = (word ++ ' ' :: first) :: more := by
      rw [List.append_cons, lines, fields_append_of_not_mem hfront, ← lines, hlines]
      simp
    rw [words, words, hall, hlines, List.flatMap_cons, List.flatMap_cons, fields_append_cons, fields_of_not_mem hspace]
    rfl
  · rw [words, lines, fields_append_cons, fields_of_not_mem hfeed, List.flatMap_append, List.flatMap_singleton,
      fields_of_not_mem hspace]
    rfl

end Text

namespace CharSet

open Text

/-! ## Items -/

/-- What an item of a table stands for: a number, a range, or every other number of a range. -/
inductive Item where
  | alone (n : Nat)
  | through (low high : Nat)
  | alternate (low high : Nat)
deriving DecidableEq, Repr

namespace Item

/-- The least number of an item. -/
def low : Item → Nat
  | alone n => n
  | through low _ => low
  | alternate low _ => low

/-- The number an item goes up to. -/
def high : Item → Nat
  | alone n => n
  | through _ high => high
  | alternate _ high => high

/-- How many ranges an item stands for. -/
def count : Item → Nat
  | alone _ => 1
  | through _ _ => 1
  | alternate low high => (high - low) / 2 + 1

/-- The ranges an item stands for. -/
def ranges : Item → List (Nat × Nat)
  | alone n => [(n, n)]
  | through low high => [(low, high)]
  | alternate low high => everyOther low ((high - low) / 2 + 1)

end Item

theorem length_everyOther (start count : Nat) : (everyOther start count).length = count := by
  induction count generalizing start with
  | zero => rfl
  | succ count ih => rw [everyOther, List.length_cons, ih]

theorem length_ranges (item : Item) : item.ranges.length = item.count := by
  cases item with
  | alone n => rfl
  | through low high => rfl
  | alternate low high => exact length_everyOther _ _

theorem mem_everyOther {range : Nat × Nat} : ∀ {start count : Nat}, range ∈ everyOther start count →
    start ≤ range.1 ∧ range.1 = range.2 ∧ range.2 + 2 ≤ start + 2 * count
  | _, 0, h => absurd h List.not_mem_nil
  | start, count + 1, h => by
    rcases List.mem_cons.1 h with rfl | h
    · exact ⟨Nat.le_refl _, rfl, by simp only; omega⟩
    · obtain ⟨hlow, heq, hhigh⟩ := mem_everyOther h
      exact ⟨by omega, heq, by omega⟩

/-- The ranges of an item lie between its numbers, if these are in order. -/
theorem Item.bounds {item : Item} {range : Nat × Nat} (hup : item.low ≤ item.high) (h : range ∈ item.ranges) :
    item.low ≤ range.1 ∧ range.1 ≤ range.2 ∧ range.2 ≤ item.high := by
  cases item with
  | alone n =>
    obtain rfl := List.mem_singleton.1 h
    exact ⟨Nat.le_refl _, Nat.le_refl _, Nat.le_refl _⟩
  | through low high =>
    obtain rfl := List.mem_singleton.1 h
    exact ⟨Nat.le_refl _, hup, Nat.le_refl _⟩
  | alternate low high =>
    obtain ⟨hlow, heq, hhigh⟩ := mem_everyOther h
    simp only [Item.low, Item.high] at hup hlow ⊢
    omega

/-! ## Reading an item -/

theorem ofHex_concat (digits : Text) (c : Char) : ofHex (digits ++ [c]) = ofHex digits * 16 + digitValue c := by
  rw [ofHex, List.foldl_concat]
  rfl

/-- What an item has spelled so far: nothing, a number, or a number in front of a mark and what is there of the other. -/
inductive Begun where
  | nothing
  | number (n : Nat)
  | pair (mark : Char) (front n : Nat)

namespace Begun

/-- A digit more. -/
def digit (c : Char) : Begun → Begun
  | nothing => number (digitValue c)
  | number n => number (n * 16 + digitValue c)
  | pair mark front n => pair mark front (n * 16 + digitValue c)

/-- A mark behind a number. -/
def mark? (c : Char) : Begun → Option Begun
  | number n => some (pair c n 0)
  | _ => none

/-- The item that ends here, if one has begun. -/
def items : Begun → List Item
  | nothing => []
  | number n => [.alone n]
  | pair mark front n => if mark = '-' then [.through front n] else [.alternate front n]

end Begun

/-- Text without a mark between two numbers. -/
structure Unmarked (text : Text) : Prop where
  hyphen : '-' ∉ text
  slash : '/' ∉ text

theorem unmarked_nil : Unmarked [] :=
  ⟨List.not_mem_nil, List.not_mem_nil⟩

theorem Unmarked.concat {text : Text} {c : Char} (h : Unmarked text) (hmark : ¬ (c = '-' ∨ c = '/')) :
    Unmarked (text ++ [c]) := by
  obtain ⟨hhyphen, hslash⟩ := not_or.1 hmark
  exact ⟨by simpa [h.hyphen] using Ne.symm hhyphen, by simpa [h.slash] using Ne.symm hslash⟩

/-- What a part of an item from its start on spells. -/
inductive Spells : Text → Begun → Prop
  | nothing : Spells [] .nothing
  | number {digits : Text} (hne : digits ≠ []) (h : Unmarked digits) : Spells digits (.number (ofHex digits))
  | pair {first digits : Text} {mark : Char} (hmark : mark = '-' ∨ mark = '/') (hfirst : Unmarked first)
    (h : Unmarked digits) : Spells (first ++ mark :: digits) (.pair mark (ofHex first) (ofHex digits))

theorem Spells.digit {item : Text} {begun : Begun} {c : Char} (h : Spells item begun) (hmark : ¬ (c = '-' ∨ c = '/')) :
    Spells (item ++ [c]) (begun.digit c) := by
  cases h with
  | nothing =>
    have hone : digitValue c = ofHex [c] := (Nat.zero_add _).symm.trans (ofHex_concat [] c).symm
    rw [Begun.digit, hone]
    exact .number (List.cons_ne_nil _ _) (unmarked_nil.concat hmark)
  | number hne hdigits =>
    rw [Begun.digit, ← ofHex_concat]
    exact .number (List.concat_ne_nil _ _) (hdigits.concat hmark)
  | pair hpair hfirst hdigits =>
    rw [Begun.digit, ← ofHex_concat, List.append_assoc, List.cons_append]
    exact .pair hpair hfirst (hdigits.concat hmark)

theorem Spells.mark {item : Text} {begun next : Begun} {c : Char} (h : Spells item begun) (hc : c = '-' ∨ c = '/')
    (hnext : begun.mark? c = some next) : Spells (item ++ [c]) next := by
  cases h with
  | nothing => cases hnext
  | number hne hdigits =>
    obtain rfl := Option.some.inj hnext
    exact .pair hc hdigits unmarked_nil
  | pair => cases hnext

/-- **What has been spelled when an item ends is what the item stands for**; an empty one is left out. -/
theorem Spells.ranges {item : Text} {begun : Begun} (h : Spells item begun) :
    ([item].filter (!·.isEmpty)).flatMap itemRanges = begun.items.flatMap Item.ranges := by
  cases h with
  | nothing => rfl
  | number hne hdigits =>
    have hkept : [item].filter (!·.isEmpty) = [item] := by simpa using hne
    rw [hkept, List.flatMap_singleton, itemRanges, fields_of_not_mem hdigits.hyphen, fields_of_not_mem hdigits.slash]
    rfl
  | @pair first digits mark hmark hfirst hdigits =>
    have hkept : [first ++ mark :: digits].filter (!·.isEmpty) = [first ++ mark :: digits] := by simp
    rw [hkept, List.flatMap_singleton]
    rcases hmark with rfl | rfl
    · rw [itemRanges, fields_append_cons, fields_of_not_mem hfirst.hyphen, fields_of_not_mem hdigits.hyphen]
      rfl
    · have hhyphen : '-' ∉ first ++ '/' :: digits := by
        simp [hfirst.hyphen, hdigits.hyphen]
      rw [itemRanges, fields_of_not_mem hhyphen, fields_append_cons, fields_of_not_mem hfirst.slash,
        fields_of_not_mem hdigits.slash]
      exact (List.append_nil _).symm

/-! ## One pass -/

/-- The items of a table from the middle of an item on; none if an item has a mark too many.  The recursion is written
with the recursor, which is what lets a table of some thousand characters be gone through in a proof. -/
noncomputable def items? (table : Text) : Begun → Option (List Item) :=
  List.rec (fun begun => some begun.items)
    (fun c _ more begun =>
      if c = ' ' ∨ c = '\n' then (more .nothing).map (begun.items ++ ·)
      else if c = '-' ∨ c = '/' then (begun.mark? c).bind more
      else more (begun.digit c)) table

theorem items?_cons (c : Char) (table : Text) (begun : Begun) :
    items? (c :: table) begun =
      if c = ' ' ∨ c = '\n' then (items? table .nothing).map (begun.items ++ ·)
      else if c = '-' ∨ c = '/' then (begun.mark? c).bind (items? table)
      else items? table (begun.digit c) := rfl

/-- From the middle of an item on, the items are the words that are left. -/
theorem ranges_words : ∀ {table item : Text} {begun : Begun} {found : List Item}, Spells item begun → ' ' ∉ item →
    '\n' ∉ item → items? table begun = some found →
      ((words (item ++ table)).filter (!·.isEmpty)).flatMap itemRanges = found.flatMap Item.ranges
  | [], item, begun, found, hspells, hspace, hfeed, h => by
    obtain rfl := Option.some.inj h
    rw [List.append_nil, words_of_not_mem hspace hfeed]
    exact hspells.ranges
  | c :: table, item, begun, found, hspells, hspace, hfeed, h => by
    rw [items?_cons] at h
    by_cases hend : c = ' ' ∨ c = '\n'
    · rw [if_pos hend] at h
      obtain ⟨rest, hrest, rfl⟩ := Option.map_eq_some_iff.1 h
      rw [words_append_cons hspace hfeed hend, ← List.singleton_append, List.filter_append, List.flatMap_append,
        hspells.ranges, List.flatMap_append]
      exact congrArg _ (ranges_words .nothing List.not_mem_nil List.not_mem_nil hrest)
    · obtain ⟨hcspace, hcfeed⟩ := not_or.1 hend
      have hspace' : ' ' ∉ item ++ [c] := by simpa [hspace] using Ne.symm hcspace
      have hfeed' : '\n' ∉ item ++ [c] := by simpa [hfeed] using Ne.symm hcfeed
      rw [if_neg hend] at h
      rw [List.append_cons]
      by_cases hmark : c = '-' ∨ c = '/'
      · rw [if_pos hmark] at h
        obtain ⟨next, hnext, hrest⟩ := Option.bind_eq_some_iff.1 h
        exact ranges_words (hspells.mark hmark hnext) hspace' hfeed' hrest
      · rw [if_neg hmark] at h
        exact ranges_words (hspells.digit hmark) hspace' hfeed' h

/-- **The ranges of a table are those of its items.** -/
theorem tableRanges_eq {table : String} {found : List Item} (h : items? table.toList .nothing = some found) :
    tableRanges table = found.flatMap Item.ranges := by
  have hwords := ranges_words .nothing List.not_mem_nil List.not_mem_nil h
  rw [List.nil_append] at hwords
  exact hwords

/-! ## What is looked for in a table -/

/-- Whether the items of a table are clear, stand for so many ranges at most, and some are among them. -/
noncomputable def lists (clear : Nat → Nat → Bool) (most : Nat) (held : List Item) (table : Text) : Bool :=
  (items? table .nothing).any fun found =>
    found.all (fun item => clear item.low item.high) && (found.map Item.count).sum ≤ most && held.all (found.contains ·)

/-- What is known of the ranges of a table that has been gone through. -/
structure Listed (clear : Nat → Nat → Bool) (most : Nat) (held : List Item) (ranges : List (Nat × Nat)) : Prop where
  up : ∀ range ∈ ranges, range.1 ≤ range.2
  clear : ∀ n, Covers ranges n → ∃ low high, clear low high = true ∧ low ≤ n ∧ n ≤ high
  length_le : ranges.length ≤ most
  held : ∀ item ∈ held, ∀ range ∈ item.ranges, range ∈ ranges

/-- **One pass tells all that is looked for.** -/
theorem listed_of_lists {clear : Nat → Nat → Bool} {most : Nat} {held : List Item} {table : String}
    (hup : ∀ low high, clear low high = true → low ≤ high) (h : lists clear most held table.toList = true) :
    Listed clear most held (tableRanges table) := by
  obtain ⟨found, hfound, hall⟩ := (Option.any_eq_true _ _).1 h
  simp only [Bool.and_eq_true, List.all_eq_true, decide_eq_true_eq, List.contains_iff_mem] at hall
  obtain ⟨⟨hclear, hmost⟩, hheld⟩ := hall
  rw [tableRanges_eq hfound]
  constructor
  case up =>
    intro range hm
    obtain ⟨item, hitem, hrange⟩ := List.mem_flatMap.1 hm
    exact (item.bounds (hup _ _ (hclear item hitem)) hrange).2.1
  case clear =>
    intro n hn
    obtain ⟨item, hitem, range, hrange, hlow, hhigh⟩ := covers_flatMap.1 hn
    obtain ⟨hfrom, -, hto⟩ := item.bounds (hup _ _ (hclear item hitem)) hrange
    exact ⟨item.low, item.high, hclear item hitem, Nat.le_trans hfrom hlow, Nat.le_trans hhigh hto⟩
  case length_le =>
    rw [List.length_flatMap]
    simpa only [length_ranges] using hmost
  case held => exact fun item hitem range hrange => List.mem_flatMap.2 ⟨item, hheld item hitem, hrange⟩

/-- A table is given as a string, whose characters a proof has to be handed. -/
theorem lists_ofList {clear : Nat → Nat → Bool} {most : Nat} {held : List Item} (table : Text)
    (h : lists clear most held table = true) : lists clear most held (String.ofList table).toList = true := by
  rw [String.toList_ofList]
  exact h

end CharSet
end DtsBundle
