import DtsBundle.Proofs.Characters.Table
import DtsBundle.Text.Blank
import DtsBundle.Text.Word
/-!
# Blanks and word characters

What makes up words is told by tables of many ranges, and what is blank by a few numbers.  The tables are gone through once,
one after another (`lists_category`): no blank lies in a range of theirs, and of ASCII they have the letters, the digits and
the low line alone.  So **no character is both blank and a word character** (`isBlank_eq_false_of_isWord`), and **the set of
word characters is what `isWord` says**, in ASCII too (`has_wordCharacters`).
-/
namespace DtsBundle.Text

open CharSet Characters

/-! ## Ranges of word characters -/

/-- Whether a range goes up, has of ASCII only letters, digits or the low line, and has no blank. -/
def wordRange (low high : Nat) : Bool :=
  low ≤ high &&
    (0x80 ≤ low || (0x30 ≤ low && high ≤ 0x39) || (0x41 ≤ low && high ≤ 0x5A) || (0x5F ≤ low && high ≤ 0x5F)
      || (0x61 ≤ low && high ≤ 0x7A)) &&
    (0x3000 < low ||
      high < 0x3000 && (high < 0x205F || 0x205F < low) && (high < 0x202F || 0x202F < low) && (high < 0x2028 || 0x2029 < low)
        && (high < 0x2000 || 0x200A < low) && (high < 0x1680 || 0x1680 < low) && (high < 0xA0 || 0xA0 < low)
        && (high < 0x85 || 0x85 < low))

theorem le_of_wordRange (low high : Nat) (h : wordRange low high = true) : low ≤ high := by
  rw [wordRange, Bool.and_eq_true, Bool.and_eq_true, decide_eq_true_eq] at h
  exact h.1.1

/-- Whether a range goes up and has no ASCII. -/
def beyondAscii (low high : Nat) : Bool :=
  low ≤ high && 0x80 ≤ low

theorem le_of_beyondAscii (low high : Nat) (h : beyondAscii low high = true) : low ≤ high := by
  rw [beyondAscii, Bool.and_eq_true, decide_eq_true_eq] at h
  exact h.1

/-- A number lies in some range of word characters. -/
def InWordRange (n : Nat) : Prop :=
  ∃ low high, wordRange low high = true ∧ low ≤ n ∧ n ≤ high

theorem InWordRange.isBlank_eq_false {c : Char} (h : InWordRange c.toNat) : isBlank c = false := by
  obtain ⟨low, high, hrange, hlow, hhigh⟩ := h
  simp only [wordRange, Bool.and_eq_true, Bool.or_eq_true, decide_eq_true_eq] at hrange
  simp only [isBlank, Bool.or_eq_false_iff, Bool.and_eq_false_iff, decide_eq_false_iff_not, beq_eq_false_iff_ne]
  omega

/-! ## Tables -/

/-- The categories that words are made of, each with the number of its ranges and with its ASCII characters. -/
def wordCategories : List (String × Nat × List Item) := [
  ("Lu", 651, [.through 0x41 0x5A]),
  ("Ll", 662, [.through 0x61 0x7A]),
  ("Lt", 10, []),
  ("Lm", 75, []),
  ("Lo", 528, []),
  ("Mn", 357, []),
  ("Mc", 190, []),
  ("Me", 5, []),
  ("Nd", 71, [.through 0x30 0x39]),
  ("Nl", 12, []),
  ("Pc", 6, [.alone 0x5F])]

/-- The number of ranges of a category and its ASCII characters. -/
def factsOf (short : String) : Nat × List Item :=
  (wordCategories.lookup short).getD (0, [])

set_option maxRecDepth 100000 in
/-- **The tables of these categories, gone through.** -/
theorem lists_category : ∀ category ∈ categories, category.short ∈ wordCategories.map Prod.fst →
    lists wordRange (factsOf category.short).1 (factsOf category.short).2 category.table.toList = true := by
  simp only [categories, List.forall_mem_cons]
  refine ⟨?Lu, ?Ll, ?Lt, ?Lm, ?Lo, ?Mn, ?Mc, ?Me, ?Nd, ?Nl, ?No, ?Pc, ?Pd, ?Ps, ?Pe, ?Pi, ?Pf, ?Po, ?Sm, ?Sc, ?Sk, ?So,
    ?Zs, ?Zl, ?Zp, ?Cc, ?Cf, ?Co, ?none⟩
  case Lu | Ll | Lt | Lm | Lo | Mn | Mc | Me | Nd | Nl | Pc =>
    intro _
    refine lists_ofList _ ?_
    decide +kernel
  case none => exact fun _ hm => absurd hm List.not_mem_nil
  all_goals exact fun hm => absurd hm (by decide +kernel)

set_option maxRecDepth 100000 in
theorem lists_alphabetic : lists wordRange 245 [] alphabetic.besides.toList = true := by
  simp only [alphabetic]
  refine lists_ofList _ ?_
  decide +kernel

theorem lists_without_alphabetic : lists beyondAscii 21 [] alphabetic.without.toList = true := by
  decide +kernel

theorem lists_joinControl : lists wordRange 1 [] joinControl.besides.toList = true := by
  decide +kernel

/-! ## Sets -/

variable {n : Nat}

/-- The shorts of a list are those of word categories. -/
def AreWordShorts (shorts : String) : Prop :=
  ∀ short ∈ items shorts, short ∈ wordCategories.map (·.1.toList)

instance (shorts : String) : Decidable (AreWordShorts shorts) :=
  inferInstanceAs (Decidable (∀ short ∈ items shorts, short ∈ wordCategories.map (·.1.toList)))

/-- The categories of some short names. -/
def chosen (shorts : String) : List Category :=
  categories.filter ((items shorts).contains ·.short.toList)

theorem listed_of_mem_chosen {shorts : String} {category : Category} (hshorts : AreWordShorts shorts)
    (hm : category ∈ chosen shorts) :
    Listed wordRange (factsOf category.short).1 (factsOf category.short).2 (tableRanges category.table) := by
  obtain ⟨hcategory, hwanted⟩ := List.mem_filter.1 hm
  obtain ⟨entry, hentry, heq⟩ := List.mem_map.1 (hshorts _ (List.contains_iff_mem.1 hwanted))
  have hshort : category.short ∈ wordCategories.map Prod.fst :=
    List.mem_map.2 ⟨entry, hentry, String.toList_inj.1 heq⟩
  exact listed_of_lists le_of_wordRange (lists_category category hcategory hshort)

theorem ordered_inCategories {shorts : String} (hshorts : AreWordShorts shorts) : Ordered (inCategories shorts).ranges := by
  refine ordered_ofRanges fun range hm => ?_
  obtain ⟨category, hcategory, hrange⟩ := List.mem_flatMap.1 hm
  exact (listed_of_mem_chosen hshorts hcategory).up range hrange

theorem covers_inCategories {shorts : String} :
    Covers (inCategories shorts).ranges n ↔ ∃ category ∈ chosen shorts, Covers (tableRanges category.table) n := by
  rw [inCategories, covers_ofRanges, covers_flatMap]
  rfl

theorem inWordRange_of_inCategories {shorts : String} (hshorts : AreWordShorts shorts)
    (h : Covers (inCategories shorts).ranges n) : InWordRange n := by
  obtain ⟨category, hcategory, hn⟩ := covers_inCategories.1 h
  exact (listed_of_mem_chosen hshorts hcategory).clear n hn

theorem length_inCategories_le {shorts : String} (hshorts : AreWordShorts shorts) :
    (inCategories shorts).ranges.length ≤ ((chosen shorts).map fun category => (factsOf category.short).1).sum := by
  refine Nat.le_trans (length_ofRanges_le _) ?_
  rw [List.length_flatMap]
  exact List.sum_le_sum fun category hm => (listed_of_mem_chosen hshorts hm).length_le

/-- The ASCII characters of a category. -/
theorem covers_inCategories_of_held {shorts short : String} {item : Item} (hshorts : AreWordShorts shorts)
    (hchosen : ∃ category ∈ chosen shorts, category.short = short) (hitem : item ∈ (factsOf short).2)
    (hn : Covers item.ranges n) : Covers (inCategories shorts).ranges n := by
  obtain ⟨category, hcategory, rfl⟩ := hchosen
  exact covers_inCategories.2
    ⟨category, hcategory, hn.mono ((listed_of_mem_chosen hshorts hcategory).held item hitem)⟩

/-! ## Properties -/

/-- A property whose tables have been gone through: what is had besides the categories, and what is taken off. -/
structure IsWordProperty (property : Property) (besides without : Nat) : Prop where
  shorts : AreWordShorts property.categories
  besides : Listed wordRange besides [] (tableRanges property.besides)
  without : Listed beyondAscii without [] (tableRanges property.without)

section Property

variable {property : Property} {besides without : Nat}

theorem IsWordProperty.ordered_base (h : IsWordProperty property besides without) :
    Ordered ((inCategories property.categories).union (.ofTable property.besides)).ranges :=
  ordered_union (ordered_inCategories h.shorts) (ordered_ofRanges h.besides.up)

theorem IsWordProperty.ordered (h : IsWordProperty property besides without) : Ordered property.members.ranges :=
  ordered_diff h.ordered_base (ordered_ofRanges h.without.up)

theorem IsWordProperty.covers_iff (h : IsWordProperty property besides without) (hlast : n ≤ last) :
    Covers property.members.ranges n ↔
      (Covers (inCategories property.categories).ranges n ∨ Covers (tableRanges property.besides) n) ∧
        ¬ Covers (tableRanges property.without) n := by
  have hwithout : Ordered (ofTable property.without).ranges := ordered_ofRanges h.without.up
  rw [Property.members, covers_diff_iff h.ordered_base hwithout hlast, covers_union_iff, ofTable, ofTable, covers_ofRanges,
    covers_ofRanges]

theorem IsWordProperty.inWordRange (h : IsWordProperty property besides without) (hlast : n ≤ last)
    (hn : Covers property.members.ranges n) : InWordRange n := by
  rcases ((h.covers_iff hlast).1 hn).1 with hcategory | hbesides
  · exact inWordRange_of_inCategories h.shorts hcategory
  · exact h.besides.clear n hbesides

/-- Nothing of ASCII is taken off. -/
theorem IsWordProperty.covers_of_ascii (h : IsWordProperty property besides without) (hascii : n < 0x80)
    (hn : Covers (inCategories property.categories).ranges n) : Covers property.members.ranges n := by
  refine (h.covers_iff (by rw [last]; omega)).2 ⟨.inl hn, fun hout => ?_⟩
  obtain ⟨low, high, hclear, hlow, -⟩ := h.without.clear n hout
  simp only [beyondAscii, Bool.and_eq_true, decide_eq_true_eq] at hclear
  omega

theorem IsWordProperty.length_le (h : IsWordProperty property besides without) :
    property.members.ranges.length ≤
      ((chosen property.categories).map fun category => (factsOf category.short).1).sum + besides + without + 4 := by
  have hcategories := length_inCategories_le h.shorts
  have hbesides := Nat.le_trans (length_ofRanges_le (tableRanges property.besides)) h.besides.length_le
  have hwithout := Nat.le_trans (length_ofRanges_le (tableRanges property.without)) h.without.length_le
  have hunion := length_union_le (inCategories property.categories) (.ofTable property.besides)
  have hall := length_diff_le ((inCategories property.categories).union (.ofTable property.besides))
    (.ofTable property.without)
  rw [Property.members]
  simp only [ofTable] at hunion hall ⊢
  omega

end Property

theorem isWordProperty_alphabetic : IsWordProperty alphabetic 245 21 where
  shorts := by decide +kernel
  besides := listed_of_lists le_of_wordRange lists_alphabetic
  without := listed_of_lists le_of_beyondAscii lists_without_alphabetic

theorem isWordProperty_joinControl : IsWordProperty joinControl 1 0 where
  shorts := by decide +kernel
  besides := listed_of_lists le_of_wordRange lists_joinControl
  without := listed_of_lists le_of_beyondAscii (by decide +kernel)

/-! ## The set of word characters -/

theorem areWordShorts_marks : AreWordShorts "Mn Mc Me Nd Pc" := by
  decide +kernel

theorem ordered_wordCharacters : Ordered wordCharacters.ranges := by
  refine ordered_unions (List.forall_mem_cons.2 ⟨isWordProperty_alphabetic.ordered, List.forall_mem_cons.2
    ⟨ordered_inCategories areWordShorts_marks, List.forall_mem_singleton.2 isWordProperty_joinControl.ordered⟩⟩)

theorem covers_wordCharacters_iff :
    Covers wordCharacters.ranges n ↔ Covers alphabetic.members.ranges n ∨
      Covers (inCategories "Mn Mc Me Nd Pc").ranges n ∨ Covers joinControl.members.ranges n := by
  rw [wordCharacters, covers_unions]
  simp

theorem inWordRange_of_wordCharacters (hlast : n ≤ last) (h : Covers wordCharacters.ranges n) : InWordRange n := by
  rcases covers_wordCharacters_iff.1 h with halphabetic | hmark | hjoin
  · exact isWordProperty_alphabetic.inWordRange hlast halphabetic
  · exact inWordRange_of_inCategories areWordShorts_marks hmark
  · exact isWordProperty_joinControl.inWordRange hlast hjoin

set_option maxRecDepth 100000 in
/-- The set has no more ranges than its tables list. -/
theorem length_wordCharacters_le : wordCharacters.ranges.length ≤ 3032 := by
  have halphabetic := isWordProperty_alphabetic.length_le
  have hmarks := length_inCategories_le areWordShorts_marks
  have hjoin := isWordProperty_joinControl.length_le
  have hcounts : ((chosen alphabetic.categories).map fun category => (factsOf category.short).1).sum = 2128 ∧
      ((chosen "Mn Mc Me Nd Pc").map fun category => (factsOf category.short).1).sum = 629 ∧
        ((chosen joinControl.categories).map fun category => (factsOf category.short).1).sum = 0 := by
    decide +kernel
  rw [hcounts.1] at halphabetic
  rw [hcounts.2.1] at hmarks
  rw [hcounts.2.2] at hjoin
  refine Nat.le_trans (length_ofRanges_le _) ?_
  simp only [List.flatMap_cons, List.flatMap_nil, List.length_append, List.length_nil]
  omega

/-- The letters, the digits and the low line. -/
theorem covers_wordCharacters_of_ascii
    (h : (0x30 ≤ n ∧ n ≤ 0x39) ∨ (0x41 ≤ n ∧ n ≤ 0x5A) ∨ n = 0x5F ∨ (0x61 ≤ n ∧ n ≤ 0x7A)) :
    Covers wordCharacters.ranges n := by
  have hletter (short : String) (item : Item) (hchosen : ∃ category ∈ chosen alphabetic.categories, category.short = short)
      (hitem : item ∈ (factsOf short).2) (hn : Covers item.ranges n) (hascii : n < 0x80) :
      Covers wordCharacters.ranges n :=
    covers_wordCharacters_iff.2 (.inl (isWordProperty_alphabetic.covers_of_ascii hascii
      (covers_inCategories_of_held isWordProperty_alphabetic.shorts hchosen hitem hn)))
  have hmark (short : String) (item : Item) (hchosen : ∃ category ∈ chosen "Mn Mc Me Nd Pc", category.short = short)
      (hitem : item ∈ (factsOf short).2) (hn : Covers item.ranges n) : Covers wordCharacters.ranges n :=
    covers_wordCharacters_iff.2 (.inr (.inl (covers_inCategories_of_held areWordShorts_marks hchosen hitem hn)))
  rcases h with hdigit | hupper | rfl | hlower
  · exact hmark "Nd" (.through 0x30 0x39) (by decide +kernel) (by decide +kernel) ⟨_, List.mem_singleton_self _, hdigit⟩
  · exact hletter "Lu" (.through 0x41 0x5A) (by decide +kernel) (by decide +kernel) ⟨_, List.mem_singleton_self _, hupper⟩
      (by omega)
  · exact hmark "Pc" (.alone 0x5F) (by decide +kernel) (by decide +kernel) ⟨_, List.mem_singleton_self _, by decide⟩
  · exact hletter "Ll" (.through 0x61 0x7A) (by decide +kernel) (by decide +kernel) ⟨_, List.mem_singleton_self _, hlower⟩
      (by omega)

/-! ## Characters -/

/-- The set of blanks is what `isBlank` says. -/
theorem has_blanks (c : Char) : blanks.has c = isBlank c := by
  rw [Bool.eq_iff_iff]
  simp only [has, blanks, within, isBlank, Bool.and_eq_true, Bool.or_eq_true, decide_eq_true_eq, beq_iff_eq,
    Bool.false_eq_true, or_false]
  omega

theorem isAlphanum_or_lowLine_iff {c : Char} :
    (c.isAlphanum || c == '_') = true ↔ (0x30 ≤ c.toNat ∧ c.toNat ≤ 0x39) ∨ (0x41 ≤ c.toNat ∧ c.toNat ≤ 0x5A) ∨
      c.toNat = 0x5F ∨ (0x61 ≤ c.toNat ∧ c.toNat ≤ 0x7A) := by
  have hlow : c = '_' ↔ c.toNat = 0x5F := ⟨fun h => h ▸ rfl, fun h => Char.toNat_inj.1 h⟩
  have hupper : c.isUpper = true ↔ 0x41 ≤ c.toNat ∧ c.toNat ≤ 0x5A := decide_eq_true_iff
  have hlower : c.isLower = true ↔ 0x61 ≤ c.toNat ∧ c.toNat ≤ 0x7A := by
    rw [Char.isLower, Bool.and_eq_true, decide_eq_true_iff, decide_eq_true_iff]
    rfl
  have hdigit : c.isDigit = true ↔ 0x30 ≤ c.toNat ∧ c.toNat ≤ 0x39 := by
    rw [Char.isDigit, Bool.and_eq_true, decide_eq_true_iff, decide_eq_true_iff]
    rfl
  rw [Char.isAlphanum, Char.isAlpha, Bool.or_eq_true, Bool.or_eq_true, Bool.or_eq_true, beq_iff_eq, hlow, hupper, hlower,
    hdigit]
  omega

/-- **The set of word characters is what `isWord` says.** -/
theorem has_wordCharacters (c : Char) : wordCharacters.has c = isWord c := by
  unfold isWord
  split
  · rename_i hascii
    rw [Bool.eq_iff_iff, has_iff_covers ordered_wordCharacters, isAlphanum_or_lowLine_iff]
    refine ⟨fun h => ?_, covers_wordCharacters_of_ascii⟩
    obtain ⟨low, high, hrange, hlow, hhigh⟩ := inWordRange_of_wordCharacters (toNat_le_last c) h
    simp only [wordRange, Bool.and_eq_true, Bool.or_eq_true, decide_eq_true_eq] at hrange
    omega
  · rfl

/-- **No word character is blank.** -/
theorem isBlank_eq_false_of_isWord {c : Char} (h : isWord c = true) : isBlank c = false := by
  rw [← has_wordCharacters] at h
  exact (inWordRange_of_wordCharacters (toNat_le_last c) (covers_of_has h)).isBlank_eq_false

theorem isWord_eq_false_of_isBlank {c : Char} (h : isBlank c = true) : isWord c = false := by
  by_contra hword
  rw [Bool.not_eq_false] at hword
  rw [isBlank_eq_false_of_isWord hword] at h
  cases h

end DtsBundle.Text
