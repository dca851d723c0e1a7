import DtsBundle.Proofs.Expression.Groups
import DtsBundle.Proofs.Unit.Grammar
/-!
# The expressions of the canonical pair

The two expressions of the canonical pair are rows of parts, most of which take texts of one kind: blanks, a word, or what
is not a quote.  So a match is followed part by part, and **what matches is just a line of the form or the grammar, with
what it states in the groups** (`exists_form_of_matches`, `exists_matches_of_form`, `exists_grammar_of_matches`,
`exists_matches_of_grammar`).  A line is of a form in one way only, so a search has no choice of what to find, and **the
searches for these expressions are the scans** (`search?_referenceExpression`, `search?_requirementExpression`).
-/
namespace DtsBundle.Patterns

open Text Expression

/-! ## Their parts -/

/-- Blanks, so many at least. -/
def blanksOf (least : Nat) : Expression :=
  .repeated (.one blanks) least none true

/-- Characters that are not some quote, one at least. -/
def unquoted (quote : Char) : Expression :=
  .repeated (.one (CharSet.only quote).complement) 1 none true

/-- A group of characters that are not some quote, between two of these quotes. -/
def quotedIn (quote : Char) (index : Nat) : Expression :=
  .row (.literal [quote]) (.row (.group index (unquoted quote)) (.literal [quote]))

/-- Either keyword. -/
def keywords : Expression :=
  .choice (.literal RequirementKind.var.keyword) (.literal RequirementKind.importAlias.keyword)

/-- What the canonical reference expression spells. -/
def referenceExpression : Expression :=
  .row (.look .textStart) <| .row (.literal "///".toList) <| .row (blanksOf 0) <| .row (.literal "<reference".toList) <|
    .row (blanksOf 0) <| .row (.literal "path=".toList) <| .row (.choice (quotedIn '"' 1) (quotedIn '\'' 2)) <|
    .row (blanksOf 0) <| .row (.literal "/>".toList) <| .row (blanksOf 0) (.look .textEnd)

/-- What the canonical requirement expression spells, where a word is made of the characters of a set. -/
def requirementExpressionOf (word : CharSet) : Expression :=
  .row (.look .textStart) <| .row (.group 1 keywords) <| .row (blanksOf 1) <|
    .row (.group 2 (.repeated (.one word) 1 none true)) <| .row (blanksOf 0) <| .row (.literal "=".toList) <|
    .row (blanksOf 0) <| .row (.literal "require(".toList) <| .row (.choice (quotedIn '\'' 3) (quotedIn '"' 4)) <|
    .row (.literal ");".toList) (.look .textEnd)

/-- What the canonical requirement expression spells. -/
def requirementExpression : Expression :=
  requirementExpressionOf wordCharacters

variable {line text front rest : Text} {a b stop : Place}

theorem takes_blanksOf (least : Nat) : Takes text (blanksOf least) fun t => least ≤ t.length ∧ IsBlanks t := by
  intro a b
  rw [blanksOf, takes_repeated_one]
  simp only [has_blanks, IsBlanks]

theorem takes_word : Takes text (.repeated (.one wordCharacters) 1 none true) fun t => t ≠ [] ∧ ∀ c ∈ t, isWord c = true := by
  intro a b
  rw [takes_repeated_one]
  simp only [has_wordCharacters, Nat.one_le_iff_ne_zero, Ne, List.length_eq_zero_iff]

theorem ordered_only (c : Char) : CharSet.Ordered (CharSet.only c).ranges := by
  refine ⟨fun range hm => ?_, List.pairwise_singleton _ _⟩
  obtain rfl := List.mem_singleton.1 hm
  exact Nat.le_refl _

theorem takes_unquoted (quote : Char) : Takes text (unquoted quote) fun t => t ≠ [] ∧ quote ∉ t := by
  intro a b
  rw [unquoted, takes_repeated_one]
  simp only [CharSet.has_complement_iff (ordered_only quote), CharSet.has_only_iff, Nat.one_le_iff_ne_zero, Ne,
    List.length_eq_zero_iff, List.forall_mem_ne']

/-! ### Quoted paths -/

theorem exists_path_of_quotedIn {quote : Char} {index : Nat} (hsplits : Splits text front rest a)
    (h : (quotedIn quote index).Matches text a b) :
    ∃ path rest', path ≠ [] ∧ quote ∉ path ∧ rest = quote :: (path ++ quote :: rest') ∧
      Splits text (front ++ [quote] ++ path ++ [quote]) rest' b ∧
        b.marks = (2 * index + 1, (front ++ [quote] ++ path).length) :: (2 * index, (front ++ [quote]).length) :: a.marks := by
  obtain ⟨p, hopen, q, hgroup, hclose⟩ := h
  obtain ⟨_, _, ⟨rfl, rfl⟩, hp, hpmarks⟩ := ((takes_literal _).matches_iff hsplits).1 hopen
  obtain ⟨path, _, ⟨⟨hpath, hm⟩, rfl⟩, hq, hqmarks⟩ := ((takes_unquoted quote).group_iff hp).1 hgroup
  obtain ⟨_, rest', ⟨rfl, rfl⟩, hb, hbmarks⟩ := ((takes_literal _).matches_iff hq).1 hclose
  exact ⟨path, rest', hpath, hm, rfl, hb, by rw [hbmarks, hqmarks, hpmarks]⟩

/-- A path in either of two quotes, each with a group of its own. -/
theorem exists_path_of_choice {q q' : Char} {i i' : Nat} (hsplits : Splits text front rest a)
    (h : (Expression.choice (quotedIn q i) (quotedIn q' i')).Matches text a b) :
    ∃ quote index path rest', (quote = q ∧ index = i ∨ quote = q' ∧ index = i') ∧ path ≠ [] ∧ quote ∉ path ∧
      rest = quote :: (path ++ quote :: rest') ∧ Splits text (front ++ [quote] ++ path ++ [quote]) rest' b ∧
        b.marks = (2 * index + 1, (front ++ [quote] ++ path).length) :: (2 * index, (front ++ [quote]).length) :: a.marks := by
  rcases h with hfirst | hsecond
  · exact ⟨q, i, (exists_path_of_quotedIn hsplits hfirst).imp fun path => .imp fun rest' => .intro (.inl ⟨rfl, rfl⟩)⟩
  · exact ⟨q', i', (exists_path_of_quotedIn hsplits hsecond).imp fun path => .imp fun rest' => .intro (.inr ⟨rfl, rfl⟩)⟩

theorem exists_quotedIn {quote : Char} {index : Nat} {path : Text} (hpath : path ≠ []) (hm : quote ∉ path)
    (hsplits : Splits text front (quote :: (path ++ quote :: rest)) a) :
    ∃ b, (quotedIn quote index).Matches text a b ∧ Splits text (front ++ [quote] ++ path ++ [quote]) rest b := by
  obtain ⟨p, hopen, hp⟩ := (takes_literal [quote]).exists_matches hsplits rfl
  obtain ⟨q, hgroup, hq⟩ := (takes_unquoted quote).exists_group hp ⟨hpath, hm⟩
  obtain ⟨b, hclose, hb⟩ := (takes_literal [quote]).exists_matches hq rfl
  exact ⟨b, ⟨p, hopen, q, hgroup, hclose⟩, hb⟩

theorem exists_choice {q q' quote : Char} {i i' : Nat} {path : Text} (hquote : quote = q ∨ quote = q') (hpath : path ≠ [])
    (hm : quote ∉ path) (hsplits : Splits text front (quote :: (path ++ quote :: rest)) a) :
    ∃ b, (Expression.choice (quotedIn q i) (quotedIn q' i')).Matches text a b ∧
      Splits text (front ++ [quote] ++ path ++ [quote]) rest b := by
  rcases hquote with rfl | rfl
  · exact (exists_quotedIn hpath hm hsplits).imp fun b => .imp_left .inl
  · exact (exists_quotedIn hpath hm hsplits).imp fun b => .imp_left .inr

/-- The group of a quoted path is the path. -/
theorem group?_of_marks {quote : Char} {path : Text} {index : Nat} {marks others : List (Nat × Nat)}
    (hsplits : Splits text (front ++ [quote] ++ path ++ [quote]) rest b)
    (hmarks : marks =
      (2 * index + 1, (front ++ [quote] ++ path).length) :: (2 * index, (front ++ [quote]).length) :: others) :
    (Match.mk text marks).group? index = some path := by
  have htext : text = front ++ [quote] ++ path ++ ([quote] ++ rest) := by
    rw [hsplits.1, List.append_assoc]
  have hslot : (2 * index == 2 * index + 1) = false := beq_false_of_ne (Nat.succ_ne_self _).symm
  refine Match.group?_eq htext ?_ ?_
  · rw [hmarks, List.lookup_cons, hslot]
    exact List.lookup_cons_self
  · rw [hmarks]
    exact List.lookup_cons_self

/-! ## Reference directives -/

/-- **A match of the reference expression is a line of the form, with the path in its group.** -/
theorem exists_form_of_matches {i : Nat} (hi : i ≤ line.length) (h : referenceExpression.Matches line ⟨i, []⟩ stop) :
    ∃ path, ReferenceForm line path ∧ pathOf? ⟨line, stop.marks⟩ = some path := by
  obtain ⟨_, g₀, _, g₁, _, g₂, _, g₃, _, g₄, _, g₅, _, g₆, _, g₇, _, g₈, _, g₉, hend⟩ := h
  obtain ⟨rfl, rfl⟩ := (look_textStart_iff hi).1 g₀
  obtain ⟨_, r₁, ⟨rfl, rfl⟩, h₁, m₁⟩ := ((takes_literal _).matches_iff (splits_start line [])).1 g₁
  obtain ⟨a, r₂, ⟨⟨-, ha⟩, rfl⟩, h₂, m₂⟩ := ((takes_blanksOf 0).matches_iff h₁).1 g₂
  obtain ⟨_, r₃, ⟨rfl, rfl⟩, h₃, m₃⟩ := ((takes_literal _).matches_iff h₂).1 g₃
  obtain ⟨b, r₄, ⟨⟨-, hb⟩, rfl⟩, h₄, m₄⟩ := ((takes_blanksOf 0).matches_iff h₃).1 g₄
  obtain ⟨_, r₅, ⟨rfl, rfl⟩, h₅, m₅⟩ := ((takes_literal _).matches_iff h₄).1 g₅
  obtain ⟨quote, index, path, r₆, hways, hpath, hm, rfl, h₆, m₆⟩ := exists_path_of_choice h₅ g₆
  obtain ⟨c, r₇, ⟨⟨-, hc⟩, rfl⟩, h₇, m₇⟩ := ((takes_blanksOf 0).matches_iff h₆).1 g₇
  obtain ⟨_, r₈, ⟨rfl, rfl⟩, h₈, m₈⟩ := ((takes_literal _).matches_iff h₇).1 g₈
  obtain ⟨d, r₉, ⟨⟨-, hd⟩, rfl⟩, h₉, m₉⟩ := ((takes_blanksOf 0).matches_iff h₈).1 g₉
  obtain ⟨rfl, hstop⟩ := (look_textEnd_iff h₉).1 hend
  rw [m₅, m₄, m₃, m₂, m₁, ← m₇, ← m₈, ← m₉, hstop] at m₆
  rw [List.append_nil] at h₆ ⊢
  refine ⟨path, .intro ha hb hc hd (hways.imp And.left And.left) hpath hm, ?_⟩
  have hgroup := group?_of_marks h₆ m₆
  rw [pathOf?]
  rcases hways with ⟨rfl, rfl⟩ | ⟨rfl, rfl⟩
  · rw [hgroup]
    rfl
  · rw [hgroup, Match.group?, m₆]
    rfl

/-- **A line of the form is matched.** -/
theorem exists_matches_of_form {path : Text} (h : ReferenceForm line path) :
    ∃ stop, referenceExpression.Matches line ⟨0, []⟩ stop := by
  obtain @⟨a, b, c, d, path, quote, ha, hb, hc, hd, hquote, hpath, hm⟩ := h
  rw [← List.append_nil d]
  obtain ⟨p₁, g₁, h₁⟩ := (takes_literal "///".toList).exists_matches (splits_start _ []) rfl
  obtain ⟨p₂, g₂, h₂⟩ := (takes_blanksOf 0).exists_matches h₁ ⟨Nat.zero_le _, ha⟩
  obtain ⟨p₃, g₃, h₃⟩ := (takes_literal "<reference".toList).exists_matches h₂ rfl
  obtain ⟨p₄, g₄, h₄⟩ := (takes_blanksOf 0).exists_matches h₃ ⟨Nat.zero_le _, hb⟩
  obtain ⟨p₅, g₅, h₅⟩ := (takes_literal "path=".toList).exists_matches h₄ rfl
  obtain ⟨p₆, g₆, h₆⟩ := exists_choice hquote hpath hm h₅
  obtain ⟨p₇, g₇, h₇⟩ := (takes_blanksOf 0).exists_matches h₆ ⟨Nat.zero_le _, hc⟩
  obtain ⟨p₈, g₈, h₈⟩ := (takes_literal "/>".toList).exists_matches h₇ rfl
  obtain ⟨p₉, g₉, h₉⟩ := (takes_blanksOf 0).exists_matches h₈ ⟨Nat.zero_le _, hd⟩
  exact ⟨p₉, _, (look_textStart_iff (Nat.zero_le _)).2 ⟨rfl, rfl⟩, p₁, g₁, p₂, g₂, p₃, g₃, p₄, g₄, p₅, g₅, p₆, g₆, p₇, g₇,
    p₈, g₈, p₉, g₉, (look_textEnd_iff h₉).2 ⟨rfl, rfl⟩⟩

/-! ## Requirement statements -/

theorem takes_keywords :
    Takes text keywords fun t => t = RequirementKind.var.keyword ∨ t = RequirementKind.importAlias.keyword :=
  (takes_literal _).choice (takes_literal _)

theorem requirementOf?_of_groups {found : Match} {kind : RequirementKind} {binding path : Text}
    (hkeyword : found.group? 1 = some kind.keyword) (hbinding : found.group? 2 = some binding)
    (hpath : (found.group? 3 <|> found.group? 4) = some path) :
    requirementOf? found = some ⟨kind, binding, path⟩ := by
  rw [requirementOf?, hkeyword, hbinding, hpath]
  cases kind <;> rfl

/-- **A match of the requirement expression is a line of the grammar, with its parts in the groups.** -/
theorem exists_grammar_of_matches {i : Nat} (hi : i ≤ line.length) (h : requirementExpression.Matches line ⟨i, []⟩ stop) :
    ∃ requirement, RequirementGrammar line requirement ∧ requirementOf? ⟨line, stop.marks⟩ = some requirement := by
  obtain ⟨_, g₀, _, g₁, _, g₂, _, g₃, _, g₄, _, g₅, _, g₆, _, g₇, _, g₈, _, g₉, hend⟩ := h
  obtain ⟨rfl, rfl⟩ := (look_textStart_iff hi).1 g₀
  obtain ⟨keyword, r₁, ⟨hkeyword, rfl⟩, h₁, m₁⟩ := (takes_keywords.group_iff (splits_start line [])).1 g₁
  obtain ⟨a, r₂, ⟨⟨hgap, ha⟩, rfl⟩, h₂, m₂⟩ := ((takes_blanksOf 1).matches_iff h₁).1 g₂
  obtain ⟨binding, r₃, ⟨⟨hbinding, hword⟩, rfl⟩, h₃, m₃⟩ := (takes_word.group_iff h₂).1 g₃
  obtain ⟨b, r₄, ⟨⟨-, hb⟩, rfl⟩, h₄, m₄⟩ := ((takes_blanksOf 0).matches_iff h₃).1 g₄
  obtain ⟨_, r₅, ⟨rfl, rfl⟩, h₅, m₅⟩ := ((takes_literal _).matches_iff h₄).1 g₅
  obtain ⟨c, r₆, ⟨⟨-, hc⟩, rfl⟩, h₆, m₆⟩ := ((takes_blanksOf 0).matches_iff h₅).1 g₆
  obtain ⟨_, r₇, ⟨rfl, rfl⟩, h₇, m₇⟩ := ((takes_literal _).matches_iff h₆).1 g₇
  obtain ⟨quote, index, path, r₈, hways, hpath, hm, rfl, h₈, m₈⟩ := exists_path_of_choice h₇ g₈
  obtain ⟨_, r₉, ⟨rfl, rfl⟩, h₉, m₉⟩ := ((takes_literal _).matches_iff h₈).1 g₉
  obtain ⟨rfl, hstop⟩ := (look_textEnd_iff h₉).1 hend
  rw [m₇, m₆, m₅, m₄, m₃, m₂, m₁, ← m₉, hstop] at m₈
  rw [List.append_nil] at h₁ h₃ h₈ ⊢
  obtain ⟨kind, rfl⟩ : ∃ kind : RequirementKind, keyword = kind.keyword :=
    hkeyword.elim (fun h => ⟨.var, h⟩) fun h => ⟨.importAlias, h⟩
  refine ⟨⟨kind, binding, path⟩, .intro (List.ne_nil_of_length_pos hgap) ha hbinding hword hb hc
    (hways.symm.imp And.left And.left) hpath hm, ?_⟩
  rcases hways with ⟨rfl, rfl⟩ | ⟨rfl, rfl⟩
  · refine requirementOf?_of_groups (Match.group?_eq h₁.1 ?_ ?_) (Match.group?_eq h₃.1 ?_ ?_) ?_
    · rw [m₈]; rfl
    · rw [m₈]; rfl
    · rw [m₈]; rfl
    · rw [m₈]; rfl
    · rw [group?_of_marks h₈ m₈]; rfl
  · refine requirementOf?_of_groups (Match.group?_eq h₁.1 ?_ ?_) (Match.group?_eq h₃.1 ?_ ?_) ?_
    · rw [m₈]; rfl
    · rw [m₈]; rfl
    · rw [m₈]; rfl
    · rw [m₈]; rfl
    · rw [group?_of_marks h₈ m₈, Match.group?, m₈]; rfl

/-- **A line of the grammar is matched.** -/
theorem exists_matches_of_grammar {requirement : Requirement} (h : RequirementGrammar line requirement) :
    ∃ stop, requirementExpression.Matches line ⟨0, []⟩ stop := by
  obtain @⟨kind, a, b, c, binding, path, quote, hgap, ha, hbinding, hword, hb, hc, hquote, hpath, hm⟩ := h
  have hkeyword : kind.keyword = RequirementKind.var.keyword ∨ kind.keyword = RequirementKind.importAlias.keyword := by
    cases kind
    · exact .inl rfl
    · exact .inr rfl
  rw [← List.append_nil ");".toList]
  obtain ⟨p₁, g₁, h₁⟩ := takes_keywords.exists_group (splits_start _ []) hkeyword
  obtain ⟨p₂, g₂, h₂⟩ := (takes_blanksOf 1).exists_matches h₁ ⟨List.length_pos_of_ne_nil hgap, ha⟩
  obtain ⟨p₃, g₃, h₃⟩ := takes_word.exists_group h₂ ⟨hbinding, hword⟩
  obtain ⟨p₄, g₄, h₄⟩ := (takes_blanksOf 0).exists_matches h₃ ⟨Nat.zero_le _, hb⟩
  obtain ⟨p₅, g₅, h₅⟩ := (takes_literal "=".toList).exists_matches h₄ rfl
  obtain ⟨p₆, g₆, h₆⟩ := (takes_blanksOf 0).exists_matches h₅ ⟨Nat.zero_le _, hc⟩
  obtain ⟨p₇, g₇, h₇⟩ := (takes_literal "require(".toList).exists_matches h₆ rfl
  obtain ⟨p₈, g₈, h₈⟩ := exists_choice hquote.symm hpath hm h₇
  obtain ⟨p₉, g₉, h₉⟩ := (takes_literal ");".toList).exists_matches h₈ rfl
  exact ⟨p₉, _, (look_textStart_iff (Nat.zero_le _)).2 ⟨rfl, rfl⟩, p₁, g₁, p₂, g₂, p₃, g₃, p₄, g₄, p₅, g₅, p₆, g₆, p₇, g₇,
    p₈, g₈, p₉, g₉, (look_textEnd_iff h₉).2 ⟨rfl, rfl⟩⟩

/-! ## Searching -/

/-- **The search for the reference expression is the scan for canonical references.** -/
theorem search?_referenceExpression (line : Text) :
    (referenceExpression.automaton.search? line >>= pathOf?) = canonicalReference? line := by
  refine search?_bind_eq (fun i hi stop hmatches => ?_) fun path hpath => ?_
  · obtain ⟨path, hform, hpath⟩ := exists_form_of_matches hi hmatches
    exact ⟨path, canonicalReference?_eq_some_iff.2 hform, hpath⟩
  · exact exists_matches_of_form (canonicalReference?_eq_some_iff.1 hpath)

/-- **The search for the requirement expression is the scan for canonical requirements.** -/
theorem search?_requirementExpression (line : Text) :
    (requirementExpression.automaton.search? line >>= requirementOf?) = canonicalRequirement? line := by
  refine search?_bind_eq (fun i hi stop hmatches => ?_) fun requirement hrequirement => ?_
  · obtain ⟨requirement, hgrammar, htaken⟩ := exists_grammar_of_matches hi hmatches
    exact ⟨requirement, canonicalRequirement?_eq_some_iff_grammar.2 hgrammar, htaken⟩
  · exact exists_matches_of_grammar (canonicalRequirement?_eq_some_iff_grammar.1 hrequirement)

end DtsBundle.Patterns
