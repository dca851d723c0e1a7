import DtsBundle.Proofs.Text.Lines
import DtsBundle.Unit.Patterns
import Mathlib.Data.List.TakeWhile
/-!
# The canonical forms

What the two scans accept, as grammars: a line states a reference or a requirement just when it is put together in the
one way that `ReferenceForm` or `RequirementForm` says (`canonicalReference?_eq_some_iff`,
`canonicalRequirement?_eq_some_iff`).  Every choice of a scan is settled by the next character, so a form is read back as
what it was made of.

The lines that are written are forms with one blank, or none, in each place where blanks may stand, and with one quote
each.  **A written line is read as what it was written for**, if the path does not hold that quote
(`canonicalReference?_referenceLine`, `canonicalRequirement?_line`).
-/
namespace DtsBundle

namespace Text

/-- Blanks only. -/
def IsBlanks (text : Text) : Prop :=
  ∀ c ∈ text, isBlank c = true

instance (text : Text) : Decidable (IsBlanks text) :=
  List.decidableBAll (fun c => isBlank c = true) text

/-- A text at which a scan over some characters stops: none of them comes first. -/
def Stops (p : Char → Bool) (text : Text) : Prop :=
  ∀ c ∈ text.head?, p c = false

theorem stops_cons {p : Char → Bool} {c : Char} {text : Text} : Stops p (c :: text) ↔ p c = false := by
  simp [Stops]

theorem Stops.append {p : Char → Bool} {text rest : Text} (ht : Stops p text) (hr : Stops p rest) :
    Stops p (text ++ rest) := by
  cases text with
  | nil => exact hr
  | cons c tail => exact stops_cons.2 (stops_cons.1 ht)

theorem Stops.append_of_ne_nil {p : Char → Bool} {text : Text} (ht : Stops p text) (hne : text ≠ []) (rest : Text) :
    Stops p (text ++ rest) := by
  obtain ⟨c, tail, rfl⟩ := List.exists_cons_of_ne_nil hne
  exact stops_cons.2 (stops_cons.1 ht)

theorem Stops.of_append {p : Char → Bool} {text rest : Text} (h : Stops p (text ++ rest)) : Stops p text := by
  cases text with
  | nil => exact fun c hc => by cases hc
  | cons c tail => exact stops_cons.2 (stops_cons.1 h)

theorem stops_dropWhile (p : Char → Bool) (text : Text) : Stops p (text.dropWhile p) := by
  intro c hc
  have hnot := List.head?_dropWhile_not p text
  rw [Option.mem_def.1 hc] at hnot
  simpa using hnot

theorem Stops.dropWhile_eq {p : Char → Bool} {text : Text} (h : Stops p text) : text.dropWhile p = text := by
  cases text with
  | nil => rfl
  | cons c tail => rw [List.dropWhile_cons_of_neg (by rw [stops_cons.1 h]; exact Bool.false_ne_true)]

theorem Stops.takeWhile_eq {p : Char → Bool} {text : Text} (h : Stops p text) : text.takeWhile p = [] := by
  cases text with
  | nil => rfl
  | cons c tail => rw [List.takeWhile_cons_of_neg (by rw [stops_cons.1 h]; exact Bool.false_ne_true)]

/-- What is skipped is blank, and no blank comes next. -/
theorem exists_skipBlank (text : Text) :
    ∃ blanks, IsBlanks blanks ∧ text = blanks ++ skipBlank text ∧ Stops isBlank (skipBlank text) :=
  ⟨text.takeWhile isBlank, fun _ hc => List.mem_takeWhile_imp hc, List.takeWhile_append_dropWhile.symm,
    stops_dropWhile isBlank text⟩

theorem skipBlank_append {blanks text : Text} (hb : IsBlanks blanks) (ht : Stops isBlank text) :
    skipBlank (blanks ++ text) = text := by
  rw [skipBlank, List.dropWhile_append_of_pos hb, ht.dropWhile_eq]

theorem skipBlank_eq_nil_iff {text : Text} : skipBlank text = [] ↔ IsBlanks text :=
  List.dropWhile_eq_nil_iff

end Text

namespace Patterns

open Text

/-! ## Quoted paths -/

/-- A quote that a path may stand in. -/
def IsQuote (quote : Char) : Prop :=
  quote = '"' ∨ quote = '\''

/-- Where a scan for a quote stops, there is one. -/
theorem append_of_dropWhile_ne {quote other : Char} {text after : Text} (h : text.dropWhile (· != quote) = other :: after) :
    text = text.takeWhile (· != quote) ++ quote :: after := by
  have hstop := stops_dropWhile (· != quote) text
  rw [h, stops_cons] at hstop
  obtain rfl : other = quote := by simpa using hstop
  rw [← h, List.takeWhile_append_dropWhile]

/-- **A quoted path ends at the first quote of its own kind.** -/
theorem quoted?_eq_some_iff {text path rest : Text} :
    quoted? text = some (path, rest) ↔
      ∃ quote, IsQuote quote ∧ path ≠ [] ∧ quote ∉ path ∧ text = quote :: (path ++ quote :: rest) := by
  constructor
  · intro h
    rcases text with _ | ⟨quote, tail⟩
    · cases h
    rw [quoted?] at h
    split at h
    case isFalse => cases h
    rename_i hquote
    split at h
    · cases h
    rename_i other after hdrop
    split at h
    · cases h
    rename_i hfirst
    obtain ⟨rfl, rfl⟩ := Prod.mk.inj (Option.some.inj h)
    have htail := append_of_dropWhile_ne hdrop
    refine ⟨quote, hquote, fun hempty => ?_, fun hm => ?_, by rw [← htail]⟩
    · rw [hempty] at htail
      exact hfirst (by rw [htail]; rfl)
    · simpa using List.mem_takeWhile_imp hm
  · rintro ⟨quote, hquote, hpath, hm, rfl⟩
    have hbefore : ∀ c ∈ path, (c != quote) = true := by
      intro c hc
      simp only [bne_iff_ne]
      rintro rfl
      exact hm hc
    have hfirst : (path ++ quote :: rest).head? ≠ some quote := by
      obtain ⟨c, tail, rfl⟩ := List.exists_cons_of_ne_nil hpath
      simpa using hbefore c List.mem_cons_self
    have hdrop : (path ++ quote :: rest).dropWhile (· != quote) = quote :: rest := by
      rw [List.dropWhile_append_of_pos hbefore, List.dropWhile_cons_of_neg (by simp)]
    have htake : (path ++ quote :: rest).takeWhile (· != quote) = path := by
      rw [List.takeWhile_append_of_pos hbefore, List.takeWhile_cons_of_neg (by simp), List.append_nil]
    rw [IsQuote] at hquote
    rw [quoted?, if_pos hquote, hdrop, htake]
    exact if_neg hfirst

/-! ## Reference directives -/

/-- How a line states a referenced path: blanks may stand behind the slashes, behind `<reference`, in front of the end
mark and behind it. -/
inductive ReferenceForm : Text → Text → Prop
  | intro {a b c d path : Text} {quote : Char} (ha : IsBlanks a) (hb : IsBlanks b) (hc : IsBlanks c) (hd : IsBlanks d)
    (hquote : IsQuote quote) (hpath : path ≠ []) (hm : quote ∉ path) :
    ReferenceForm ("///".toList ++ (a ++ ("<reference".toList ++ (b ++ ("path=".toList ++
      quote :: (path ++ quote :: (c ++ ("/>".toList ++ d)))))))) path

theorem ReferenceForm.path_ne_nil {line path : Text} (h : ReferenceForm line path) : path ≠ [] := by
  obtain ⟨-, -, -, -, -, hpath, -⟩ := h
  exact hpath

theorem ReferenceForm.mem_line {line path : Text} {c : Char} (h : ReferenceForm line path) (hc : c ∈ path) : c ∈ line := by
  obtain ⟨⟩ := h
  simp [hc]

theorem ReferenceForm.head? {line path : Text} (h : ReferenceForm line path) : line.head? = some '/' := by
  obtain ⟨⟩ := h
  rfl

/-- The scan of a directive up to its path. -/
theorem canonicalReference?_scan {a b : Text} (ha : IsBlanks a) (hb : IsBlanks b) (rest : Text) :
    canonicalReference? ("///".toList ++ (a ++ ("<reference".toList ++ (b ++ ("path=".toList ++ rest))))) = (do
      let (path, rest) ← quoted? rest
      let rest ← after? "/>".toList (skipBlank rest)
      if (skipBlank rest).isEmpty then some path else none) := by
  have htag : ∀ rest, Stops isBlank ("<reference".toList ++ rest) := fun rest => stops_cons.2 (by decide)
  have hattribute : ∀ rest, Stops isBlank ("path=".toList ++ rest) := fun rest => stops_cons.2 (by decide)
  simp only [canonicalReference?, after?_append, skipBlank_append ha (htag _), skipBlank_append hb (hattribute _),
    Option.bind_eq_bind, Option.bind_some]

/-- **The canonical reference directives are the lines of that form.** -/
theorem canonicalReference?_eq_some_iff {line path : Text} :
    canonicalReference? line = some path ↔ ReferenceForm line path := by
  constructor
  · intro h
    rw [canonicalReference?] at h
    obtain ⟨r₁, h₁, h⟩ := Option.bind_eq_some_iff.1 h
    obtain ⟨r₂, h₂, h⟩ := Option.bind_eq_some_iff.1 h
    obtain ⟨r₃, h₃, h⟩ := Option.bind_eq_some_iff.1 h
    obtain ⟨⟨found, r₄⟩, h₄, h⟩ := Option.bind_eq_some_iff.1 h
    obtain ⟨r₅, h₅, h⟩ := Option.bind_eq_some_iff.1 h
    split at h
    · rename_i hend
      obtain rfl := Option.some.inj h
      obtain ⟨quote, hquote, hpath, hm, rfl⟩ := quoted?_eq_some_iff.1 h₄
      obtain ⟨a, ha, hra, -⟩ := exists_skipBlank r₁
      obtain ⟨b, hb, hrb, -⟩ := exists_skipBlank r₂
      obtain ⟨c, hc, hrc, -⟩ := exists_skipBlank r₄
      rw [after?_eq_some_iff.1 h₁, hra, after?_eq_some_iff.1 h₂, hrb, after?_eq_some_iff.1 h₃, hrc,
        after?_eq_some_iff.1 h₅]
      exact .intro ha hb hc (skipBlank_eq_nil_iff.1 (List.isEmpty_iff.1 hend)) hquote hpath hm
    · cases h
  · rintro @⟨a, b, c, d, path, quote, ha, hb, hc, hd, hquote, hpath, hm⟩
    have hquoted : quoted? (quote :: (path ++ quote :: (c ++ ("/>".toList ++ d)))) = some (path, c ++ ("/>".toList ++ d)) :=
      quoted?_eq_some_iff.2 ⟨quote, hquote, hpath, hm, rfl⟩
    have hend : skipBlank d = [] := skipBlank_eq_nil_iff.2 hd
    have hmark : Stops isBlank ("/>".toList ++ d) := stops_cons.2 (by decide)
    rw [canonicalReference?_scan ha hb, hquoted]
    simp only [skipBlank_append hc hmark, after?_append, hend, Option.bind_eq_bind, Option.bind_some, List.isEmpty_nil,
      if_true]

theorem canonicalReference?_eq_none {line : Text} (h : line.head? ≠ some '/') : canonicalReference? line = none := by
  rw [Option.eq_none_iff_forall_ne_some]
  intro path hpath
  exact h (canonicalReference?_eq_some_iff.1 hpath).head?

/-! ## Requirement statements -/

theorem keyword?_eq_some_iff {text rest : Text} {kind : RequirementKind} :
    keyword? text = some (kind, rest) ↔ text = kind.keyword ++ rest := by
  constructor
  · intro h
    rw [keyword?] at h
    split at h
    · rename_i after hvar
      obtain ⟨rfl, rfl⟩ := Prod.mk.inj (Option.some.inj h)
      exact after?_eq_some_iff.1 hvar
    · obtain ⟨after, himport, hpair⟩ := Option.map_eq_some_iff.1 h
      obtain ⟨rfl, rfl⟩ := Prod.mk.inj hpair
      exact after?_eq_some_iff.1 himport
  · rintro rfl
    cases kind with
    | var => simp [keyword?]
    | importAlias =>
      have hvar : after? RequirementKind.var.keyword (RequirementKind.importAlias.keyword ++ rest) = none := rfl
      simp [keyword?, hvar]

theorem someBlank?_eq_some_iff {text rest : Text} :
    someBlank? text = some rest ↔
      ∃ blanks, blanks ≠ [] ∧ IsBlanks blanks ∧ Stops isBlank rest ∧ text = blanks ++ rest := by
  constructor
  · intro h
    cases text with
    | nil => cases h
    | cons c tail =>
      rw [someBlank?] at h
      split at h
      · rename_i hc
        obtain rfl := Option.some.inj h
        obtain ⟨blanks, hblanks, htail, hfirst⟩ := exists_skipBlank tail
        refine ⟨c :: blanks, List.cons_ne_nil _ _, List.forall_mem_cons.2 ⟨hc, hblanks⟩, hfirst, ?_⟩
        rw [List.cons_append, ← htail]
      · cases h
  · rintro ⟨blanks, hne, hblanks, hfirst, rfl⟩
    obtain ⟨c, tail, rfl⟩ := List.exists_cons_of_ne_nil hne
    obtain ⟨hc, htail⟩ := List.forall_mem_cons.1 hblanks
    rw [List.cons_append, someBlank?, if_pos hc, skipBlank_append htail hfirst]

/-- A word is as long as it can be. -/
theorem word?_eq_some_iff {text word rest : Text} :
    word? text = some (word, rest) ↔
      word ≠ [] ∧ (∀ c ∈ word, isWord c = true) ∧ Stops isWord rest ∧ text = word ++ rest := by
  constructor
  · intro h
    rw [word?] at h
    split at h
    · cases h
    · rename_i hne
      obtain ⟨rfl, rfl⟩ := Prod.mk.inj (Option.some.inj h)
      exact ⟨hne, fun c hc => List.mem_takeWhile_imp hc, stops_dropWhile isWord text,
        List.takeWhile_append_dropWhile.symm⟩
  · rintro ⟨hne, hword, hstop, rfl⟩
    rw [word?, List.takeWhile_append_of_pos hword, List.dropWhile_append_of_pos hword, hstop.takeWhile_eq,
      hstop.dropWhile_eq, List.append_nil]
    split
    · exact absurd rfl hne
    · rfl

/-- How a line states a requirement: its binding is a word behind blanks, and blanks may stand on both sides of the
equals sign. -/
inductive RequirementForm : Text → Requirement → Prop
  | intro {kind : RequirementKind} {a b c binding path : Text} {quote : Char} (hgap : a ≠ []) (ha : IsBlanks a)
    (hbinding : binding ≠ []) (hword : ∀ c ∈ binding, isWord c = true) (hfirst : Stops isBlank binding) (hb : IsBlanks b)
    (hstop : Stops isWord b) (hc : IsBlanks c) (hquote : IsQuote quote) (hpath : path ≠ [])
    (hm : quote ∉ path) :
    RequirementForm (kind.keyword ++ (a ++ (binding ++ (b ++ ("=".toList ++ (c ++ ("require(".toList ++
      quote :: (path ++ quote :: ");".toList)))))))) ⟨kind, binding, path⟩

theorem RequirementForm.binding {line : Text} {requirement : Requirement} (h : RequirementForm line requirement) :
    requirement.binding ≠ [] ∧ (∀ c ∈ requirement.binding, isWord c = true) ∧ Stops isBlank requirement.binding := by
  obtain ⟨-, -, hbinding, hword, hfirst, -⟩ := h
  exact ⟨hbinding, hword, hfirst⟩

theorem RequirementForm.path_ne_nil {line : Text} {requirement : Requirement} (h : RequirementForm line requirement) :
    requirement.path ≠ [] := by
  obtain ⟨-, -, -, -, -, -, -, -, -, hpath, -⟩ := h
  exact hpath

theorem RequirementForm.mem_line {line : Text} {requirement : Requirement} {c : Char} (h : RequirementForm line requirement)
    (hc : c ∈ requirement.path) : c ∈ line := by
  obtain ⟨⟩ := h
  simp [show c ∈ _ from hc]

theorem RequirementForm.head? {line : Text} {requirement : Requirement} (h : RequirementForm line requirement) :
    line.head? = some 'v' ∨ line.head? = some 'i' := by
  obtain @⟨kind⟩ := h
  cases kind with
  | var => exact .inl rfl
  | importAlias => exact .inr rfl

/-- The scan of a requirement up to its path. -/
theorem canonicalRequirement?_scan {kind : RequirementKind} {a b c binding : Text} (hgap : a ≠ []) (ha : IsBlanks a)
    (hbinding : binding ≠ []) (hword : ∀ c ∈ binding, isWord c = true) (hfirst : Stops isBlank binding) (hb : IsBlanks b)
    (hstop : Stops isWord b) (hc : IsBlanks c) (rest : Text) :
    canonicalRequirement? (kind.keyword ++ (a ++ (binding ++ (b ++ ("=".toList ++ (c ++ ("require(".toList ++
      rest))))))) = (do
        let (path, rest) ← quoted? rest
        if rest = ");".toList then some ⟨kind, binding, path⟩ else none) := by
  have hsign : ∀ rest, Stops isBlank ("=".toList ++ rest) := fun rest => stops_cons.2 (by decide)
  have hcall : ∀ rest, Stops isBlank ("require(".toList ++ rest) := fun rest => stops_cons.2 (by decide)
  have hbehind : ∀ rest, Stops isWord (b ++ ("=".toList ++ rest)) := fun rest =>
    hstop.append (stops_cons.2 (by decide))
  have hgapped : ∀ rest, someBlank? (a ++ (binding ++ rest)) = some (binding ++ rest) := fun rest =>
    someBlank?_eq_some_iff.2 ⟨a, hgap, ha, hfirst.append_of_ne_nil hbinding rest, rfl⟩
  have hbound : ∀ rest, word? (binding ++ (b ++ ("=".toList ++ rest))) = some (binding, b ++ ("=".toList ++ rest)) :=
    fun rest => word?_eq_some_iff.2 ⟨hbinding, hword, hbehind rest, rfl⟩
  simp only [canonicalRequirement?, keyword?_eq_some_iff.2 rfl, hgapped, hbound, skipBlank_append hb (hsign _),
    after?_append, skipBlank_append hc (hcall _), Option.bind_eq_bind, Option.bind_some]

/-- **The canonical requirements are the lines of that form.** -/
theorem canonicalRequirement?_eq_some_iff {line : Text} {requirement : Requirement} :
    canonicalRequirement? line = some requirement ↔ RequirementForm line requirement := by
  constructor
  · intro h
    rw [canonicalRequirement?] at h
    obtain ⟨⟨kind, r₁⟩, h₁, h⟩ := Option.bind_eq_some_iff.1 h
    obtain ⟨r₂, h₂, h⟩ := Option.bind_eq_some_iff.1 h
    obtain ⟨⟨binding, r₃⟩, h₃, h⟩ := Option.bind_eq_some_iff.1 h
    obtain ⟨r₄, h₄, h⟩ := Option.bind_eq_some_iff.1 h
    obtain ⟨r₅, h₅, h⟩ := Option.bind_eq_some_iff.1 h
    obtain ⟨⟨path, r₆⟩, h₆, h⟩ := Option.bind_eq_some_iff.1 h
    dsimp only at h
    split at h
    · rename_i hend
      obtain rfl := Option.some.inj h
      obtain ⟨a, hgap, ha, hskipped, rfl⟩ := someBlank?_eq_some_iff.1 h₂
      obtain ⟨hbinding, hword, hstop, rfl⟩ := word?_eq_some_iff.1 h₃
      obtain ⟨quote, hquote, hpath, hm, rfl⟩ := quoted?_eq_some_iff.1 h₆
      obtain ⟨b, hb, hrb, -⟩ := exists_skipBlank r₃
      obtain ⟨c, hc, hrc, -⟩ := exists_skipBlank r₄
      have hbstop : Stops isWord b := by
        rw [hrb] at hstop
        exact hstop.of_append
      rw [keyword?_eq_some_iff.1 h₁, hrb, after?_eq_some_iff.1 h₄, hrc, after?_eq_some_iff.1 h₅, hend]
      exact .intro hgap ha hbinding hword hskipped.of_append hb hbstop hc hquote hpath hm
    · cases h
  · rintro @⟨kind, a, b, c, binding, path, quote, hgap, ha, hbinding, hword, hfirst, hb, hstop, hc, hquote, hpath, hm⟩
    have hquoted : quoted? (quote :: (path ++ quote :: ");".toList)) = some (path, ");".toList) :=
      quoted?_eq_some_iff.2 ⟨quote, hquote, hpath, hm, rfl⟩
    rw [canonicalRequirement?_scan hgap ha hbinding hword hfirst hb hstop hc, hquoted]
    simp only [Option.bind_eq_bind, Option.bind_some, if_true]

theorem canonicalRequirement?_eq_none {line : Text} (hvar : line.head? ≠ some 'v') (himport : line.head? ≠ some 'i') :
    canonicalRequirement? line = none := by
  rw [Option.eq_none_iff_forall_ne_some]
  intro requirement hrequirement
  exact (canonicalRequirement?_eq_some_iff.1 hrequirement).head?.elim hvar himport

/-! ## The lines that are written -/

/-- **A written directive is read as its path.** -/
theorem canonicalReference?_referenceLine {path : Text} (hpath : path ≠ []) (hm : '"' ∉ path) :
    canonicalReference? (referenceLine path) = some path := by
  have hform : ReferenceForm ("///".toList ++ ([' '] ++ ("<reference".toList ++ ([' '] ++ ("path=".toList ++
      '"' :: (path ++ '"' :: ([' '] ++ ("/>".toList ++ [])))))))) path :=
    .intro (by decide) (by decide) (by decide) (by decide) (.inl rfl) hpath hm
  exact canonicalReference?_eq_some_iff.2 hform

/-- **A written requirement is read as itself.** -/
theorem canonicalRequirement?_line {requirement : Requirement} (hbinding : requirement.binding ≠ [])
    (hword : ∀ c ∈ requirement.binding, isWord c = true) (hfirst : Stops isBlank requirement.binding)
    (hpath : requirement.path ≠ []) (hm : '\'' ∉ requirement.path) :
    canonicalRequirement? requirement.line = some requirement := by
  have hform : RequirementForm (requirement.kind.keyword ++ ([' '] ++ (requirement.binding ++ ([' '] ++ ("=".toList ++
      ([' '] ++ ("require(".toList ++ '\'' :: (requirement.path ++ '\'' :: ");".toList)))))))) requirement :=
    .intro (List.cons_ne_nil _ _) (by decide) hbinding hword hfirst (by decide) (stops_cons.2 (by decide)) (by decide)
      (.inr rfl) hpath hm
  rw [Requirement.line, List.append_assoc, List.append_assoc, List.append_assoc, List.cons_append]
  exact canonicalRequirement?_eq_some_iff.2 hform

end Patterns
end DtsBundle
