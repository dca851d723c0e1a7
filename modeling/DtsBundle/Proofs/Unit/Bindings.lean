import DtsBundle.Proofs.Identifier
import DtsBundle.Proofs.Unit.Grammar
import DtsBundle.Proofs.Unit.Rereading
/-!
# Bindings that are identifiers

The characters of an identifier are word characters but for one: the dollar sign.  A scan that looks for a word stops at
it, and behind a word the equals sign is to follow.  So of all the requirements that bind an identifier **those are read
back whose binding has no dollar sign** (`requirement?_line_iff`); a statement with any other of these bindings is no
requirement to the scan, and stays a line of the body.
-/
namespace DtsBundle

open Text Patterns

theorem isWord_of_isIdentifierChar {c : Char} (h : isIdentifierChar c = true) (hc : c ≠ '$') : isWord c = true := by
  unfold isIdentifierChar at h
  have hword : (c.isAlphanum || c == '_') = true := (Bool.or_eq_true_iff.1 h).resolve_right (by simpa using hc)
  have hascii : c.toNat < 0x80 := by
    have hranges := isAlphanum_or_lowLine_iff.1 hword
    omega
  rw [isWord, if_pos hascii]
  exact hword

theorem isBlank_eq_false_of_isIdentifierChar {c : Char} (h : isIdentifierChar c = true) : isBlank c = false := by
  by_cases hc : c = '$'
  · rw [hc]
    decide
  · exact isBlank_eq_false_of_isWord (isWord_of_isIdentifierChar h hc)

theorem ne_nil_of_isIdentifier {name : Text} (h : isIdentifier name = true) : name ≠ [] := by
  rintro rfl
  cases h

namespace Patterns

/-- What a word leaves is what follows all word characters. -/
theorem eq_dropWhile_of_word? {text word rest : Text} (h : word? text = some (word, rest)) : rest = text.dropWhile isWord := by
  obtain ⟨-, hword, hstop, rfl⟩ := word?_eq_some_iff.1 h
  rw [List.dropWhile_append_of_pos hword, hstop.dropWhile_eq]

/-- Behind a keyword and the word that follows, a scan expects the equals sign, or blanks in front of it. -/
theorem canonicalRequirement?_eq_none_behind_word {kind : RequirementKind} {text rest : Text} {c : Char} (hfirst : Stops isBlank text)
    (hrest : text.dropWhile isWord = c :: rest) (hblank : isBlank c = false) (hsign : c ≠ '=') :
    canonicalRequirement? (kind.keyword ++ ([' '] ++ text)) = none := by
  have hgap : someBlank? ([' '] ++ text) = some text :=
    someBlank?_eq_some_iff.2 ⟨[' '], List.cons_ne_nil _ _, by decide, hfirst, rfl⟩
  have hskip : skipBlank (c :: rest) = c :: rest := Stops.dropWhile_eq (stops_cons.2 hblank)
  rw [Option.eq_none_iff_forall_ne_some]
  intro found h
  simp only [canonicalRequirement?, keyword?_eq_some_iff.2 rfl, hgap, Option.bind_eq_bind, Option.bind_some] at h
  obtain ⟨⟨binding, behind⟩, hword, h⟩ := Option.bind_eq_some_iff.1 h
  obtain ⟨after, hafter, -⟩ := Option.bind_eq_some_iff.1 h
  rw [eq_dropWhile_of_word? hword, hrest, hskip, after?_eq_some_iff] at hafter
  exact hsign (List.cons.inj hafter).1

/-- **A scan does not get past a dollar sign in a binding.** -/
theorem canonicalRequirement?_line_eq_none_of_dollar {requirement : Requirement}
    (hbinding : isIdentifier requirement.binding = true) (hdollar : '$' ∈ requirement.binding) :
    canonicalRequirement? requirement.line = none := by
  have hchars : ∀ c ∈ requirement.binding, isIdentifierChar c = true := fun c => isIdentifierChar_of_mem hbinding
  obtain ⟨word, more, hsplit, hnot⟩ := List.eq_append_cons_of_mem hdollar
  have hword : ∀ c ∈ word, isWord c = true := fun c hc =>
    isWord_of_isIdentifierChar (hchars c (by simp [hsplit, hc])) fun he => hnot (he ▸ hc)
  generalize hbehind : " = require('".toList ++ (requirement.path ++ "');".toList) = behind
  have hline : requirement.line = requirement.kind.keyword ++ ([' '] ++ (requirement.binding ++ behind)) := by
    rw [Requirement.line, List.append_assoc, List.append_assoc, List.append_assoc, hbehind]
    rfl
  have hfirst : Stops isBlank (requirement.binding ++ behind) :=
    Stops.append_of_ne_nil (fun c hc => isBlank_eq_false_of_isIdentifierChar (hchars c (List.mem_of_mem_head? hc)))
      (ne_nil_of_isIdentifier hbinding) behind
  -- all word characters end in front of the dollar sign
  have hrest : (requirement.binding ++ behind).dropWhile isWord = '$' :: (more ++ behind) := by
    rw [hsplit, List.append_assoc, List.dropWhile_append_of_pos hword]
    exact Stops.dropWhile_eq (stops_cons.2 (by decide))
  rw [hline]
  exact canonicalRequirement?_eq_none_behind_word hfirst hrest (by decide) (by decide)

end Patterns

namespace Requirement

variable {requirement : Requirement}

/-- A requirement that can be read back, but for a dollar sign in its binding. -/
theorem readable_of_isIdentifier (hbinding : isIdentifier requirement.binding = true) (hdollar : '$' ∉ requirement.binding)
    (hpath : requirement.path ≠ []) (hline : '\n' ∉ requirement.path) (hquote : '\'' ∉ requirement.path) :
    requirement.Readable where
  binding_ne_nil := ne_nil_of_isIdentifier hbinding
  word := fun _ hc =>
    isWord_of_isIdentifierChar (isIdentifierChar_of_mem hbinding hc) fun he => hdollar (he ▸ hc)
  first := fun _ hc =>
    isBlank_eq_false_of_isIdentifierChar (isIdentifierChar_of_mem hbinding (List.mem_of_mem_head? hc))
  path_ne_nil := hpath
  line := hline
  quote := hquote

/-- **A requirement that binds an identifier is read back just when its binding has no dollar sign**; with one, its
statement is a line of the body. -/
theorem requirement?_line_iff (hbinding : isIdentifier requirement.binding = true) (hpath : requirement.path ≠ [])
    (hline : '\n' ∉ requirement.path) (hquote : '\'' ∉ requirement.path) :
    (Patterns.canonical.requirement? requirement.line = some requirement ↔ '$' ∉ requirement.binding) ∧
      SourceUnit.parse requirement.line =
        if '$' ∈ requirement.binding then ⟨[], [], [requirement.line]⟩ else ⟨[], [requirement], []⟩ := by
  have hfeed : '\n' ∉ requirement.line :=
    SourceUnit.not_mem_line_of_not_mem (not_mem_of_isIdentifier hbinding (by decide)) hline
  have hparse : SourceUnit.parse requirement.line =
      SourceUnit.ofLines [SourceLine.classify .canonical requirement.line] := by
    rw [SourceUnit.parse, SourceUnit.parseWith, Text.lines, fields_of_not_mem hfeed, List.map_singleton]
  by_cases hdollar : '$' ∈ requirement.binding
  · have hnone : Patterns.canonical.requirement? requirement.line = none :=
      canonicalRequirement?_line_eq_none_of_dollar hbinding hdollar
    refine ⟨by simp [hnone, hdollar], ?_⟩
    rw [hparse, SourceLine.classify_line_of_eq_none hnone, if_pos hdollar]
    rfl
  · have hreadable := readable_of_isIdentifier hbinding hdollar hpath hline hquote
    have hsome : Patterns.canonical.requirement? requirement.line = some requirement :=
      canonicalRequirement?_line hreadable.binding_ne_nil hreadable.word hreadable.first hpath hquote
    refine ⟨by simp [hsome, hdollar], ?_⟩
    rw [hparse, SourceLine.classify_line hreadable, if_neg hdollar]
    rfl

/-- A requirement whose binding and path have what is unusual and can still be read. -/
def underlined : Requirement :=
  ⟨.var, "_Q9".toList, "./a \"b\"".toList⟩

/-- The same with a dollar sign in its binding. -/
def priced : Requirement :=
  { underlined with binding := "_Q$9".toList }

theorem requirement?_line_iff_priced :
    (isIdentifier underlined.binding = true ∧ underlined.path ≠ [] ∧ '\n' ∉ underlined.path ∧ '\'' ∉ underlined.path ∧
        Patterns.canonical.requirement? underlined.line = some underlined) ∧
      isIdentifier priced.binding = true ∧ SourceUnit.parse priced.line = ⟨[], [], [priced.line]⟩ := by
  have hpath : underlined.path ≠ [] := by decide
  have hline : '\n' ∉ underlined.path := by decide
  have hquote : '\'' ∉ underlined.path := by decide
  have hbinding : isIdentifier underlined.binding = true := by decide
  have hpriced : isIdentifier priced.binding = true := by decide
  refine ⟨⟨hbinding, hpath, hline, hquote, ?_⟩, hpriced, ?_⟩
  · exact (requirement?_line_iff hbinding hpath hline hquote).1.2 (by decide)
  · rw [(requirement?_line_iff hpriced hpath hline hquote).2, if_pos (by decide)]

/-- **A dollar sign is an identifier, and what it is bound to is not required.** -/
theorem requirement?_line_misses_dollar :
    isIdentifier ['$'] = true ∧
      Patterns.canonical.requirement? (Requirement.mk .importAlias ['$'] "jquery".toList).line = none ∧
      SourceUnit.parse (Requirement.mk .importAlias ['$'] "jquery".toList).line =
        ⟨[], [], ["import $ = require('jquery');".toList]⟩ := by
  decide +kernel

end Requirement
end DtsBundle
