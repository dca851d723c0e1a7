import DtsBundle.Proofs.Text.Classes
import DtsBundle.Proofs.Unit.Canonical
/-!
# The grammars of dependency lines

A scan has to be told where a word begins and where it ends, and `RequirementForm` says so.  Since no word character is
blank, these places are where they must be, and what is left is the grammar alone (`RequirementGrammar`): a keyword,
blanks, a word, an equals sign and a call, with blanks on both sides of the sign.

So **each scan accepts just what its grammar says, a line says one thing only, and no line is of both grammars**
(`canonical_accepts`).
-/
namespace DtsBundle.Patterns

open Text

/-- How a line states a requirement. -/
inductive RequirementGrammar : Text → Requirement → Prop
  | intro {kind : RequirementKind} {a b c binding path : Text} {quote : Char} (hgap : a ≠ []) (ha : IsBlanks a)
    (hbinding : binding ≠ []) (hword : ∀ c ∈ binding, isWord c = true) (hb : IsBlanks b) (hc : IsBlanks c)
    (hquote : IsQuote quote) (hpath : path ≠ []) (hm : quote ∉ path) :
    RequirementGrammar (kind.keyword ++ (a ++ (binding ++ (b ++ ("=".toList ++ (c ++ ("require(".toList ++
      quote :: (path ++ quote :: ");".toList)))))))) ⟨kind, binding, path⟩

theorem stops_isBlank_of_word {word : Text} (hword : ∀ c ∈ word, isWord c = true) : Stops isBlank word :=
  fun c hc => isBlank_eq_false_of_isWord (hword c (List.mem_of_mem_head? hc))

theorem stops_isWord_of_isBlanks {blanks : Text} (hblanks : IsBlanks blanks) : Stops isWord blanks :=
  fun c hc => isWord_eq_false_of_isBlank (hblanks c (List.mem_of_mem_head? hc))

/-- **Where a scan stops is told by the grammar.** -/
theorem requirementForm_iff {line : Text} {requirement : Requirement} :
    RequirementForm line requirement ↔ RequirementGrammar line requirement := by
  constructor
  · rintro ⟨hgap, ha, hbinding, hword, -, hb, -, hc, hquote, hpath, hm⟩
    exact .intro hgap ha hbinding hword hb hc hquote hpath hm
  · rintro ⟨hgap, ha, hbinding, hword, hb, hc, hquote, hpath, hm⟩
    exact .intro hgap ha hbinding hword (stops_isBlank_of_word hword) hb (stops_isWord_of_isBlanks hb) hc hquote hpath hm

theorem canonicalRequirement?_eq_some_iff_grammar {line : Text} {requirement : Requirement} :
    canonicalRequirement? line = some requirement ↔ RequirementGrammar line requirement :=
  canonicalRequirement?_eq_some_iff.trans requirementForm_iff

theorem RequirementGrammar.head? {line : Text} {requirement : Requirement} (h : RequirementGrammar line requirement) :
    line.head? = some 'v' ∨ line.head? = some 'i' :=
  (requirementForm_iff.2 h).head?

theorem ReferenceForm.unique {line path other : Text} (h : ReferenceForm line path) (h' : ReferenceForm line other) :
    path = other := by
  have hpath := canonicalReference?_eq_some_iff.2 h
  rw [canonicalReference?_eq_some_iff.2 h'] at hpath
  exact (Option.some.inj hpath).symm

theorem RequirementGrammar.unique {line : Text} {requirement other : Requirement} (h : RequirementGrammar line requirement)
    (h' : RequirementGrammar line other) : requirement = other := by
  have hrequirement := canonicalRequirement?_eq_some_iff_grammar.2 h
  rw [canonicalRequirement?_eq_some_iff_grammar.2 h'] at hrequirement
  exact (Option.some.inj hrequirement).symm

/-- A line of one grammar starts like none of the other. -/
theorem not_referenceForm_and_requirementGrammar {line path : Text} {requirement : Requirement}
    (href : ReferenceForm line path) (hreq : RequirementGrammar line requirement) : False := by
  have hhead := href.head?
  rcases hreq.head? with hstart | hstart
  · rw [hstart] at hhead
    exact absurd (Option.some.inj hhead) (by decide)
  · rw [hstart] at hhead
    exact absurd (Option.some.inj hhead) (by decide)

/-- **The canonical pair accepts what the two grammars say**, with what they say, and no line is accepted twice. -/
theorem canonical_accepts (line : Text) :
    (∀ path, canonical.reference? line = some path ↔ ReferenceForm line path) ∧
      (∀ requirement, canonical.requirement? line = some requirement ↔ RequirementGrammar line requirement) ∧
      (∀ path other, ReferenceForm line path → ReferenceForm line other → path = other) ∧
      (∀ requirement other, RequirementGrammar line requirement → RequirementGrammar line other → requirement = other) ∧
      (canonical.reference? line = none ∨ canonical.requirement? line = none) := by
  refine ⟨fun path => canonicalReference?_eq_some_iff, fun requirement => canonicalRequirement?_eq_some_iff_grammar,
    fun path other => ReferenceForm.unique, fun requirement other => RequirementGrammar.unique, ?_⟩
  by_contra h
  obtain ⟨href, hreq⟩ := not_or.1 h
  obtain ⟨path, hpath⟩ := Option.ne_none_iff_exists'.1 href
  obtain ⟨requirement, hrequirement⟩ := Option.ne_none_iff_exists'.1 hreq
  exact not_referenceForm_and_requirementGrammar (canonicalReference?_eq_some_iff.1 hpath)
    (canonicalRequirement?_eq_some_iff_grammar.1 hrequirement)

theorem canonical_accepts_spaced :
    ReferenceForm "///<reference\tpath='a\"b'/> ".toList "a\"b".toList ∧
      canonical.reference? "///<reference\tpath='a\"b'/> ".toList = some "a\"b".toList ∧
      RequirementGrammar "var \t_x1= require(\"it's\");".toList ⟨.var, "_x1".toList, "it's".toList⟩ ∧
      canonical.requirement? "var \t_x1= require(\"it's\");".toList = some ⟨.var, "_x1".toList, "it's".toList⟩ := by
  have href : ReferenceForm "///<reference\tpath='a\"b'/> ".toList "a\"b".toList :=
    canonicalReference?_eq_some_iff.1 (by decide +kernel)
  have hreq : RequirementGrammar "var \t_x1= require(\"it's\");".toList ⟨.var, "_x1".toList, "it's".toList⟩ :=
    canonicalRequirement?_eq_some_iff_grammar.1 (by decide +kernel)
  exact ⟨href, ((canonical_accepts _).1 _).2 href, hreq, ((canonical_accepts _).2.1 _).2 hreq⟩

end DtsBundle.Patterns
