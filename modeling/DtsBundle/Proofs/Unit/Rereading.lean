import DtsBundle.Proofs.Unit.Parse
/-!
# Reading a source again that was written out

A dependency can be stated in either quote, so that its path may hold the other one.  It is written in one quote, the
same for all, and nothing in a path is spelled differently for it: a path with that quote seems to end too early, the
line is no dependency any more, and **what was read as a dependency is read as a line of the body**
(`classify_referenceLine_of_mem`, `classify_line_of_mem`).

All else is read as it was (`parse_ofLines_lines_parse`), the body too, since a line of a body is looked at once more
just as it was before.  So **a source is read back as it was just when no path in it holds the quote it is written in**
(`parse_ofLines_lines_parse_iff`).
-/
namespace DtsBundle

open Text Patterns

namespace Patterns

/-- Behind a path that ended too early stands the quote that was to end it. -/
theorem mem_of_quoted? {quote : Char} {path rest found after : Text} (hm : quote ∈ path)
    (h : quoted? (quote :: (path ++ quote :: rest)) = some (found, after)) : quote ∈ after := by
  obtain ⟨other, -, -, hfound, htext⟩ := quoted?_eq_some_iff.1 h
  obtain ⟨rfl, htext⟩ := List.cons.inj htext
  have hcount := congrArg (List.count quote) htext
  rw [List.count_append, List.count_append, List.count_cons_self, List.count_cons_self,
    List.count_eq_zero.2 hfound] at hcount
  have hpath : 0 < path.count quote := List.count_pos_iff.2 hm
  exact List.count_pos_iff.1 (by omega)

/-- **A directive is not read if its path holds the quote it is written in.** -/
theorem canonicalReference?_referenceLine_eq_none {path : Text} (hm : '"' ∈ path) :
    canonicalReference? (referenceLine path) = none := by
  have hline : referenceLine path = "///".toList ++ ([' '] ++ ("<reference".toList ++ ([' '] ++ ("path=".toList ++
      '"' :: (path ++ '"' :: " />".toList))))) := rfl
  rw [hline, canonicalReference?_scan (by decide) (by decide), Option.eq_none_iff_forall_ne_some]
  intro found h
  obtain ⟨⟨path', after⟩, hquoted, h⟩ := Option.bind_eq_some_iff.1 h
  obtain ⟨rest, hmark, h⟩ := Option.bind_eq_some_iff.1 h
  -- behind the end mark there are blanks only, and the quote is none of them
  have hblanks : IsBlanks rest := by
    split at h
    · rename_i hend
      exact skipBlank_eq_nil_iff.1 (List.isEmpty_iff.1 hend)
    · cases h
  obtain ⟨blanks, hfront, hafter, -⟩ := exists_skipBlank after
  rw [after?_eq_some_iff.1 hmark] at hafter
  have hquote := mem_of_quoted? hm hquoted
  rw [hafter, List.mem_append, List.mem_append] at hquote
  rcases hquote with hquote | hquote | hquote
  · exact absurd (hfront _ hquote) (by decide)
  · exact absurd hquote (by decide)
  · exact absurd (hblanks _ hquote) (by decide)

/-- **A requirement is not read if its path holds the quote it is written in.** -/
theorem canonicalRequirement?_line_eq_none {requirement : Requirement} (hbinding : requirement.binding ≠ [])
    (hword : ∀ c ∈ requirement.binding, isWord c = true) (hfirst : Stops isBlank requirement.binding)
    (hm : '\'' ∈ requirement.path) : canonicalRequirement? requirement.line = none := by
  have hline : requirement.line = requirement.kind.keyword ++ ([' '] ++ (requirement.binding ++ ([' '] ++ ("=".toList ++
      ([' '] ++ ("require(".toList ++ '\'' :: (requirement.path ++ '\'' :: ");".toList))))))) := by
    rw [Requirement.line, List.append_assoc, List.append_assoc, List.append_assoc, List.cons_append]
    rfl
  rw [hline, canonicalRequirement?_scan (List.cons_ne_nil _ _) (by decide) hbinding hword hfirst (by decide)
    (stops_cons.2 (by decide)) (by decide), Option.eq_none_iff_forall_ne_some]
  intro found h
  obtain ⟨⟨path', after⟩, hquoted, h⟩ := Option.bind_eq_some_iff.1 h
  have hquote := mem_of_quoted? hm hquoted
  dsimp only at h
  split at h
  · rename_i hend
    rw [hend] at hquote
    exact absurd hquote (by decide)
  · cases h

end Patterns

namespace SourceLine

/-- What a reference is read as when it was written. -/
def ofReference (path : Text) : SourceLine :=
  if '"' ∈ path then body (referenceLine path) else reference path

/-- What a requirement is read as when it was written. -/
def ofRequirement (r : Requirement) : SourceLine :=
  if '\'' ∈ r.path then body r.line else requirement r

theorem classify_referenceLine_of_mem {path : Text} (hm : '"' ∈ path) :
    classify .canonical (referenceLine path) = .body (referenceLine path) := by
  have href : Patterns.canonical.reference? (referenceLine path) = none := canonicalReference?_referenceLine_eq_none hm
  have hhead : (referenceLine path).head? = some '/' := rfl
  have hreq : Patterns.canonical.requirement? (referenceLine path) = none :=
    canonicalRequirement?_eq_none (by rw [hhead]; decide) (by rw [hhead]; decide)
  rw [classify, withoutReturn_referenceLine, href, hreq]

theorem classify_line_of_eq_none {r : Requirement} (h : canonicalRequirement? r.line = none) :
    classify .canonical r.line = .body r.line := by
  have href : Patterns.canonical.reference? r.line = none := canonicalReference?_line r
  have hreq : Patterns.canonical.requirement? r.line = none := h
  rw [classify, withoutReturn_line, href, hreq]

theorem classify_line_of_mem {source : Text} {r : Requirement} (h : RequirementForm source r) (hm : '\'' ∈ r.path) :
    classify .canonical r.line = .body r.line := by
  obtain ⟨hbinding, hword, hfirst⟩ := h.binding
  exact classify_line_of_eq_none (canonicalRequirement?_line_eq_none hbinding hword hfirst hm)

theorem eq_body_of_body? {sourceLine : SourceLine} {line : Text} (h : sourceLine.body? = some line) :
    sourceLine = .body line := by
  cases sourceLine with
  | body kept => rw [Option.some.inj h]
  | reference path => cases h
  | requirement r => cases h

end SourceLine

namespace SourceUnit

/-! ## Line by line -/

variable {text : Text}

theorem classify_of_mem_references {path : Text} (h : path ∈ (parse text).references) :
    SourceLine.classify .canonical (referenceLine path) = .ofReference path := by
  rw [SourceLine.ofReference]
  split
  · rename_i hm
    exact SourceLine.classify_referenceLine_of_mem hm
  · rename_i hm
    exact SourceLine.classify_referenceLine (readablePath_of_mem h hm)

theorem classify_of_mem_requirements {requirement : Requirement} (h : requirement ∈ (parse text).requirements) :
    SourceLine.classify .canonical requirement.line = .ofRequirement requirement := by
  rw [SourceLine.ofRequirement]
  split
  · rename_i hm
    obtain ⟨source, hform, -⟩ := exists_requirementForm_of_mem h
    exact SourceLine.classify_line_of_mem hform hm
  · rename_i hm
    exact SourceLine.classify_line (readable_of_mem h hm)

/-- **A line of a body is one whenever it is looked at.** -/
theorem classify_of_mem_body {line : Text} (h : line ∈ (parse text).body) :
    SourceLine.classify .canonical line = .body line := by
  obtain ⟨sourceLine, hm, hsome⟩ := List.mem_filterMap.1 h
  obtain ⟨source, -, rfl⟩ := List.mem_map.1 hm
  obtain rfl := SourceLine.eq_of_body?_classify hsome
  exact SourceLine.eq_body_of_body? hsome

theorem not_mem_of_mem_lines_parse : ∀ line ∈ (parse text).lines, '\n' ∉ line := by
  refine not_mem_of_mem_lines ?_ ?_ fun line hm => not_mem_of_mem_body hm
  · intro path hm
    obtain ⟨source, -, hpath⟩ := exists_referenceForm_of_mem hm
    exact hpath
  · intro requirement hm
    obtain ⟨source, hform, hpath⟩ := exists_requirementForm_of_mem hm
    exact ⟨hform.binding.2.1, hpath⟩

/-! ## The whole unit -/

theorem ofLines_append (a b : List SourceLine) :
    ofLines (a ++ b) = ⟨(ofLines a).references ++ (ofLines b).references,
      (ofLines a).requirements ++ (ofLines b).requirements, (ofLines a).body ++ (ofLines b).body⟩ := by
  simp only [ofLines, List.filterMap_append]

@[simp] theorem ofLines_reference_cons (path : Text) (rest : List SourceLine) :
    ofLines (.reference path :: rest) = { ofLines rest with references := path :: (ofLines rest).references } := rfl

@[simp] theorem ofLines_requirement_cons (requirement : Requirement) (rest : List SourceLine) :
    ofLines (.requirement requirement :: rest) =
      { ofLines rest with requirements := requirement :: (ofLines rest).requirements } := rfl

@[simp] theorem ofLines_body_cons (line : Text) (rest : List SourceLine) :
    ofLines (.body line :: rest) = { ofLines rest with body := line :: (ofLines rest).body } := rfl

/-- There is always a line to write, since every line of a source goes somewhere. -/
theorem lines_parse_ne_nil (text : Text) : (parse text).lines ≠ [] := by
  rw [parse, parseWith, Text.lines, fields, List.map_cons]
  cases SourceLine.classify .canonical (cutFields '\n' text).1 <;> simp [lines]

theorem ofLines_ofReference (paths : List Text) :
    ofLines (paths.map .ofReference) = ⟨paths.filter ('"' ∉ ·), [], (paths.filter ('"' ∈ ·)).map referenceLine⟩ := by
  induction paths with
  | nil => rfl
  | cons path paths ih =>
    rw [List.map_cons, SourceLine.ofReference]
    by_cases hm : '"' ∈ path
    · simp [hm, ih]
    · simp [hm, ih]

theorem ofLines_ofRequirement (requirements : List Requirement) :
    ofLines (requirements.map .ofRequirement) =
      ⟨[], requirements.filter ('\'' ∉ ·.path), (requirements.filter ('\'' ∈ ·.path)).map Requirement.line⟩ := by
  induction requirements with
  | nil => rfl
  | cons requirement requirements ih =>
    rw [List.map_cons, SourceLine.ofRequirement]
    by_cases hm : '\'' ∈ requirement.path
    · simp [hm, ih]
    · simp [hm, ih]

theorem ofLines_body (lines : List Text) : ofLines (lines.map .body) = ⟨[], [], lines⟩ :=
  ofLines_sorted [] [] lines

/-- **What a source is read as once it was written out**: what it was read as, but for the dependencies whose path holds
the quote they are written in, which stand in front of the body as lines of it. -/
theorem parse_ofLines_lines_parse (text : Text) :
    parse (Text.ofLines (parse text).lines) =
      { references := (parse text).references.filter ('"' ∉ ·)
        requirements := (parse text).requirements.filter ('\'' ∉ ·.path)
        body := ((parse text).references.filter ('"' ∈ ·)).map referenceLine
          ++ ((parse text).requirements.filter ('\'' ∈ ·.path)).map Requirement.line ++ (parse text).body } := by
  have href : (parse text).references.map (SourceLine.classify .canonical ∘ referenceLine) =
      (parse text).references.map .ofReference :=
    List.map_congr_left fun path hm => classify_of_mem_references hm
  have hreq : (parse text).requirements.map (SourceLine.classify .canonical ∘ Requirement.line) =
      (parse text).requirements.map .ofRequirement :=
    List.map_congr_left fun requirement hm => classify_of_mem_requirements hm
  have hbody : (parse text).body.map (SourceLine.classify .canonical) = (parse text).body.map .body :=
    List.map_congr_left fun line hm => classify_of_mem_body hm
  rw [parse_ofLines (lines_parse_ne_nil text) not_mem_of_mem_lines_parse, lines, List.map_append, List.map_append,
    List.map_map, List.map_map, href, hreq, hbody, ofLines_append, ofLines_append, ofLines_ofReference,
    ofLines_ofRequirement, ofLines_body]
  simp only [List.append_nil, List.nil_append]

/-- **A source that is written out is read back as it was just when no path holds the quote it is written in.** -/
theorem parse_ofLines_lines_parse_iff (text : Text) :
    parse (Text.ofLines (parse text).lines) = parse text ↔
      (∀ path ∈ (parse text).references, '"' ∉ path) ∧ ∀ requirement ∈ (parse text).requirements, '\'' ∉ requirement.path := by
  rw [parse_ofLines_lines_parse]
  constructor
  · intro h
    have href : (parse text).references.filter ('"' ∉ ·) = (parse text).references := congrArg references h
    have hreq : (parse text).requirements.filter ('\'' ∉ ·.path) = (parse text).requirements := congrArg requirements h
    exact ⟨fun path hm => of_decide_eq_true (List.filter_eq_self.1 href path hm),
      fun requirement hm => of_decide_eq_true (List.filter_eq_self.1 hreq requirement hm)⟩
  · rintro ⟨href, hreq⟩
    have hkeptRef : (parse text).references.filter ('"' ∉ ·) = (parse text).references :=
      List.filter_eq_self.2 fun path hm => decide_eq_true (href path hm)
    have hkeptReq : (parse text).requirements.filter ('\'' ∉ ·.path) = (parse text).requirements :=
      List.filter_eq_self.2 fun requirement hm => decide_eq_true (hreq requirement hm)
    have hlostRef : (parse text).references.filter ('"' ∈ ·) = [] :=
      List.filter_eq_nil_iff.2 fun path hm h => href path hm (of_decide_eq_true h)
    have hlostReq : (parse text).requirements.filter ('\'' ∈ ·.path) = [] :=
      List.filter_eq_nil_iff.2 fun requirement hm h => hreq requirement hm (of_decide_eq_true h)
    rw [hkeptRef, hkeptReq, hlostRef, hlostReq]
    rfl

/-- **A dependency of either kind can be lost when it is written out**: its path holds the quote it was not stated
in. -/
theorem parse_ofLines_lines_parse_loses :
    parse "/// <reference path='a\"b' />\nvar x = require(\"it's\");".toList =
        ⟨["a\"b".toList], [⟨.var, ['x'], "it's".toList⟩], []⟩ ∧
      parse (Text.ofLines (parse "/// <reference path='a\"b' />\nvar x = require(\"it's\");".toList).lines) =
        ⟨[], [], ["/// <reference path=\"a\"b\" />".toList, "var x = require('it's');".toList]⟩ := by
  decide +kernel

end SourceUnit
end DtsBundle
