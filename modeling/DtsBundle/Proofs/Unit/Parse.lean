import DtsBundle.Proofs.Unit.Canonical
import DtsBundle.Unit.Parse
/-!
# Reading a unit that was written

A unit that was read in the canonical forms can be written and read again.  Its dependencies are spelled as they were
found, so only a quote in a path can break the line it is written in; what is left is readable (`ReadablePath`,
`Requirement.Readable`).  **A unit with readable dependencies, whose body has no line that starts like a dependency, is
read back from its lines as it is** (`parse_ofLines_lines`).
-/
namespace DtsBundle

open Text Patterns

/-- A path whose directive is read as that path. -/
structure ReadablePath (path : Text) : Prop where
  ne_nil : path ≠ []
  line : '\n' ∉ path
  quote : '"' ∉ path

/-- A requirement whose statement is read as that requirement. -/
structure Requirement.Readable (requirement : Requirement) : Prop where
  binding_ne_nil : requirement.binding ≠ []
  word : ∀ c ∈ requirement.binding, isWord c = true
  first : Stops isBlank requirement.binding
  path_ne_nil : requirement.path ≠ []
  line : '\n' ∉ requirement.path
  quote : '\'' ∉ requirement.path

/-- A character that a dependency starts with: a slash, or the first letter of a keyword. -/
def isDependencyStart (c : Char) : Bool :=
  c == '/' || c == 'v' || c == 'i'

/-! ## One line -/

theorem Text.mem_of_mem_withoutReturn {c : Char} : ∀ {line : Text}, c ∈ withoutReturn line → c ∈ line
  | [], h => h
  | [d], h => by
    rw [withoutReturn] at h
    split at h
    · cases h
    · exact h
  | d :: e :: rest, h => by
    rw [withoutReturn] at h
    rcases List.mem_cons.1 h with rfl | h
    · exact List.mem_cons_self
    · exact List.mem_cons_of_mem _ (mem_of_mem_withoutReturn h)

theorem Text.head?_withoutReturn {c : Char} : ∀ {line : Text}, (withoutReturn line).head? = some c → line.head? = some c
  | [], h => h
  | [d], h => by
    rw [withoutReturn] at h
    split at h
    · cases h
    · exact h
  | d :: e :: rest, h => h

namespace SourceLine

variable {patterns : Patterns} {line : Text}

theorem reference?_classify_eq_some_iff {path : Text} :
    (classify patterns line).reference? = some path ↔ patterns.reference? (withoutReturn line) = some path := by
  rw [classify]
  split
  · rename_i found hfound
    rw [hfound]
    rfl
  · rename_i hnone
    rw [hnone]
    split <;> simp [reference?]

theorem requirement_of_requirement?_classify {requirement : Requirement}
    (h : (classify patterns line).requirement? = some requirement) :
    patterns.requirement? (withoutReturn line) = some requirement := by
  rw [classify] at h
  split at h
  · cases h
  · split at h
    · rename_i hfound
      rw [hfound]
      exact h
    · cases h

theorem eq_of_body?_classify {kept : Text} (h : (classify patterns line).body? = some kept) : kept = line := by
  rw [classify] at h
  split at h
  · cases h
  · split at h
    · cases h
    · exact (Option.some.inj h).symm

theorem withoutReturn_referenceLine (path : Text) : withoutReturn (referenceLine path) = referenceLine path :=
  withoutReturn_append (by decide) (by decide) _

theorem withoutReturn_line (requirement : Requirement) : withoutReturn requirement.line = requirement.line :=
  withoutReturn_append (by decide) (by decide) _

/-- A written requirement is no reference. -/
theorem canonicalReference?_line (requirement : Requirement) : canonicalReference? requirement.line = none := by
  refine canonicalReference?_eq_none ?_
  rcases requirement with ⟨kind, binding, path⟩
  cases kind with
  | var => exact fun h => absurd (Option.some.inj h) (by decide)
  | importAlias => exact fun h => absurd (Option.some.inj h) (by decide)

theorem classify_referenceLine {path : Text} (h : ReadablePath path) :
    classify .canonical (referenceLine path) = .reference path := by
  have hread : Patterns.canonical.reference? (referenceLine path) = some path :=
    canonicalReference?_referenceLine h.ne_nil h.quote
  rw [classify, withoutReturn_referenceLine, hread]

theorem classify_line {requirement : Requirement} (h : requirement.Readable) :
    classify .canonical requirement.line = .requirement requirement := by
  have hnone : Patterns.canonical.reference? requirement.line = none := canonicalReference?_line requirement
  have hsome : Patterns.canonical.requirement? requirement.line = some requirement :=
    canonicalRequirement?_line h.binding_ne_nil h.word h.first h.path_ne_nil h.quote
  rw [classify, withoutReturn_line, hnone, hsome]

/-- **A line that does not start like a dependency is none.** -/
theorem classify_of_stops (h : Stops isDependencyStart line) : classify .canonical line = .body line := by
  have hstart : ∀ c, isDependencyStart c = true → (withoutReturn line).head? ≠ some c := by
    intro c hc hhead
    rw [h c (head?_withoutReturn hhead)] at hc
    cases hc
  have href : Patterns.canonical.reference? (withoutReturn line) = none :=
    canonicalReference?_eq_none (hstart '/' (by decide))
  have hreq : Patterns.canonical.requirement? (withoutReturn line) = none :=
    canonicalRequirement?_eq_none (hstart 'v' (by decide)) (hstart 'i' (by decide))
  rw [classify, href, hreq]

end SourceLine

namespace SourceUnit

/-! ## What a unit is read from -/

/-- A reference was stated in its form, in one line. -/
theorem exists_referenceForm_of_mem {text path : Text} (h : path ∈ (parse text).references) :
    ∃ line, ReferenceForm line path ∧ '\n' ∉ path := by
  obtain ⟨sourceLine, hm, hsome⟩ := List.mem_filterMap.1 h
  obtain ⟨line, hline, rfl⟩ := List.mem_map.1 hm
  have hform := canonicalReference?_eq_some_iff.1 (SourceLine.reference?_classify_eq_some_iff.1 hsome)
  exact ⟨_, hform, fun hc => not_mem_of_mem_lines hline (mem_of_mem_withoutReturn (hform.mem_line hc))⟩

/-- A requirement was stated in its form, in one line. -/
theorem exists_requirementForm_of_mem {text : Text} {requirement : Requirement} (h : requirement ∈ (parse text).requirements) :
    ∃ line, RequirementForm line requirement ∧ '\n' ∉ requirement.path := by
  obtain ⟨sourceLine, hm, hsome⟩ := List.mem_filterMap.1 h
  obtain ⟨line, hline, rfl⟩ := List.mem_map.1 hm
  have hform := canonicalRequirement?_eq_some_iff.1 (SourceLine.requirement_of_requirement?_classify hsome)
  exact ⟨_, hform, fun hc => not_mem_of_mem_lines hline (mem_of_mem_withoutReturn (hform.mem_line hc))⟩

theorem readablePath_of_mem {text path : Text} (h : path ∈ (parse text).references) (hquote : '"' ∉ path) :
    ReadablePath path := by
  obtain ⟨line, hform, hline⟩ := exists_referenceForm_of_mem h
  exact ⟨hform.path_ne_nil, hline, hquote⟩

theorem readable_of_mem {text : Text} {requirement : Requirement} (h : requirement ∈ (parse text).requirements)
    (hquote : '\'' ∉ requirement.path) : requirement.Readable := by
  obtain ⟨line, hform, hline⟩ := exists_requirementForm_of_mem h
  obtain ⟨hbinding, hword, hfirst⟩ := hform.binding
  exact ⟨hbinding, hword, hfirst, hform.path_ne_nil, hline, hquote⟩

theorem not_mem_of_mem_body {text line : Text} (h : line ∈ (parse text).body) : '\n' ∉ line := by
  obtain ⟨sourceLine, hm, hsome⟩ := List.mem_filterMap.1 h
  obtain ⟨source, hsource, rfl⟩ := List.mem_map.1 hm
  rw [SourceLine.eq_of_body?_classify hsome]
  exact not_mem_of_mem_lines hsource

/-! ## What a unit is written as -/

/-- Lines that are sorted by what they are make the unit of just those. -/
theorem ofLines_sorted (references : List Text) (requirements : List Requirement) (body : List Text) :
    ofLines (references.map .reference ++ requirements.map .requirement ++ body.map .body) =
      ⟨references, requirements, body⟩ := by
  have hnone : ∀ {α β : Type} (items : List α), items.filterMap (fun _ => (none : Option β)) = [] := fun items =>
    List.filterMap_eq_nil_iff.2 fun _ _ => rfl
  simp [ofLines, List.filterMap_append, List.filterMap_map, Function.comp_def, SourceLine.reference?,
    SourceLine.requirement?, SourceLine.body?, hnone]

theorem not_mem_referenceLine {path : Text} (h : '\n' ∉ path) : '\n' ∉ referenceLine path :=
  not_mem_around (by decide +kernel) h (by decide)

theorem not_mem_line_of_not_mem {requirement : Requirement} (hbinding : '\n' ∉ requirement.binding)
    (hpath : '\n' ∉ requirement.path) : '\n' ∉ requirement.line := by
  have hkeyword : '\n' ∉ requirement.kind.keyword := by
    cases requirement.kind <;> decide
  have hbound : '\n' ∉ ' ' :: requirement.binding := List.not_mem_cons_of_ne_of_not_mem (by decide) hbinding
  exact not_mem_around (not_mem_around hkeyword hbound (by decide)) hpath (by decide)

theorem not_mem_line {requirement : Requirement} (hword : ∀ c ∈ requirement.binding, isWord c = true)
    (hpath : '\n' ∉ requirement.path) : '\n' ∉ requirement.line := by
  have hbinding : '\n' ∉ requirement.binding := fun hc => absurd (hword _ hc) (by decide)
  exact not_mem_line_of_not_mem hbinding hpath

theorem not_mem_of_mem_lines {unit : SourceUnit} (hreferences : ∀ path ∈ unit.references, '\n' ∉ path)
    (hrequirements : ∀ requirement ∈ unit.requirements,
      (∀ c ∈ requirement.binding, isWord c = true) ∧ '\n' ∉ requirement.path)
    (hbody : ∀ line ∈ unit.body, '\n' ∉ line) : ∀ line ∈ unit.lines, '\n' ∉ line := by
  intro line hm
  rw [lines, List.append_assoc, List.mem_append, List.mem_append, List.mem_map, List.mem_map] at hm
  rcases hm with ⟨path, hpath, rfl⟩ | ⟨requirement, hrequirement, rfl⟩ | hm
  · exact not_mem_referenceLine (hreferences path hpath)
  · exact not_mem_line (hrequirements requirement hrequirement).1 (hrequirements requirement hrequirement).2
  · exact hbody line hm

theorem parse_ofLines {lines : List Text} (hne : lines ≠ []) (h : ∀ line ∈ lines, '\n' ∉ line) :
    parse (Text.ofLines lines) = ofLines (lines.map (SourceLine.classify .canonical)) := by
  rw [parse, parseWith, Text.lines_ofLines hne h]

/-- **A unit is read back from its lines** if its dependencies are readable and no line of its body starts like one. -/
theorem parse_ofLines_lines {unit : SourceUnit} (hne : unit.lines ≠ [])
    (hreferences : ∀ path ∈ unit.references, ReadablePath path)
    (hrequirements : ∀ requirement ∈ unit.requirements, requirement.Readable)
    (hbody : ∀ line ∈ unit.body, '\n' ∉ line ∧ Stops isDependencyStart line) :
    parse (Text.ofLines unit.lines) = unit := by
  have hline : ∀ line ∈ unit.lines, '\n' ∉ line :=
    not_mem_of_mem_lines (fun path hm => (hreferences path hm).line)
      (fun requirement hm => ⟨(hrequirements requirement hm).word, (hrequirements requirement hm).line⟩)
      fun line hm => (hbody line hm).1
  have href : unit.references.map (SourceLine.classify .canonical ∘ referenceLine) = unit.references.map .reference :=
    List.map_congr_left fun path hpath => SourceLine.classify_referenceLine (hreferences path hpath)
  have hreq : unit.requirements.map (SourceLine.classify .canonical ∘ Requirement.line) =
      unit.requirements.map .requirement :=
    List.map_congr_left fun requirement hm => SourceLine.classify_line (hrequirements requirement hm)
  have hkept : unit.body.map (SourceLine.classify .canonical) = unit.body.map .body :=
    List.map_congr_left fun line hm => SourceLine.classify_of_stops (hbody line hm).2
  rw [parse_ofLines hne hline, lines, List.map_append, List.map_append, List.map_map, List.map_map, href, hreq, hkept,
    ofLines_sorted]

end SourceUnit
end DtsBundle
