import DtsBundle.Proofs.Unit.Rereading
/-!
# A source, line by line

Whatever the patterns are, a source is read one line at a time, and what a line is does not depend on any other line.
Two sources with a line feed between them are read as the one and then the other, and **each line goes to one place**:
to the references if the patterns say so, else to the requirements if they say so, else to the body as it stands
(`parseWith_linewise`).

A line is looked at without the carriage return it may end with.  So **line ends of two characters change no
dependency**, and in the body they change the line ends only (`parseWith_withReturns`).
-/
namespace DtsBundle

namespace Text

theorem length_lines (text : Text) : (lines text).length = text.count '\n' + 1 := by
  induction text with
  | nil => rfl
  | cons c text ih =>
    unfold lines at ih ⊢
    rw [fields_cons, List.count_cons]
    by_cases hc : c = '\n'
    · rw [if_pos hc, List.length_cons, ih, hc]
      rfl
    · rw [if_neg hc, List.length_modifyHead, ih, if_neg (by simpa using hc)]

theorem lines_append_cons (a b : Text) : lines (a ++ '\n' :: b) = lines a ++ lines b :=
  fields_append_cons '\n' a b

theorem mem_of_mem_lines {text line : Text} {c : Char} (hline : line ∈ lines text) (hc : c ∈ line) : c ∈ text := by
  obtain ⟨k, hk⟩ := List.mem_iff_getElem?.1 hline
  rw [eq_around_line hk]
  simp [hc]

theorem lines_ne_nil (text : Text) : lines text ≠ [] :=
  List.cons_ne_nil _ _

theorem withoutReturn_concat : ∀ line : Text, withoutReturn (line ++ ['\r']) = line
  | [] => rfl
  | [c] => rfl
  | c :: d :: rest => by
    have ih := withoutReturn_concat (d :: rest)
    rw [List.cons_append] at ih
    rw [List.cons_append, List.cons_append, withoutReturn, ih]

theorem withoutReturn_of_not_mem {line : Text} (h : '\r' ∉ line) : withoutReturn line = line :=
  withoutReturn_of_getLast? fun hlast => h (List.mem_of_getLast? hlast)

/-- Lines with a carriage return at the end of each but the last. -/
def returned : List Text → List Text
  | [] => []
  | [last] => [last]
  | line :: next :: more => (line ++ ['\r']) :: returned (next :: more)

theorem returned_concat (last : Text) : ∀ front : List Text,
    returned (front ++ [last]) = front.map (· ++ ['\r']) ++ [last]
  | [] => rfl
  | [line] => rfl
  | line :: next :: more => by
    have ih := returned_concat last (next :: more)
    rw [List.cons_append] at ih
    rw [List.cons_append, List.cons_append, returned, ih]
    rfl

/-- **A line end of two characters is a carriage return at the end of the line.** -/
theorem lines_withReturns (text : Text) : lines (withReturns text) = returned (lines text) := by
  -- by induction on the lines of the text, the text being these put together
  suffices hof : ∀ ls : List Text, ls ≠ [] → (∀ line ∈ ls, '\n' ∉ line) → lines (withReturns (ofLines ls)) = returned ls by
    have h := hof (lines text) (lines_ne_nil text) fun line => not_mem_of_mem_lines
    rwa [ofLines_lines] at h
  intro ls hne hls
  induction ls with
  | nil => exact absurd rfl hne
  | cons line more ih =>
    have hline : '\n' ∉ line := hls line List.mem_cons_self
    cases more with
    | nil =>
      have hsole : ofLines [line] = line := by simp [ofLines]
      rw [hsole, withReturns_of_not_mem hline]
      exact fields_of_not_mem hline
    | cons next more =>
      have hfirst : ofLines (line :: next :: more) = line ++ '\n' :: ofLines (next :: more) := by
        simp [ofLines, List.intercalate_cons_cons]
      have hreturn : '\n' ∉ line ++ ['\r'] := by simpa using hline
      have hmore := ih (List.cons_ne_nil _ _) fun other hother => hls other (List.mem_cons_of_mem _ hother)
      rw [hfirst, withReturns_append, withReturns_break, withReturns_of_not_mem hline, List.append_cons,
        lines_append_cons, hmore, returned]
      rw [show lines (line ++ ['\r']) = [line ++ ['\r']] from fields_of_not_mem hreturn]
      rfl

end Text

open Text

/-- Whether the patterns leave a line to the body: without its carriage return it is neither a reference nor a
requirement. -/
def Patterns.leaves (patterns : Patterns) (line : Text) : Bool :=
  (patterns.reference? (withoutReturn line)).isNone && (patterns.requirement? (withoutReturn line)).isNone

theorem Patterns.leaves_iff {patterns : Patterns} {line : Text} :
    patterns.leaves line = true ↔
      patterns.reference? (withoutReturn line) = none ∧ patterns.requirement? (withoutReturn line) = none := by
  simp [leaves]

namespace SourceLine

variable {patterns : Patterns} {line : Text}

/-! ## One line -/

theorem reference?_classify : (classify patterns line).reference? = patterns.reference? (withoutReturn line) := by
  unfold classify
  split
  · rename_i hpath
    rw [hpath]
    rfl
  · rename_i hnone
    rw [hnone]
    split <;> rfl

theorem requirement?_classify :
    (classify patterns line).requirement? =
      if (patterns.reference? (withoutReturn line)).isSome then none else patterns.requirement? (withoutReturn line) := by
  unfold classify
  split
  · rename_i hpath
    rw [hpath]
    rfl
  · rename_i hnone
    rw [hnone]
    split
    · rename_i hrequirement
      rw [hrequirement]
      rfl
    · rename_i hnone'
      rw [hnone']
      rfl

theorem classify_of_leaves (h : patterns.leaves line = true) : classify patterns line = .body line := by
  obtain ⟨href, hreq⟩ := Patterns.leaves_iff.1 h
  rw [classify, href, hreq]

theorem body?_classify : (classify patterns line).body? = Option.guard patterns.leaves line := by
  by_cases h : patterns.leaves line = true
  · rw [classify_of_leaves h, Option.guard_eq_some_iff.2 ⟨rfl, h⟩]
    rfl
  · rw [Option.guard_eq_none_iff.2 (Bool.not_eq_true _ ▸ h)]
    unfold classify
    split
    · rfl
    · rename_i href
      split
      · rfl
      · rename_i hreq
        exact absurd (Patterns.leaves_iff.2 ⟨href, hreq⟩) h

/-- What a line is once a carriage return is put at its end. -/
def returned : SourceLine → SourceLine
  | body line => body (line ++ ['\r'])
  | other => other

/-- **A carriage return at its end does not change what a line is.** -/
theorem classify_concat_return (h : '\r' ∉ line) :
    classify patterns (line ++ ['\r']) = (classify patterns line).returned := by
  have hline : withoutReturn line = line := withoutReturn_of_not_mem h
  unfold classify
  rw [withoutReturn_concat, hline]
  cases patterns.reference? line with
  | some path => rfl
  | none => cases patterns.requirement? line <;> rfl

end SourceLine

namespace SourceUnit

/-! ## All lines -/

/-- Every line counts once, wherever it goes. -/
theorem length_ofLines (sourceLines : List SourceLine) :
    (ofLines sourceLines).references.length + (ofLines sourceLines).requirements.length + (ofLines sourceLines).body.length =
      sourceLines.length := by
  induction sourceLines with
  | nil => rfl
  | cons first rest ih =>
    cases first <;> simp <;> omega

theorem ofLines_map_returned (sourceLines : List SourceLine) :
    ofLines (sourceLines.map SourceLine.returned) =
      { ofLines sourceLines with body := (ofLines sourceLines).body.map (· ++ ['\r']) } := by
  induction sourceLines with
  | nil => rfl
  | cons first rest ih =>
    cases first <;> simp [SourceLine.returned, ih]

variable (patterns : Patterns)

theorem parseWith_append (a b : Text) :
    parseWith patterns (a ++ '\n' :: b) =
      ⟨(parseWith patterns a).references ++ (parseWith patterns b).references,
        (parseWith patterns a).requirements ++ (parseWith patterns b).requirements,
        (parseWith patterns a).body ++ (parseWith patterns b).body⟩ := by
  rw [parseWith, lines_append_cons, List.map_append, ofLines_append]
  rfl

theorem references_parseWith (text : Text) :
    (parseWith patterns text).references = (Text.lines text).filterMap fun line => patterns.reference? (withoutReturn line) := by
  have hline : SourceLine.reference? ∘ SourceLine.classify patterns = fun line => patterns.reference? (withoutReturn line) :=
    funext fun line => SourceLine.reference?_classify
  rw [← hline, ← List.filterMap_map]
  rfl

theorem requirements_parseWith (text : Text) :
    (parseWith patterns text).requirements = (Text.lines text).filterMap fun line =>
      if (patterns.reference? (withoutReturn line)).isSome then none else patterns.requirement? (withoutReturn line) := by
  have hline : SourceLine.requirement? ∘ SourceLine.classify patterns = fun line =>
      if (patterns.reference? (withoutReturn line)).isSome then none else patterns.requirement? (withoutReturn line) :=
    funext fun line => SourceLine.requirement?_classify
  rw [← hline, ← List.filterMap_map]
  rfl

theorem body_parseWith (text : Text) : (parseWith patterns text).body = (Text.lines text).filter patterns.leaves := by
  have hline : SourceLine.body? ∘ SourceLine.classify patterns = Option.guard patterns.leaves :=
    funext fun line => SourceLine.body?_classify
  rw [← List.filterMap_eq_filter, ← hline, ← List.filterMap_map]
  rfl

/-- **A source is read line by line, and each line goes to one place.** -/
theorem parseWith_linewise :
    (∀ a b, parseWith patterns (a ++ '\n' :: b) =
      { references := (parseWith patterns a).references ++ (parseWith patterns b).references
        requirements := (parseWith patterns a).requirements ++ (parseWith patterns b).requirements
        body := (parseWith patterns a).body ++ (parseWith patterns b).body }) ∧
    ∀ text,
      (parseWith patterns text).references.length + (parseWith patterns text).requirements.length
          + (parseWith patterns text).body.length = text.count '\n' + 1 ∧
        (parseWith patterns text).references =
          (Text.lines text).filterMap (fun line => patterns.reference? (withoutReturn line)) ∧
        (parseWith patterns text).requirements =
          (Text.lines text).filterMap (fun line =>
            if (patterns.reference? (withoutReturn line)).isSome then none
            else patterns.requirement? (withoutReturn line)) ∧
        (parseWith patterns text).body = (Text.lines text).filter patterns.leaves ∧
        ∀ line ∈ (parseWith patterns text).body,
          patterns.reference? (withoutReturn line) = none ∧ patterns.requirement? (withoutReturn line) = none := by
  refine ⟨parseWith_append patterns, fun text => ⟨?_, references_parseWith patterns text,
    requirements_parseWith patterns text, body_parseWith patterns text, fun line hline => ?_⟩⟩
  · rw [parseWith, length_ofLines, List.length_map, Text.length_lines]
  · rw [body_parseWith] at hline
    exact Patterns.leaves_iff.1 (List.mem_filter.1 hline).2

/-- A pair for which a sharp starts a reference, and either mark a requirement. -/
def marks : Patterns where
  reference? line := if line.head? = some '#' then some line.tail else none
  requirement? line := if line.head? = some '#' ∨ line.head? = some '!' then some ⟨.var, line.tail, line.tail⟩ else none

theorem parseWith_linewise_marks :
    parseWith marks ("#a\r\nb\r".toList ++ '\n' :: "!c\n\n#d".toList) =
        ⟨[['a'], ['d']], [⟨.var, ['c'], ['c']⟩], ["b\r".toList, []]⟩ ∧
      "b\r".toList ∈ (parseWith marks "#a\r\nb\r".toList).body ∧ marks.reference? ['b'] = none ∧
        marks.requirement? ['b'] = none := by
  obtain ⟨happend, hlines⟩ := parseWith_linewise marks
  have hmem : "b\r".toList ∈ (parseWith marks "#a\r\nb\r".toList).body := by decide
  have hleft := (hlines "#a\r\nb\r".toList).2.2.2.2 "b\r".toList hmem
  refine ⟨?_, hmem, hleft⟩
  rw [happend]
  decide

/-! ## Line ends of two characters -/

theorem body_ofLines_singleton (line : Text) :
    (ofLines [SourceLine.classify patterns line]).body = if patterns.leaves line then [line] else [] := by
  have hbody : (ofLines [SourceLine.classify patterns line]).body = (Option.guard patterns.leaves line).toList := by
    rw [← SourceLine.body?_classify]
    cases SourceLine.classify patterns line <;> rfl
  rw [hbody, Option.guard]
  split <;> rfl

/-- **With line ends of two characters a source states the same**, and its body has the same lines with a carriage return
at the end of each, unless this is the last line of the source. -/
theorem parseWith_withReturns {text : Text} (h : '\r' ∉ text) :
    parseWith patterns (withReturns text) =
      { references := (parseWith patterns text).references
        requirements := (parseWith patterns text).requirements
        body :=
          if (Text.lines text).getLast?.any patterns.leaves then returned (parseWith patterns text).body
          else (parseWith patterns text).body.map (· ++ ['\r']) } := by
  obtain ⟨front, last, hls⟩ : ∃ front last, Text.lines text = front ++ [last] :=
    ⟨_, _, (List.dropLast_concat_getLast (lines_ne_nil text)).symm⟩
  have hfront : (front.map (· ++ ['\r'])).map (SourceLine.classify patterns) =
      (front.map (SourceLine.classify patterns)).map SourceLine.returned := by
    rw [List.map_map, List.map_map]
    refine List.map_congr_left fun line hline => SourceLine.classify_concat_return fun hreturn => h ?_
    exact mem_of_mem_lines (hls ▸ List.mem_append_left [last] hline) hreturn
  unfold parseWith
  rw [lines_withReturns, hls, returned_concat, List.map_append, List.map_append, hfront, ofLines_append, ofLines_append,
    ofLines_map_returned, List.map_singleton, body_ofLines_singleton, List.getLast?_concat, Option.any_some]
  by_cases hlast : patterns.leaves last = true
  · rw [if_pos hlast, if_pos hlast, returned_concat]
  · rw [if_neg hlast, if_neg hlast, List.append_nil, List.append_nil]

theorem parseWith_withReturns_fed :
    '\r' ∉ "a\nimport b = require('c');\n\nd".toList ∧
      parseWith .canonical (withReturns "a\nimport b = require('c');\n\nd".toList) =
        ⟨[], [⟨.importAlias, ['b'], ['c']⟩], ["a\r".toList, ['\r'], ['d']]⟩ := by
  have hreturn : '\r' ∉ "a\nimport b = require('c');\n\nd".toList := by decide +kernel
  refine ⟨hreturn, ?_⟩
  rw [parseWith_withReturns .canonical hreturn]
  decide +kernel

end SourceUnit
end DtsBundle
