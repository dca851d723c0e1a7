import DtsBundle.Proofs.Text.Occurrence
/-!
# What an edit changes

Each of the two edits changes one place or none, and the second works on what the first has left.  So **the result is the
declaration with one header in quotes and without its first export assignment, the line end behind it included**, as far
as there was a place for either, and all else is as it was (`edit_changes`).

The assignment is looked for as a plain text, wherever it may begin.  A statement such as `import reexport = p;` ends with
it, and is cut in two if it comes first (`edit_cuts_alias`): **what goes is a statement of its own just when every
statement that only ends like one stands behind one** (`edit_removes_statement_iff`).
-/
namespace DtsBundle

open DtsBundle.Bundle (exportLine)

/-- Whether a text ends with an identifier character. -/
def endsInName (before : Text) : Bool :=
  before.getLast?.any isIdentifierChar

/-- What is left of a text behind the one line end it starts with, if it starts with one. -/
inductive Text.BehindLineEnd : Text → Text → Prop where
  | two (rest : Text) : BehindLineEnd ('\r' :: '\n' :: rest) rest
  | one (rest : Text) : BehindLineEnd ('\n' :: rest) rest
  | none {text : Text} : ¬ ['\r', '\n'] <+: text → ¬ ['\n'] <+: text → BehindLineEnd text text

theorem Text.behindLineEnd_withoutLineEnd (text : Text) : BehindLineEnd text (withoutLineEnd text) := by
  unfold withoutLineEnd
  split
  · exact .two _
  · exact .one _
  · rename_i htwo hone
    refine .none ?_ ?_
    · rintro ⟨rest, rfl⟩
      exact htwo rest rfl
    · rintro ⟨rest, rfl⟩
      exact hone rest rfl

theorem Text.BehindLineEnd.length_le {behind rest : Text} (h : BehindLineEnd behind rest) : rest.length ≤ behind.length := by
  cases h with
  | two => exact Nat.le_add_right _ 2
  | one => exact Nat.le_add_right _ 1
  | none => exact Nat.le_refl _

namespace Declaration

/-- What the first edit makes of a text: one header in it, where a name ends, is put in quotes, or nothing is changed. -/
inductive Headed (name text : Text) : Bool → Text → Prop where
  | kept : Headed name text false text
  | quoted {before behind : Text} : text = before ++ header name ++ behind → continuesName behind = false →
      Headed name text true (before ++ publishedHeader name ++ behind)

/-- What the second edit makes of a text: its first export assignment goes with the line end behind it, or there is
none. -/
inductive Stripped (name text : Text) : Bool → Text → Prop where
  | kept : ¬ exportLine name <:+: text → Stripped name text false text
  | removed {before behind rest : Text} : Text.IsFirst (exportLine name) text before behind →
      Text.BehindLineEnd behind rest → Stripped name text true (before ++ rest)

variable {name text headed edited : Text} {found : Bool}

theorem headed_withHeader? (name text : Text) :
    Headed name text (withHeader? name text).isSome ((withHeader? name text).getD text) := by
  unfold withHeader?
  cases hcut : Text.cutAtName? (header name) 0 text with
  | none => exact .kept
  | some place =>
    have hnamed := Text.cutAtName?_eq_some hcut
    exact .quoted hnamed.text_eq hnamed.ends

theorem stripped_withoutExport? (name text : Text) :
    Stripped name text (withoutExport? name text).isSome ((withoutExport? name text).getD text) := by
  unfold withoutExport?
  cases hcut : Text.cutAt? (exportLine name) text with
  | none =>
    refine .kept ?_
    rintro ⟨before, behind, htext⟩
    exact Text.cutAt?_eq_none_iff.1 hcut before behind htext.symm
  | some place => exact .removed (Text.cutAt?_eq_some_iff.1 hcut) (Text.behindLineEnd_withoutLineEnd place.2)

theorem edit_eq {name text : Text} {quoted stripped : Option Text} (hquoted : withHeader? name text = quoted)
    (hstripped : withoutExport? name (quoted.getD text) = stripped) :
    edit name text = ⟨stripped.getD (quoted.getD text), quoted.isSome, stripped.isSome⟩ := by
  subst hquoted hstripped
  rfl

/-- Between the two edits there is a text that both speak of. -/
theorem exists_headed (name text : Text) :
    ∃ headed, Headed name text (edit name text).headerQuoted headed ∧
      Stripped name headed (edit name text).exportRemoved (edit name text).text := by
  rw [edit_eq rfl rfl]
  exact ⟨_, headed_withHeader? name text, stripped_withoutExport? name _⟩

theorem length_header (name : Text) : (header name).length = 15 + name.length := by
  unfold header
  rw [List.length_append]
  have hfront : "declare module ".toList.length = 15 := by decide
  rw [hfront]

theorem length_publishedHeader (name : Text) : (publishedHeader name).length = 16 + name.length + 1 := by
  unfold publishedHeader
  rw [List.length_append, List.length_append]
  have hfront : "declare module \"".toList.length = 16 := by decide
  rw [hfront, List.length_singleton]

theorem length_exportLine (name : Text) : (exportLine name).length = 9 + name.length + 1 := by
  unfold exportLine
  rw [List.length_append, List.length_append]
  have hfront : "export = ".toList.length = 9 := by decide
  have hend : ";".toList.length = 1 := by decide
  rw [hfront, hend]

theorem Headed.eq (h : Headed name text false headed) : headed = text := by
  cases h
  rfl

theorem Stripped.eq (h : Stripped name text false edited) : edited = text := by
  cases h
  rfl

/-- The quotes add two characters. -/
theorem Headed.length (h : Headed name text found headed) : headed.length = text.length + 2 * found.toNat := by
  cases h with
  | kept => rfl
  | quoted htext =>
    rw [htext]
    simp only [List.length_append, length_header, length_publishedHeader, Bool.toNat_true]
    omega

/-- An assignment has at least ten characters. -/
theorem Stripped.length (h : Stripped name text found edited) : edited.length + 10 * found.toNat ≤ text.length := by
  cases h with
  | kept => exact Nat.le_refl _
  | removed hfirst hrest =>
    have hshort := hrest.length_le
    rw [hfirst.text_eq]
    simp only [List.length_append, length_exportLine, Bool.toNat_true]
    omega

theorem Stripped.eq_false_iff (h : Stripped name text found edited) : found = false ↔ ¬ exportLine name <:+: text := by
  cases h with
  | kept hnone => exact ⟨fun _ => hnone, fun _ => rfl⟩
  | removed hfirst =>
    exact ⟨fun h => (by cases h), fun hnone => absurd ⟨_, _, hfirst.text_eq.symm⟩ hnone⟩

/-- **An edit changes one header, one export assignment and nothing else**, and it changes nothing just when it finds
neither. -/
theorem edit_changes (name text : Text) :
    ∃ headed, Headed name text (edit name text).headerQuoted headed ∧
      Stripped name headed (edit name text).exportRemoved (edit name text).text ∧
      ((edit name text).exportRemoved = false ↔ ¬ exportLine name <:+: headed) ∧
      ((edit name text).text = text ↔ (edit name text).headerQuoted = false ∧ (edit name text).exportRemoved = false) := by
  obtain ⟨headed, hheaded, hstripped⟩ := exists_headed name text
  refine ⟨headed, hheaded, hstripped, hstripped.eq_false_iff, ?_, ?_⟩
  · intro hsame
    have hlonger := hheaded.length
    have hshorter := hstripped.length
    rw [hsame] at hshorter
    have hremoved : (edit name text).exportRemoved = false := by
      have hquotes := Bool.toNat_le (edit name text).headerQuoted
      exact Bool.toNat_eq_zero.1 (by omega)
    rw [hremoved] at hstripped
    have hquoted : (edit name text).headerQuoted.toNat = 0 := by
      rw [← hstripped.eq, hsame] at hlonger
      omega
    exact ⟨Bool.toNat_eq_zero.1 hquoted, hremoved⟩
  · rintro ⟨hquoted, hremoved⟩
    rw [hquoted] at hheaded
    rw [hremoved] at hstripped
    exact hstripped.eq.trans hheaded.eq

/-! ## Which assignment goes -/

/-- An export assignment that is a statement of its own, and the first that is: no identifier character stands in front
of it, which would make it the end of another statement. -/
structure IsFirstStatement (name text before behind : Text) : Prop where
  text_eq : text = before ++ exportLine name ++ behind
  own : endsInName before = false
  le : ∀ {before' behind' : Text}, text = before' ++ exportLine name ++ behind' → endsInName before' = false →
    before.length ≤ before'.length

/-- Each statement that only ends like an export assignment stands behind an export assignment. -/
def AliasesBehind (name text : Text) : Prop :=
  ∀ {before behind : Text}, text = before ++ exportLine name ++ behind → endsInName before = true →
    ∃ before' behind', text = before' ++ exportLine name ++ behind' ∧ endsInName before' = false ∧
      before'.length < before.length

theorem isFirstStatement_iff {before behind : Text} (h : Text.IsFirst (exportLine name) text before behind) :
    IsFirstStatement name text before behind ↔ AliasesBehind name text := by
  constructor
  · intro hstatement before' behind' htext halias
    refine ⟨before, behind, h.text_eq, hstatement.own, Nat.lt_of_le_of_ne (h.le htext) fun hlength => ?_⟩
    -- at one place there is one text in front
    have hsame : before = before' := by
      have hfront := h.text_eq.symm.trans htext
      rw [List.append_assoc, List.append_assoc] at hfront
      exact List.append_inj_left hfront hlength
    rw [← hsame, hstatement.own] at halias
    cases halias
  · intro hbehind
    refine ⟨h.text_eq, Bool.eq_false_iff.2 fun halias => ?_, fun htext _ => h.le htext⟩
    obtain ⟨before', behind', htext, -, hearlier⟩ := hbehind h.text_eq halias
    exact absurd hearlier (Nat.not_lt.2 (h.le htext))

/-- **The assignment that goes is the first statement of its own just when no other statement that ends like it comes
first.** -/
theorem edit_removes_statement_iff (h : (edit name text).exportRemoved = true) :
    ∃ headed before behind rest, Headed name text (edit name text).headerQuoted headed ∧
      Text.IsFirst (exportLine name) headed before behind ∧ Text.BehindLineEnd behind rest ∧
      (edit name text).text = before ++ rest ∧
      (IsFirstStatement name headed before behind ↔ AliasesBehind name headed) := by
  obtain ⟨headed, hheaded, hstripped⟩ := exists_headed name text
  rw [h] at hstripped
  generalize hedited : (edit name text).text = edited at hstripped
  cases hstripped with
  | removed hfirst hrest => exact ⟨headed, _, _, _, hheaded, hfirst, hrest, rfl, isFirstStatement_iff hfirst⟩

/-- An assignment at the end of a declaration, with a header of a longer name in front, is the one that goes. -/
theorem edit_removes_statement_last :
    (edit ['p'] "declare module px;\ndeclare module p;\nexport = p;".toList).exportRemoved = true ∧
    ∃ headed before behind rest,
      Headed ['p'] "declare module px;\ndeclare module p;\nexport = p;".toList true headed ∧
      Text.IsFirst (exportLine ['p']) headed before behind ∧ Text.BehindLineEnd behind rest ∧
      "declare module px;\ndeclare module \"p\";\n".toList = before ++ rest ∧
      (IsFirstStatement ['p'] headed before behind ↔ AliasesBehind ['p'] headed) := by
  have hremoved : (edit ['p'] "declare module px;\ndeclare module p;\nexport = p;".toList).exportRemoved = true := by
    decide +kernel
  exact ⟨hremoved, edit_removes_statement_iff hremoved⟩

/-- A declaration with an import alias that ends like the assignment behind it. -/
def aliased : Text :=
  "import reexport = p;\n\nexport = p;\n".toList

/-- **An import alias that ends like the assignment is cut in two**, and the assignment behind it stays. -/
theorem edit_cuts_alias :
    isIdentifier ['p'] = true ∧ edit ['p'] aliased = ⟨"import re\nexport = p;\n".toList, false, true⟩ ∧
    ∃ before behind, Headed ['p'] aliased false aliased ∧ Text.IsFirst (exportLine ['p']) aliased before behind ∧
      endsInName before = true ∧ ¬ IsFirstStatement ['p'] aliased before behind := by
  have hfirst : Text.IsFirst (exportLine ['p']) aliased "import re".toList "\n\nexport = p;\n".toList :=
    Text.cutAt?_eq_some_iff.1 (by decide +kernel)
  have halias : endsInName "import re".toList = true := by decide
  refine ⟨by decide, by decide +kernel, _, _, .kept, hfirst, halias, fun hstatement => ?_⟩
  rw [hstatement.own] at halias
  cases halias

end Declaration
end DtsBundle
