import DtsBundle.Proofs.Declaration.Edit
import DtsBundle.Proofs.Identifier
/-!
# A declaration, line by line

A declaration as the compiler writes it has one header of the package, at the start of a line, and one line that is its
export assignment (`WellFormed`).  There may be headers of longer names anywhere and the two lines may stand in either
order.  **Its lines are published as they are but for these two**: the name in the header is in quotes, and the
assignment is gone, or at the end of the text has left an empty line (`lines_edit_of_wellFormed`).  What is published has
no place for either edit any more.

Both edits look for their place in the whole text, so it has to be known that they find the two lines.  Each finds some
occurrence, and there is only one.  How many there are is counted line by line, before the edits and behind them: quotes
part a line in the same way as a line feed parts a text, so that a quoted header counts no more.
-/
namespace DtsBundle.Declaration

open Text
open DtsBundle.Bundle (exportLine)

/-- A declaration with one header, in one line, and one export assignment, which is another line; `rest` is what the line
of the header has behind it. -/
structure WellFormed (name text : Text) (headerAt exportAt : Nat) (rest : Text) : Prop where
  header_line : (lines text)[headerAt]? = some (header name ++ rest)
  header_ends : continuesName rest = false
  header_once : hits (!continuesName ·) (header name) text = 1
  export_line : (lines text)[exportAt]? = some (exportLine name)
  export_once : hits (fun _ => true) (exportLine name) text = 1

/-- Some lines, with the name in one of them in quotes and another taken out, or empty if it is the last. -/
def publishedLines (name : Text) (headerAt exportAt : Nat) (rest : Text) (ls : List Text) : List Text :=
  if exportAt + 1 = ls.length then (ls.set headerAt (publishedHeader name ++ rest)).set exportAt []
  else (ls.set headerAt (publishedHeader name ++ rest)).eraseIdx exportAt

variable {name text rest : Text} {headerAt exportAt : Nat}

/-! ## What parts the two occurrences -/

theorem not_mem_header {c : Char} (hname : isIdentifier name = true) (hc : isIdentifierChar c = false)
    (hfront : c ∉ "declare module ".toList) : c ∉ header name := by
  unfold header
  exact fun hm => (List.mem_append.1 hm).elim hfront (not_mem_of_isIdentifier hname hc)

theorem not_mem_publishedHeader {c : Char} (hname : isIdentifier name = true) (hc : isIdentifierChar c = false)
    (hfront : c ∉ "declare module \"".toList) (hback : c ∉ ['"']) : c ∉ publishedHeader name :=
  not_mem_around hfront (not_mem_of_isIdentifier hname hc) hback

theorem not_mem_exportLine {c : Char} (hname : isIdentifier name = true) (hc : isIdentifierChar c = false)
    (hfront : c ∉ "export = ".toList) (hback : c ∉ ";".toList) : c ∉ exportLine name :=
  not_mem_around hfront (not_mem_of_isIdentifier hname hc) hback

theorem header_ne_nil : header name ≠ [] :=
  List.ne_nil_of_length_pos (by rw [length_header]; omega)

theorem exportLine_ne_nil : exportLine name ≠ [] :=
  List.ne_nil_of_length_pos (by rw [length_exportLine]; omega)

theorem continuesName_append {c : Char} (hc : isIdentifierChar c = false) (behind rest : Text) :
    continuesName (behind ++ c :: rest) = continuesName behind := by
  cases behind with
  | nil => exact hc
  | cons d behind => rfl

theorem partedBy_header {c : Char} (hname : isIdentifier name = true) (hc : isIdentifierChar c = false)
    (hfront : c ∉ "declare module ".toList) : PartedBy c (!continuesName ·) (header name) :=
  ⟨header_ne_nil, not_mem_header hname hc hfront, fun behind rest => congrArg not (continuesName_append hc behind rest)⟩

theorem partedBy_exportLine {c : Char} (hname : isIdentifier name = true) (hc : isIdentifierChar c = false)
    (hfront : c ∉ "export = ".toList) (hback : c ∉ ";".toList) : PartedBy c (fun _ => true) (exportLine name) :=
  ⟨exportLine_ne_nil, not_mem_exportLine hname hc hfront hback, fun _ _ => rfl⟩

/-! ## The header in quotes -/

/-- **In a quoted header nothing is counted** that quotes part and that is found neither in front of a name nor in it. -/
theorem hits_publishedHeader {fits : Text → Bool} {wanted : Text} (h : PartedBy '"' fits wanted)
    (hfront : hits fits wanted "declare module ".toList = 0) (hname : hits fits wanted name = 0) :
    hits fits wanted (publishedHeader name ++ rest) = hits fits wanted rest := by
  have hquotes : publishedHeader name ++ rest = "declare module ".toList ++ '"' :: (name ++ '"' :: rest) := by
    have hopen : "declare module \"".toList = "declare module ".toList ++ ['"'] := by decide
    unfold publishedHeader
    rw [hopen]
    simp only [List.append_assoc, List.cons_append, List.nil_append]
  rw [hquotes, h.hits_append_cons, h.hits_append_cons, hfront, hname]
  omega

theorem hits_header_publishedHeader (hname : isIdentifier name = true) :
    hits (!continuesName ·) (header name) (publishedHeader name ++ rest) = hits (!continuesName ·) (header name) rest := by
  have hne : 0 < name.length := List.length_pos_iff.2 fun e => by rw [e] at hname; cases hname
  have hfront : "declare module ".toList.length = 15 := by decide
  refine hits_publishedHeader (partedBy_header hname (by decide) (by decide)) (hits_eq_zero_of_length ?_)
    (hits_eq_zero_of_length ?_)
  · rw [length_header, hfront]
    omega
  · rw [length_header]
    omega

theorem hits_exportLine_publishedHeader (hname : isIdentifier name = true) :
    hits (fun _ => true) (exportLine name) (publishedHeader name ++ rest) = hits (fun _ => true) (exportLine name) rest := by
  refine hits_publishedHeader (partedBy_exportLine hname (by decide) (by decide) (by decide)) ?_
    (hits_eq_zero_of_length ?_)
  · refine hits_eq_zero_iff.2 fun before behind htext => ?_
    -- no sign of equality stands in front of the name in a header
    have hsign : '=' ∈ "declare module ".toList := by
      rw [htext]
      unfold exportLine
      simp only [List.mem_append]
      exact .inl (.inr (.inl (.inl (by decide))))
    exact absurd hsign (by decide)
  · rw [length_exportLine]
    omega

/-- A text with a quoted header in one of its lines. -/
def quotedAt (name : Text) (k : Nat) (rest text : Text) : Text :=
  ended ((lines text).take k) ++ (publishedHeader name ++ rest ++ begun ((lines text).drop (k + 1)))

/-- **The first edit finds the line of the header.** -/
theorem WellFormed.withHeader?_eq (h : WellFormed name text headerAt exportAt rest) (hname : isIdentifier name = true) :
    withHeader? name text = some (quotedAt name headerAt rest text) := by
  have htext : text = ended ((lines text).take headerAt) ++ header name ++
      (rest ++ begun ((lines text).drop (headerAt + 1))) := by
    rw [List.append_assoc, ← List.append_assoc (header name)]
    exact eq_around_line h.header_line
  have hends : continuesName (rest ++ begun ((lines text).drop (headerAt + 1))) = false := by
    cases (lines text).drop (headerAt + 1) with
    | nil => rw [begun_nil, List.append_nil, h.header_ends]
    | cons next more => rw [begun_cons, continuesName_append (by decide), h.header_ends]
  have hfound := cutAtName?_ne_none header_ne_nil (not_mem_header hname (by decide) (by decide)) hends
    (Nat.zero_le _) (getLast?_ended ((lines text).take headerAt))
  rw [← List.append_assoc, ← htext] at hfound
  obtain ⟨⟨before, behind⟩, hcut⟩ := Option.ne_none_iff_exists'.1 hfound
  have hnamed := cutAtName?_eq_some hcut
  have honly := eq_of_hits_eq_one h.header_once htext (congrArg not hends) hnamed.text_eq (congrArg not hnamed.ends)
  rw [honly.1, honly.2] at hcut
  unfold withHeader? quotedAt
  rw [hcut]
  simp only [Option.map_some, List.append_assoc]

theorem WellFormed.lines_quotedAt (h : WellFormed name text headerAt exportAt rest) (hname : isIdentifier name = true) :
    lines (quotedAt name headerAt rest text) = (lines text).set headerAt (publishedHeader name ++ rest) := by
  obtain ⟨hk, hline⟩ := List.getElem?_eq_some_iff.1 h.header_line
  refine lines_set_line hk fun hm => ?_
  have hunbroken : '\n' ∉ header name ++ rest := hline ▸ not_mem_of_mem_lines (List.getElem_mem hk)
  have hquotes : '\n' ∉ publishedHeader name := not_mem_publishedHeader hname (by decide) (by decide) (by decide)
  exact (List.mem_append.1 hm).elim hquotes fun hrest => hunbroken (List.mem_append_right _ hrest)

/-- Quotes in a header change no more than what is counted in its line. -/
theorem WellFormed.hits_quotedAt (h : WellFormed name text headerAt exportAt rest) {fits : Text → Bool} {wanted : Text}
    (hparted : PartedBy '\n' fits wanted) :
    hits fits wanted (quotedAt name headerAt rest text) + hits fits wanted (header name ++ rest) =
      hits fits wanted text + hits fits wanted (publishedHeader name ++ rest) := by
  conv => rhs; rw [eq_around_line h.header_line]
  unfold quotedAt
  rw [hparted.hits_around, hparted.hits_around]
  omega

/-! ## The line of the assignment -/

/-- A text without one of its lines and the line end behind it. -/
def withoutLineAt (k : Nat) (text : Text) : Text :=
  ended ((lines text).take k) ++ withoutLineEnd (begun ((lines text).drop (k + 1)))

/-- **The second edit finds the line of the assignment** in any text with only one. -/
theorem withoutExport?_eq {k : Nat} (hline : (lines text)[k]? = some (exportLine name))
    (hone : hits (fun _ => true) (exportLine name) text = 1) :
    withoutExport? name text = some (withoutLineAt k text) := by
  have htext : text = ended ((lines text).take k) ++ exportLine name ++ begun ((lines text).drop (k + 1)) := by
    rw [List.append_assoc]
    exact eq_around_line hline
  unfold withoutExport? withoutLineAt
  cases hcut : cutAt? (exportLine name) text with
  | none => exact absurd htext (cutAt?_eq_none_iff.1 hcut _ _)
  | some place =>
    obtain ⟨before, behind⟩ := place
    have honly := eq_of_hits_eq_one hone htext rfl (cutAt?_eq_some_iff.1 hcut).text_eq rfl
    rw [honly.1, honly.2, Option.map_some]

/-- Without one of its lines a text has all its others, and an empty line in its place if it is the last. -/
theorem lines_withoutLineAt {k : Nat} (hk : k < (lines text).length) :
    lines (withoutLineAt k text) =
      if k + 1 = (lines text).length then (lines text).set k [] else (lines text).eraseIdx k := by
  unfold withoutLineAt
  cases hdrop : (lines text).drop (k + 1) with
  | nil =>
    have hlast : k + 1 = (lines text).length := by
      have := List.drop_eq_nil_iff.1 hdrop
      omega
    rw [if_pos hlast, ← lines_set_line hk List.not_mem_nil, hdrop]
    rfl
  | cons next more =>
    have hlast : k + 1 ≠ (lines text).length := by
      intro e
      rw [e, List.drop_length] at hdrop
      cases hdrop
    rw [if_neg hlast, ← lines_erase_line hdrop]
    rfl

/-- What a text has less without one of its lines is what there is in this line. -/
theorem hits_withoutLineAt {fits : Text → Bool} {wanted line : Text} (h : PartedBy '\n' fits wanted) {k : Nat}
    (hline : (lines text)[k]? = some line) :
    hits fits wanted text = hits fits wanted line + hits fits wanted (withoutLineAt k text) := by
  have hend : ∀ back : List Text, hits fits wanted (withoutLineEnd (begun back)) = hits fits wanted (begun back) := by
    intro back
    cases back with
    | nil => rfl
    | cons next more => exact (h.hits_begun_cons next more).symm
  conv => lhs; rw [eq_around_line hline]
  unfold withoutLineAt
  rw [h.hits_around, h.hits_ended_append, hend]
  omega

/-! ## Both edits -/

/-- **Where neither is there any more, nothing is edited.** -/
theorem edit_of_hits_eq_zero (hheader : hits (!continuesName ·) (header name) text = 0)
    (hexport : hits (fun _ => true) (exportLine name) text = 0) : edit name text = ⟨text, false, false⟩ := by
  have hnoHeader : withHeader? name text = none := by
    unfold withHeader?
    cases hcut : cutAtName? (header name) 0 text with
    | none => rfl
    | some place =>
      have hnamed := cutAtName?_eq_some hcut
      exact absurd (hits_eq_zero_iff.1 hheader _ _ hnamed.text_eq) (by simp [hnamed.ends])
  have hnoExport : withoutExport? name text = none := by
    unfold withoutExport?
    cases hcut : cutAt? (exportLine name) text with
    | none => rfl
    | some place => exact absurd (hits_eq_zero_iff.1 hexport _ _ (cutAt?_eq_some_iff.1 hcut).text_eq) (by simp)
  exact edit_eq hnoHeader hnoExport

theorem WellFormed.headerAt_ne (h : WellFormed name text headerAt exportAt rest) : headerAt ≠ exportAt := by
  intro e
  have hsame := h.header_line.symm.trans (e ▸ h.export_line)
  have hfirst := congrArg List.head? (Option.some.inj hsame)
  unfold header exportLine at hfirst
  exact absurd hfirst (by simp)

theorem WellFormed.export_line_quotedAt (h : WellFormed name text headerAt exportAt rest) (hname : isIdentifier name = true) :
    (lines (quotedAt name headerAt rest text))[exportAt]? = some (exportLine name) := by
  rw [h.lines_quotedAt hname, List.getElem?_set_ne h.headerAt_ne, h.export_line]

/-- With the header quoted there is no header any more. -/
theorem WellFormed.hits_header_quotedAt (h : WellFormed name text headerAt exportAt rest) (hname : isIdentifier name = true) :
    hits (!continuesName ·) (header name) (quotedAt name headerAt rest text) = 0 := by
  have hquoted := h.hits_quotedAt (partedBy_header hname (by decide) (by decide))
  have hself : hits (!continuesName ·) (header name) rest + 1 ≤
      hits (!continuesName ·) (header name) (header name ++ rest) :=
    hits_append_self header_ne_nil (congrArg not h.header_ends)
  rw [hits_header_publishedHeader hname, h.header_once] at hquoted
  omega

/-- With the header quoted the assignment is still the only one. -/
theorem WellFormed.hits_exportLine_quotedAt (h : WellFormed name text headerAt exportAt rest)
    (hname : isIdentifier name = true) :
    hits (fun _ => true) (exportLine name) (quotedAt name headerAt rest text) = 1 := by
  have hquoted := h.hits_quotedAt (partedBy_exportLine hname (by decide) (by decide) (by decide))
  have hless : hits (fun _ => true) (exportLine name) rest ≤ hits (fun _ => true) (exportLine name) (header name ++ rest) :=
    hits_le_append rest (header name)
  have hthere : 0 < hits (fun _ => true) (exportLine name) (quotedAt name headerAt rest text) := by
    have htext := eq_around_line (h.export_line_quotedAt hname)
    rw [← List.append_assoc] at htext
    exact hits_pos htext rfl
  rw [hits_exportLine_publishedHeader hname, h.export_once] at hquoted
  omega

/-- **A declaration is published line by line**: the name in its header is in quotes, its assignment is gone, and nothing is
left to edit. -/
theorem lines_edit_of_wellFormed (hname : isIdentifier name = true) (h : WellFormed name text headerAt exportAt rest) :
    (edit name text).isComplete = true ∧
      lines (edit name text).text = publishedLines name headerAt exportAt rest (lines text) ∧
      edit name (edit name text).text = ⟨(edit name text).text, false, false⟩ := by
  have hline := h.export_line_quotedAt hname
  have hheaders := h.hits_header_quotedAt hname
  have hexports := h.hits_exportLine_quotedAt hname
  have hedit : edit name text = ⟨withoutLineAt exportAt (quotedAt name headerAt rest text), true, true⟩ :=
    edit_eq (h.withHeader?_eq hname) (withoutExport?_eq hline hexports)
  have hheaderLess := hits_withoutLineAt (partedBy_header hname (by decide) (by decide)) hline
  have hexportLess := hits_withoutLineAt (partedBy_exportLine hname (by decide) (by decide) (by decide)) hline
  have hself : 0 < hits (fun _ => true) (exportLine name) (exportLine name) := by
    have halone : exportLine name = [] ++ exportLine name ++ [] := (List.append_nil _).symm
    exact hits_pos halone rfl
  have hnoHeader : hits (!continuesName ·) (header name) (withoutLineAt exportAt (quotedAt name headerAt rest text)) = 0 := by
    omega
  have hnoExport : hits (fun _ => true) (exportLine name) (withoutLineAt exportAt (quotedAt name headerAt rest text)) = 0 := by
    omega
  rw [hedit]
  refine ⟨rfl, ?_, edit_of_hits_eq_zero hnoHeader hnoExport⟩
  obtain ⟨hk, -⟩ := List.getElem?_eq_some_iff.1 hline
  rw [lines_withoutLineAt hk, h.lines_quotedAt hname, List.length_set]
  rfl

/-- A declaration with its assignment in front of its header, and headers of longer names around. -/
def turned : Text :=
  "declare module de;\nexport = d;\ndeclare module d;declare module dd".toList

/-- The two lines may stand in either order. -/
theorem lines_edit_of_wellFormed_turned :
    isIdentifier ['d'] = true ∧ WellFormed ['d'] turned 2 1 ";declare module dd".toList ∧
      (edit ['d'] turned).isComplete = true ∧
      lines (edit ['d'] turned).text = ["declare module de;".toList, "declare module \"d\";declare module dd".toList] ∧
      edit ['d'] (edit ['d'] turned).text = ⟨(edit ['d'] turned).text, false, false⟩ := by
  have hname : isIdentifier ['d'] = true := by decide
  have h : WellFormed ['d'] turned 2 1 ";declare module dd".toList := by
    constructor <;> decide +kernel
  obtain ⟨hcomplete, hlines, hagain⟩ := lines_edit_of_wellFormed hname h
  exact ⟨hname, h, hcomplete, hlines.trans (by decide +kernel), hagain⟩

end DtsBundle.Declaration
