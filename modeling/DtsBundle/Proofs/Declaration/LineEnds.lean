import DtsBundle.Proofs.Declaration.Lines
/-!
# Line ends do not matter to an edit

A text whose lines end with CRLF instead of LF is another text: its places are others, what follows a name at the end of
a line is another character, and a line end is two characters to take out.  Still **both texts are edited alike**
(`edit_withReturns`), for what is looked for holds neither character of a line end, so that both searches go along line
by line and find the same (`Unbroken.cutAt?_withReturns`, `Unbroken.cutAtName?_withReturns`).
-/
namespace DtsBundle

open DtsBundle.Bundle (exportLine)

namespace Text

/-- A wanted text without any part of a line end. -/
structure Unbroken (wanted : Text) : Prop where
  ne_nil : wanted ≠ []
  no_feed : '\n' ∉ wanted
  no_return : '\r' ∉ wanted

/-- What is found in a text, as it stands in the same text with other line ends. -/
def withReturnsAround (place : Text × Text) : Text × Text :=
  (withReturns place.1, withReturns place.2)

variable {wanted : Text}

theorem after?_withReturns : ∀ {wanted : Text}, '\n' ∉ wanted → '\r' ∉ wanted → ∀ text : Text,
    after? wanted (withReturns text) = (after? wanted text).map withReturns
  | [], _, _, _ => rfl
  | w :: wanted, _, _, [] => rfl
  | w :: wanted, hfeed, hreturn, c :: text => by
    by_cases hc : c = '\n'
    · have hw : ¬ w = '\n' := (List.ne_of_not_mem_cons hfeed).symm
      have hw' : ¬ w = '\r' := (List.ne_of_not_mem_cons hreturn).symm
      rw [hc, withReturns_break, after?, after?, if_neg hw, if_neg hw']
      rfl
    · rw [withReturns_cons hc, after?, after?,
        after?_withReturns (List.not_mem_of_not_mem_cons hfeed) (List.not_mem_of_not_mem_cons hreturn) text]
      split <;> rfl

theorem cutAt?_cons_of_not_mem {c : Char} (hne : wanted ≠ []) (hc : c ∉ wanted) (rest : Text) :
    cutAt? wanted (c :: rest) = (cutAt? wanted rest).map fun (before, behind) => (c :: before, behind) := by
  rw [cutAt?, after?_cons_of_not_mem hne hc]

theorem cutAtName?_cons_of_not_mem {c : Char} (hne : wanted ≠ []) (hc : c ∉ wanted) (rest : Text) :
    cutAtName? wanted 0 (c :: rest) = (cutAtName? wanted 0 rest).map fun (before, behind) => (c :: before, behind) := by
  rw [cutAtName?, after?_cons_of_not_mem hne hc]

/-- In front of a character other than the line feed nothing is added. -/
theorem map_withReturnsAround_cons {c : Char} (hc : c ≠ '\n') (found : Option (Text × Text)) :
    (found.map withReturnsAround).map (fun (before, behind) => (c :: before, behind)) =
      (found.map fun (before, behind) => (c :: before, behind)).map withReturnsAround := by
  cases found with
  | none => rfl
  | some place => simp [withReturnsAround, withReturns_cons hc]

/-- In front of a line feed a carriage return is. -/
theorem map_withReturnsAround_break (found : Option (Text × Text)) :
    ((found.map withReturnsAround).map fun (before, behind) => ('\n' :: before, behind)).map
        (fun (before, behind) => ('\r' :: before, behind)) =
      (found.map fun (before, behind) => ('\n' :: before, behind)).map withReturnsAround := by
  cases found with
  | none => rfl
  | some place => rfl

/-- **A text is found at the same place whatever the line ends are.** -/
theorem Unbroken.cutAt?_withReturns (h : Unbroken wanted) :
    ∀ text : Text, cutAt? wanted (withReturns text) = (cutAt? wanted text).map withReturnsAround
  | [] => by
    have hnone : cutAt? wanted [] = none := by
      rw [cutAt?, List.isEmpty_eq_false_iff.2 h.ne_nil]
      rfl
    exact hnone.trans (congrArg (Option.map withReturnsAround) hnone.symm)
  | c :: text => by
    by_cases hc : c = '\n'
    · subst hc
      rw [withReturns_break, cutAt?_cons_of_not_mem h.ne_nil h.no_return, cutAt?_cons_of_not_mem h.ne_nil h.no_feed,
        cutAt?_cons_of_not_mem h.ne_nil h.no_feed, h.cutAt?_withReturns text, map_withReturnsAround_break]
    · rw [withReturns_cons hc, cutAt?, cutAt?, ← withReturns_cons hc, after?_withReturns h.no_feed h.no_return]
      cases after? wanted (c :: text) with
      | none =>
        rw [Option.map_none, h.cutAt?_withReturns text]
        exact map_withReturnsAround_cons hc _
      | some behind => rfl

theorem continuesName_withReturns (text : Text) : continuesName (withReturns text) = continuesName text := by
  cases text with
  | nil => rfl
  | cons c rest =>
    by_cases hc : c = '\n'
    · rw [hc, withReturns_break]
      rfl
    · rw [withReturns_cons hc]
      rfl

/-- **A name is found at the same place whatever the line ends are**, as long as no line end is passed over. -/
theorem Unbroken.cutAtName?_withReturns (h : Unbroken wanted) : ∀ {skip : Nat} {text : Text}, '\n' ∉ text.take skip →
    cutAtName? wanted skip (withReturns text) = (cutAtName? wanted skip text).map withReturnsAround
  | _, [], _ => by
    have hnone : ∀ skip, cutAtName? wanted skip [] = none := fun skip => by rw [cutAtName?]
    exact (hnone _).trans (congrArg (Option.map withReturnsAround) (hnone _).symm)
  | skip + 1, c :: text, hskip => by
    rw [List.take_succ_cons] at hskip
    have hc : c ≠ '\n' := (List.ne_of_not_mem_cons hskip).symm
    rw [withReturns_cons hc, cutAtName?, cutAtName?, h.cutAtName?_withReturns (List.not_mem_of_not_mem_cons hskip)]
    exact map_withReturnsAround_cons hc _
  | 0, c :: text, _ => by
    have hnext : ∀ skip, '\n' ∉ text.take skip →
        cutAtName? wanted skip (withReturns text) = (cutAtName? wanted skip text).map withReturnsAround :=
      fun _ hskip => h.cutAtName?_withReturns hskip
    by_cases hc : c = '\n'
    · subst hc
      rw [withReturns_break, cutAtName?_cons_of_not_mem h.ne_nil h.no_return, cutAtName?_cons_of_not_mem h.ne_nil h.no_feed,
        cutAtName?_cons_of_not_mem h.ne_nil h.no_feed, hnext 0 List.not_mem_nil, map_withReturnsAround_break]
    · rw [withReturns_cons hc, cutAtName?, cutAtName?, ← withReturns_cons hc, after?_withReturns h.no_feed h.no_return]
      cases hafter : after? wanted (c :: text) with
      | none =>
        rw [Option.map_none, hnext 0 List.not_mem_nil]
        exact map_withReturnsAround_cons hc _
      | some behind =>
        dsimp only [Option.map_some]
        rw [continuesName_withReturns]
        split
        · -- what is passed over is the rest of the wanted text, in which there is no line end
          have hpassed : '\n' ∉ text.take (wanted.length - 1) := by
            obtain ⟨w, more, rfl⟩ := List.exists_cons_of_ne_nil h.ne_nil
            obtain ⟨-, htext⟩ := List.cons.inj (after?_eq_some_iff.1 hafter)
            rw [htext, List.length_cons, Nat.add_sub_cancel, List.append_eq, List.take_left']
            · exact List.not_mem_of_not_mem_cons h.no_feed
            · rfl
          rw [hnext _ hpassed]
          exact map_withReturnsAround_cons hc _
        · rfl

theorem withoutLineEnd_withReturns {text : Text} (h : '\r' ∉ text) :
    withoutLineEnd (withReturns text) = withReturns (withoutLineEnd text) := by
  cases text with
  | nil => rfl
  | cons c rest =>
    have hreturn : c ≠ '\r' := (List.ne_of_not_mem_cons h).symm
    by_cases hc : c = '\n'
    · rw [hc, withReturns_break]
      rfl
    · have hkept : ∀ rest : Text, withoutLineEnd (c :: rest) = c :: rest := by
        intro rest
        rw [withoutLineEnd]
        · exact fun rest e => hreturn (List.cons.inj e).1
        · exact fun rest e => hc (List.cons.inj e).1
      rw [withReturns_cons hc, hkept, hkept, withReturns_cons hc]

end Text

namespace Declaration

open Text

variable {name text : Text}

theorem unbroken_header (hname : isIdentifier name = true) : Unbroken (header name) :=
  ⟨header_ne_nil, not_mem_header hname (by decide) (by decide), not_mem_header hname (by decide) (by decide)⟩

theorem unbroken_exportLine (hname : isIdentifier name = true) : Unbroken (exportLine name) :=
  ⟨exportLine_ne_nil, not_mem_exportLine hname (by decide) (by decide) (by decide),
    not_mem_exportLine hname (by decide) (by decide) (by decide)⟩

theorem withHeader?_withReturns (hname : isIdentifier name = true) (text : Text) :
    withHeader? name (withReturns text) = (withHeader? name text).map withReturns := by
  have hpublished : withReturns (publishedHeader name) = publishedHeader name :=
    withReturns_of_not_mem (not_mem_publishedHeader hname (by decide) (by decide) (by decide))
  unfold withHeader?
  rw [(unbroken_header hname).cutAtName?_withReturns List.not_mem_nil]
  cases cutAtName? (header name) 0 text with
  | none => rfl
  | some place => simp [withReturnsAround, withReturns_append, hpublished]

theorem withoutExport?_withReturns (hname : isIdentifier name = true) (htext : '\r' ∉ text) :
    withoutExport? name (withReturns text) = (withoutExport? name text).map withReturns := by
  unfold withoutExport?
  rw [(unbroken_exportLine hname).cutAt?_withReturns]
  cases hcut : cutAt? (exportLine name) text with
  | none => rfl
  | some place =>
    have hbehind : '\r' ∉ place.2 := by
      have hplace := (cutAt?_eq_some_iff.1 hcut).text_eq
      exact fun hm => htext (hplace ▸ List.mem_append_right _ hm)
    simp [withReturnsAround, withReturns_append, withoutLineEnd_withReturns hbehind]

/-- The first edit brings in no character of a line end. -/
theorem Headed.not_mem {headed : Text} {found : Bool} (h : Headed name text found headed) (hname : isIdentifier name = true)
    (htext : '\r' ∉ text) : '\r' ∉ headed := by
  cases h with
  | kept => exact htext
  | @quoted before behind hplace =>
    refine not_mem_around (fun hm => htext ?_) (not_mem_publishedHeader hname (by decide) (by decide) (by decide))
      (fun hm => htext ?_)
    · rw [hplace, List.append_assoc]
      exact List.mem_append_left _ hm
    · rw [hplace]
      exact List.mem_append_right _ hm

/-- **A text without carriage returns is edited alike with one in front of each line feed.** -/
theorem edit_withReturns (hname : isIdentifier name = true) (htext : '\r' ∉ text) :
    edit name (withReturns text) = { edit name text with text := withReturns (edit name text).text } := by
  have hquoted := withHeader?_withReturns hname text
  have hbetween : ((withHeader? name text).map withReturns).getD (withReturns text) =
      withReturns ((withHeader? name text).getD text) := by
    cases withHeader? name text <;> rfl
  have hstripped := withoutExport?_withReturns hname ((headed_withHeader? name text).not_mem hname htext)
  rw [edit_eq hquoted (hbetween ▸ hstripped), edit_eq rfl rfl, hbetween]
  cases withoutExport? name ((withHeader? name text).getD text) <;> cases withHeader? name text <;> rfl

/-- The end of the line of the assignment is taken out, be it one character or two. -/
theorem edit_withReturns_two :
    isIdentifier ['p'] = true ∧ '\r' ∉ "declare module p\nexport = p;\n;".toList ∧
      edit ['p'] (withReturns "declare module p\nexport = p;\n;".toList) =
        ⟨"declare module \"p\"\r\n;".toList, true, true⟩ := by
  have hname : isIdentifier ['p'] = true := by decide
  have htext : '\r' ∉ "declare module p\nexport = p;\n;".toList := by decide
  exact ⟨hname, htext, (edit_withReturns hname htext).trans (by decide +kernel)⟩

end Declaration
end DtsBundle
