import DtsBundle.Proofs.Declaration.Lines
import DtsBundle.Proofs.Identifier
import DtsBundle.Proofs.Text.Visits
import Mathlib.Data.List.Infix
import Mathlib.Data.Nat.Find
/-!
# Which header is found

The header to be put in quotes is the first whose name ends where it should.  The search turns a header of a longer name
away and goes on at its end, and so it passes over a header that begins inside.  For that the name has to end as `declare`
begins.  Of headers each of which begins inside the one in front, every other one is looked at.  So **the search finds the
first header just when it is not hidden**, which it is behind an odd number of such headers (`findsFirst_iff`).
-/
namespace DtsBundle

namespace Text

/-- A wanted text stands in a text as a name, and nowhere earlier does it so. -/
structure IsFirstNamed (wanted text before behind : Text) : Prop where
  named : IsNamed wanted text before behind
  le : ∀ {before' behind' : Text}, IsNamed wanted text before' behind' → before.length ≤ before'.length

variable {wanted text before behind : Text}

theorem exists_isFirstNamed (h : IsNamed wanted text before behind) :
    ∃ before behind, IsFirstNamed wanted text before behind := by
  classical
  have hsome : ∃ n before behind, IsNamed wanted text before behind ∧ before.length = n := ⟨_, before, behind, h, rfl⟩
  obtain ⟨before, behind, hnamed, hlength⟩ := Nat.find_spec hsome
  refine ⟨before, behind, hnamed, fun hother => ?_⟩
  rw [hlength]
  exact Nat.find_min' hsome ⟨_, _, hother, rfl⟩

theorem IsFirstNamed.continues (h : IsFirstNamed wanted text before behind) {i : Nat} {back : Text}
    (hlt : i < before.length) (hdrop : text.drop i = wanted ++ back) : continuesName back = true := by
  by_cases hmore : continuesName back = true
  · exact hmore
  · have htext : text = text.take i ++ wanted ++ back := by rw [List.append_assoc, ← hdrop, List.take_append_drop]
    have hle := h.le ⟨htext, Bool.eq_false_iff.2 hmore⟩
    have htake : (text.take i).length ≤ i := List.length_take_le i text
    omega

end Text

namespace Declaration

open Text

/-- A name is another one with what `declare` begins with behind it. -/
def EndsLikeHeader (name base : Text) : Prop :=
  ∃ start, start ≠ [] ∧ start <+: "declare".toList ∧ name = base ++ start

/-- Headers of a base, one behind the other. -/
def headers (n : Nat) (base : Text) : Text :=
  (List.replicate n (header base)).flatten

/-- What stands in front of a header hides it: an odd number of headers of a base, in each of which the next header of the
name begins. -/
def Hidden (name before : Text) : Prop :=
  ∃ base front n, EndsLikeHeader name base ∧ before = front ++ headers n base ∧ ¬ header base <:+ front ∧ n % 2 = 1

variable {name base text front before behind : Text}

/-! ## Headers inside headers -/

theorem start_eq_of_suffix {a b : Text} (ha : a <+: "declare".toList) (hb : b <+: "declare".toList) (hne : a ≠ [])
    (h : a <:+ b) : a = b := by
  -- no beginning of `declare` ends as `declare` begins
  have hall : ∀ b ∈ "declare".toList.inits, ∀ a ∈ "declare".toList.inits, a ≠ [] → a <:+ b → a = b := by decide
  exact hall b ((List.mem_inits _ _).2 hb) a ((List.mem_inits _ _).2 ha) hne h

theorem EndsLikeHeader.unique {other : Text} (h : EndsLikeHeader name base) (h' : EndsLikeHeader name other) :
    base = other := by
  obtain ⟨a, hane, ha, hname⟩ := h
  obtain ⟨b, hbne, hb, hname'⟩ := h'
  have hsame : a = b := by
    rcases List.suffix_or_suffix_of_suffix ⟨base, hname.symm⟩ ⟨other, hname'.symm⟩ with hab | hba
    · exact start_eq_of_suffix ha hb hane hab
    · exact (start_eq_of_suffix hb ha hbne hba).symm
  rw [hsame] at hname
  exact List.append_cancel_right (hname.symm.trans hname')

theorem EndsLikeHeader.header_eq (h : EndsLikeHeader name base) :
    ∃ start, start ≠ [] ∧ start <+: "declare".toList ∧ header name = header base ++ start := by
  obtain ⟨start, hne, hstart, rfl⟩ := h
  exact ⟨start, hne, hstart, (List.append_assoc "declare module ".toList base start).symm⟩

theorem EndsLikeHeader.mem (h : EndsLikeHeader name base) : 'd' ∈ name := by
  obtain ⟨start, hne, ⟨more, hmore⟩, rfl⟩ := h
  obtain ⟨c, rest, rfl⟩ := List.exists_cons_of_ne_nil hne
  have hhead : some c = "declare".toList.head? := congrArg List.head? hmore
  have hc : c = 'd' := Option.some.inj (hhead.trans (by decide))
  rw [hc]
  exact List.mem_append_right base List.mem_cons_self

/-- In front of a header of the name a header of the base is one of the name. -/
theorem EndsLikeHeader.overlaps (h : EndsLikeHeader name base) (behind : Text) :
    ∃ back, header base ++ (header name ++ behind) = header name ++ back := by
  obtain ⟨start, -, ⟨more, hmore⟩, hheader⟩ := h.header_eq
  have hword : header name = start ++ (more ++ (" module ".toList ++ name)) := by
    have hfront : "declare module ".toList = "declare".toList ++ " module ".toList := by decide
    have hheader : header name = start ++ more ++ " module ".toList ++ name :=
      congrArg (· ++ name) (hfront.trans (congrArg (· ++ " module ".toList) hmore.symm))
    rw [hheader, List.append_assoc, List.append_assoc]
  refine ⟨more ++ (" module ".toList ++ name) ++ behind, ?_⟩
  calc header base ++ (header name ++ behind)
      = header base ++ (start ++ (more ++ (" module ".toList ++ name)) ++ behind) := by rw [← hword]
    _ = header base ++ start ++ (more ++ (" module ".toList ++ name) ++ behind) := by simp only [List.append_assoc]
    _ = header name ++ (more ++ (" module ".toList ++ name) ++ behind) := by rw [← hheader]

/-- A header that goes on as it begins does so at the end of its name. -/
theorem endsLikeHeader_of_prefix (hname : isIdentifier name = true) {d : Nat} (hpos : 0 < d)
    (hlt : d < (header name).length) (hagain : (header name).drop d <+: header name) :
    ∃ base, EndsLikeHeader name base ∧ d = (header base).length := by
  have hfront : "declare module ".toList.length = 15 := by decide
  rw [length_header] at hlt
  unfold header at hagain
  by_cases hd : d < 15
  · -- inside the words of a header there is no second beginning
    have hnone : ∀ d < 15, 0 < d → ¬ "declare module ".toList.drop d <+: "declare module ".toList := by decide
    rw [List.drop_append_of_le_length (by omega)] at hagain
    have hwords := List.prefix_of_prefix_length_le ((List.prefix_append _ name).trans hagain)
      (List.prefix_append "declare module ".toList name) (by rw [List.length_drop]; omega)
    exact absurd hwords (hnone d hd hpos)
  · have hdrop : ("declare module ".toList ++ name).drop d = name.drop (d - 15) := by
      rw [List.drop_append, List.drop_eq_nil_of_le (by omega), hfront, List.nil_append]
    rw [hdrop] at hagain
    have hstart : name.drop (d - 15) <+: "declare".toList := by
      by_cases hshort : (name.drop (d - 15)).length ≤ 7
      · have hword : "declare".toList <+: "declare module ".toList ++ name :=
          (by decide : "declare".toList <+: "declare module ".toList).trans (List.prefix_append _ name)
        exact List.prefix_of_prefix_length_le hagain hword hshort
      · -- a longer one would have a blank in it
        have hword : "declare ".toList <+: "declare module ".toList ++ name :=
          (by decide : "declare ".toList <+: "declare module ".toList).trans (List.prefix_append _ name)
        have hlength : "declare ".toList.length = 8 := by decide
        have hblank := List.prefix_of_prefix_length_le hword hagain (by omega)
        have hmem : ' ' ∈ name := List.mem_of_mem_drop (hblank.subset (by decide))
        exact absurd hmem (not_mem_of_isIdentifier hname (by decide))
    have hne : name.drop (d - 15) ≠ [] := fun hnil => absurd (List.drop_eq_nil_iff.1 hnil) (by omega)
    refine ⟨name.take (d - 15), ⟨_, hne, hstart, (List.take_append_drop _ name).symm⟩, ?_⟩
    rw [length_header, List.length_take_of_le (by omega)]
    omega

/-- **A header that begins inside another begins at the end of a base.** -/
theorem exists_base_of_overlap (hname : isIdentifier name = true) {i q : Nat} {back back' : Text}
    (hi : text.drop i = header name ++ back) (hq : text.drop q = header name ++ back') (hlt : i < q)
    (hinside : q < i + (header name).length) :
    ∃ base, EndsLikeHeader name base ∧ q = i + (header base).length ∧ text.take q = text.take i ++ header base := by
  have hdrop : (header name).drop (q - i) ++ back = header name ++ back' := by
    rw [← hq, ← List.drop_append_of_le_length (by omega), ← hi, List.drop_drop]
    congr 1
    omega
  have hagain : (header name).drop (q - i) <+: header name :=
    List.prefix_of_prefix_length_le ⟨back, hdrop⟩ (List.prefix_append _ back') (by rw [List.length_drop]; omega)
  obtain ⟨base, hends, hbase⟩ := endsLikeHeader_of_prefix hname (by omega) (by omega) hagain
  have hend : q = i + (header base).length := by omega
  obtain ⟨start, -, -, hheader⟩ := hends.header_eq
  refine ⟨base, hends, hend, ?_⟩
  rw [hend, List.take_add, hi, hheader, List.append_assoc, List.take_left]

/-! ## Which of them are visited -/

theorem visits_of_not_suffix (hname : isIdentifier name = true) (htext : text = front ++ (header name ++ behind))
    (hturned : ∀ i back, i < front.length → text.drop i = header name ++ back → continuesName back = true)
    (hnone : ∀ base, EndsLikeHeader name base → ¬ header base <:+ front) : Visits (header name) text front.length := by
  have hlength : front.length ≤ text.length := by rw [htext, List.length_append]; omega
  rw [visits_iff header_ne_nil hlength hturned]
  intro i back _ hdrop hlt
  by_contra hcross
  -- what reaches across begins with the header of a base, and that stands straight in front
  have hhere : text.drop front.length = header name ++ behind := by rw [htext, List.drop_left]
  have htake : text.take front.length = front := by rw [htext, List.take_left]
  obtain ⟨base, hends, -, hfront⟩ := exists_base_of_overlap hname hdrop hhere hlt (by omega)
  rw [htake] at hfront
  exact hnone base hends ⟨_, hfront.symm⟩

/-- **A header that begins inside another is visited just when the other is not.** -/
theorem visits_append_header_iff (hname : isIdentifier name = true) (hends : EndsLikeHeader name base)
    (htext : text = front ++ (header base ++ (header name ++ behind)))
    (hturned : ∀ i back, i < (front ++ header base).length → text.drop i = header name ++ back →
      continuesName back = true) :
    Visits (header name) text (front ++ header base).length ↔ ¬ Visits (header name) text front.length := by
  have hlength : (front ++ header base).length ≤ text.length := by
    rw [htext]
    simp only [List.length_append]
    omega
  have hhere : text.drop (front ++ header base).length = header name ++ behind := by
    rw [htext, ← List.append_assoc, List.drop_left]
  rw [visits_iff header_ne_nil hlength hturned]
  constructor
  · intro hclear hvisit
    obtain ⟨back, hback⟩ := hends.overlaps behind
    obtain ⟨start, hne, -, hheader⟩ := hends.header_eq
    have hfirst : text.drop front.length = header name ++ back := by rw [htext, List.drop_left, hback]
    have hpos : 0 < (header base).length := List.length_pos_iff.2 header_ne_nil
    have hstart : 0 < start.length := List.length_pos_iff.2 hne
    have hle := hclear front.length back hvisit hfirst (by rw [List.length_append]; omega)
    rw [hheader, List.length_append, List.length_append] at hle
    omega
  · intro hnot i back hvisit hdrop hlt
    by_contra hcross
    -- only the one in front reaches across, as there is one base
    obtain ⟨other, hother, hend, -⟩ := exists_base_of_overlap hname hdrop hhere hlt (by omega)
    rw [hends.unique hother, List.length_append] at hend
    have hsame : i = front.length := by omega
    exact hnot (hsame ▸ hvisit)

theorem headers_succ (n : Nat) (base : Text) : headers (n + 1) base = headers n base ++ header base := by
  unfold headers
  rw [List.replicate_succ', List.flatten_append, List.flatten_singleton]

/-- **Of headers each of which begins inside the one in front every other one is visited.** -/
theorem visits_headers_iff (hname : isIdentifier name = true) (hends : EndsLikeHeader name base)
    (hnot : ¬ header base <:+ front) (n : Nat) : ∀ {behind : Text},
    text = front ++ headers n base ++ (header name ++ behind) →
    (∀ i back, i < (front ++ headers n base).length → text.drop i = header name ++ back → continuesName back = true) →
    (Visits (header name) text (front ++ headers n base).length ↔ n % 2 = 0) := by
  induction n with
  | zero =>
    intro behind htext hturned
    have hnil : headers 0 base = [] := rfl
    rw [hnil, List.append_nil] at htext hturned ⊢
    have hvisit := visits_of_not_suffix hname htext hturned fun other hother => hends.unique hother ▸ hnot
    simp [hvisit]
  | succ n ih =>
    intro behind htext hturned
    obtain ⟨back, hback⟩ := hends.overlaps behind
    rw [headers_succ, ← List.append_assoc front] at htext hturned ⊢
    rw [List.append_assoc (front ++ headers n base)] at htext
    have hshorter : (front ++ headers n base).length ≤ (front ++ headers n base ++ header base).length :=
      (List.prefix_append _ (header base)).length_le
    -- the last of the row is a header of the name as well
    have hbefore := ih (htext.trans (by rw [hback])) fun i back hlt => hturned i back (hlt.trans_le hshorter)
    rw [visits_append_header_iff hname hends htext hturned, hbefore]
    omega

theorem exists_headers (base : Text) : ∀ before : Text,
    ∃ front n, before = front ++ headers n base ∧ ¬ header base <:+ front := by
  intro before
  induction hlength : before.length using Nat.strongRecOn generalizing before with
  | ind length ih =>
    by_cases hsuffix : header base <:+ before
    · obtain ⟨shorter, rfl⟩ := hsuffix
      have hpos : 0 < (header base).length := List.length_pos_iff.2 header_ne_nil
      rw [List.length_append] at hlength
      obtain ⟨front, n, hfront, hnot⟩ := ih shorter.length (by omega) shorter rfl
      exact ⟨front, n + 1, by rw [headers_succ, ← List.append_assoc, ← hfront], hnot⟩
    · exact ⟨before, 0, (List.append_nil before).symm, hsuffix⟩

theorem visits_iff_not_hidden (hname : isIdentifier name = true) (h : IsFirstNamed (header name) text before behind) :
    Visits (header name) text before.length ↔ ¬ Hidden name before := by
  have htext : text = before ++ (header name ++ behind) := by rw [h.named.text_eq, List.append_assoc]
  have hturned : ∀ i back, i < before.length → text.drop i = header name ++ back → continuesName back = true :=
    fun i back hlt hdrop => h.continues hlt hdrop
  constructor
  · rintro hvisit ⟨base, front, n, hends, rfl, hnot, hodd⟩
    have heven := (visits_headers_iff hname hends hnot n htext hturned).1 hvisit
    omega
  · intro hseen
    by_cases hends : ∃ base, EndsLikeHeader name base
    · obtain ⟨base, hends⟩ := hends
      obtain ⟨front, n, rfl, hnot⟩ := exists_headers base before
      refine (visits_headers_iff hname hends hnot n htext hturned).2 ?_
      by_contra hodd
      exact hseen ⟨base, front, n, hends, rfl, hnot, by omega⟩
    · exact visits_of_not_suffix hname htext hturned fun base hbase => absurd ⟨base, hbase⟩ hends

/-! ## What the search finds -/

/-- The search finds the first header of a name in a text, and nothing if there is none. -/
def FindsFirst (name text : Text) : Prop :=
  ∀ before behind, cutAtName? (header name) 0 text = some (before, behind) ↔ IsFirstNamed (header name) text before behind

theorem headerQuoted_iff : (edit name text).headerQuoted = true ↔ ∃ place, cutAtName? (header name) 0 text = some place := by
  rw [edit_eq rfl rfl]
  simp only [withHeader?, Option.isSome_map, Option.isSome_iff_exists]

/-- **The search finds the first header of a name just when it is not hidden.**  What it finds is a header in any case,
and where it finds the first there is none in a text that is said to have none. -/
theorem findsFirst_iff (hname : isIdentifier name = true) (text : Text) :
    (FindsFirst name text ↔
        ∀ before behind, IsFirstNamed (header name) text before behind → ¬ Hidden name before) ∧
      ((edit name text).headerQuoted = true → ∃ before behind, IsNamed (header name) text before behind) ∧
      (FindsFirst name text → ((edit name text).headerQuoted = false ↔
        ∀ before behind, ¬ IsNamed (header name) text before behind)) := by
  have hfound : ∀ {before behind}, IsFirstNamed (header name) text before behind → ¬ Hidden name before →
      cutAtName? (header name) 0 text = some (before, behind) := fun hfirst hseen =>
    (cutAtName?_eq_some_iff_visits header_ne_nil).2 ⟨hfirst.named, (visits_iff_not_hidden hname hfirst).2 hseen⟩
  refine ⟨⟨?_, ?_⟩, ?_, ?_⟩
  · intro hfinds before behind hfirst
    have hvisit := ((cutAtName?_eq_some_iff_visits header_ne_nil).1 ((hfinds before behind).2 hfirst)).2
    exact (visits_iff_not_hidden hname hfirst).1 hvisit
  · intro hseen before behind
    refine ⟨fun hcut => ?_, fun hfirst => hfound hfirst (hseen before behind hfirst)⟩
    obtain ⟨before', behind', hfirst⟩ := exists_isFirstNamed (cutAtName?_eq_some hcut)
    have hcut' := hfound hfirst (hseen before' behind' hfirst)
    obtain ⟨rfl, rfl⟩ := Prod.mk.inj (Option.some.inj (hcut.symm.trans hcut'))
    exact hfirst
  · intro hquoted
    obtain ⟨⟨before, behind⟩, hcut⟩ := headerQuoted_iff.1 hquoted
    exact ⟨before, behind, cutAtName?_eq_some hcut⟩
  · intro hfinds
    rw [← Bool.not_eq_true, headerQuoted_iff]
    constructor
    · intro hnone before behind hnamed
      obtain ⟨before', behind', hfirst⟩ := exists_isFirstNamed hnamed
      exact hnone ⟨_, (hfinds before' behind').2 hfirst⟩
    · rintro hnone ⟨⟨before, behind⟩, hcut⟩
      exact hnone before behind (cutAtName?_eq_some hcut)

/-- A header of a longer name with the header of the name behind it. -/
def lengthened : Text :=
  "declare module pq;\ndeclare module p;".toList

theorem findsFirst_iff_lengthened :
    isIdentifier ['p'] = true ∧ FindsFirst ['p'] lengthened ∧ (edit ['p'] lengthened).headerQuoted = true ∧
      ∃ before behind, IsNamed (header ['p']) lengthened before behind := by
  have hname : isIdentifier ['p'] = true := by decide
  have hquoted : (edit ['p'] lengthened).headerQuoted = true := by decide +kernel
  obtain ⟨hfinds, hsound, -⟩ := findsFirst_iff hname lengthened
  refine ⟨hname, hfinds.2 fun before behind _ hhidden => ?_, hquoted, hsound hquoted⟩
  obtain ⟨base, -, -, hends, -⟩ := hhidden
  exact absurd hends.mem (by decide)

/-- A header that begins inside the header of a longer name. -/
def overlapping : Text :=
  "declare module declare module d \x7b\n\x7d\nexport = d;\n".toList

/-- **A header that begins inside another is missed**, although no other comes first, and the text is said to have none. -/
theorem edit_misses_header :
    isIdentifier ['d'] = true ∧
      IsFirstNamed (header ['d']) overlapping "declare module ".toList " \x7b\n\x7d\nexport = d;\n".toList ∧
      edit ['d'] overlapping = ⟨"declare module declare module d \x7b\n\x7d\n".toList, false, true⟩ ∧
      cutAtName? (header ['d']) 0 overlapping = none ∧ ¬ FindsFirst ['d'] overlapping := by
  have hall : occurrences (header ['d']) overlapping =
      [([], "eclare module d \x7b\n\x7d\nexport = d;\n".toList),
        ("declare module ".toList, " \x7b\n\x7d\nexport = d;\n".toList)] := by
    decide +kernel
  have hfirst : IsFirstNamed (header ['d']) overlapping "declare module ".toList " \x7b\n\x7d\nexport = d;\n".toList := by
    refine ⟨⟨by decide +kernel, by decide⟩, fun {before behind} hnamed => ?_⟩
    have hmem := mem_occurrences_iff.2 hnamed.text_eq
    rw [hall, List.mem_cons, List.mem_singleton] at hmem
    rcases hmem with heq | heq
    · -- the one in front is of a longer name
      have hends := hnamed.ends
      rw [(Prod.mk.inj heq).2] at hends
      exact absurd hends (by decide)
    · exact Nat.le_of_eq (congrArg List.length (Prod.mk.inj heq).1.symm)
  have hnone : cutAtName? (header ['d']) 0 overlapping = none := by decide +kernel
  refine ⟨by decide, hfirst, by decide +kernel, hnone, fun hfinds => ?_⟩
  have hcut := (hfinds _ _).2 hfirst
  rw [hnone] at hcut
  cases hcut

end Declaration
end DtsBundle
