import DtsBundle.Proofs.Text.Occurrence
/-!
# Where the search for a name looks

The search for a name moves by one character where the wanted text does not stand, and by the whole wanted text where it
stands and a longer name begins with it.  The places it looks at are the ones it visits: **what it finds is an occurrence
of the name at a place it visits** (`cutAtName?_eq_some_iff_visits`).

An occurrence is passed over if it begins inside another one that the search has turned away.  As long as there is
nothing to find, **a place is visited just when it is not inside an occurrence that was visited** (`visits_iff`).
-/
namespace DtsBundle.Text

/-- The places at which the search for a name looks: the start of the text, then the place behind a character at which
the wanted text does not stand, and the end of an occurrence that an identifier character follows. -/
inductive Visits (wanted text : Text) : Nat → Prop
  | start : Visits wanted text 0
  | past {i : Nat} {c : Char} {rest : Text} (hvisit : Visits wanted text i) (hdrop : text.drop i = c :: rest)
    (hnot : after? wanted (c :: rest) = none) : Visits wanted text (i + 1)
  | turned {i : Nat} {behind : Text} (hvisit : Visits wanted text i) (hdrop : text.drop i = wanted ++ behind)
    (hmore : continuesName behind = true) : Visits wanted text (i + wanted.length)

variable {wanted text before behind : Text} {i p : Nat}

/-! ## What is found is visited -/

theorem cutAtName?_passed (wanted rest : Text) : ∀ front : Text, cutAtName? wanted front.length (front ++ rest) =
    (cutAtName? wanted 0 rest).map fun (before, behind) => (front ++ before, behind)
  | [] => by simp
  | c :: front => by
    rw [List.cons_append, List.length_cons, cutAtName?, cutAtName?_passed wanted rest front, Option.map_map]
    rfl

/-- The search goes on behind an occurrence that it turns away. -/
theorem cutAtName?_turned (hne : wanted ≠ []) (hmore : continuesName behind = true) :
    cutAtName? wanted 0 (wanted ++ behind) =
      (cutAtName? wanted 0 behind).map fun (before, behind) => (wanted ++ before, behind) := by
  obtain ⟨w, rest, rfl⟩ := List.exists_cons_of_ne_nil hne
  have hpassed := cutAtName?_passed (w :: rest) behind rest
  have hafter : after? (w :: rest) (w :: (rest ++ behind)) = some behind := after?_append (w :: rest) behind
  rw [List.cons_append, cutAtName?, hafter]
  simp only [hmore, if_true, List.length_cons, Nat.add_sub_cancel, hpassed, Option.map_map]
  rfl

theorem cutAtName?_here (hne : wanted ≠ []) (hends : continuesName behind = false) :
    cutAtName? wanted 0 (wanted ++ behind) = some ([], behind) := by
  obtain ⟨w, rest, rfl⟩ := List.exists_cons_of_ne_nil hne
  have hafter : after? (w :: rest) (w :: (rest ++ behind)) = some behind := after?_append (w :: rest) behind
  rw [List.cons_append, cutAtName?, hafter]
  simp [hends]

theorem take_succ_of_drop {c : Char} {rest : Text} (h : text.drop i = c :: rest) :
    text.take (i + 1) = text.take i ++ [c] ∧ text.drop (i + 1) = rest := by
  constructor
  · rw [List.take_add, h]
    rfl
  · rw [← List.drop_drop, h]
    rfl

theorem take_add_of_drop (h : text.drop i = wanted ++ behind) :
    text.take (i + wanted.length) = text.take i ++ wanted ∧ text.drop (i + wanted.length) = behind := by
  constructor
  · rw [List.take_add, h, List.take_left]
  · rw [← List.drop_drop, h, List.drop_left]

/-- Where the search has come to a place, it has found nothing in front of it. -/
theorem Visits.cutAtName?_eq (hne : wanted ≠ []) (h : Visits wanted text i) : cutAtName? wanted 0 text =
    (cutAtName? wanted 0 (text.drop i)).map fun (before, behind) => (text.take i ++ before, behind) := by
  induction h with
  | start => simp
  | @past i c rest hvisit hdrop hnot ih =>
    obtain ⟨htake, hrest⟩ := take_succ_of_drop hdrop
    have hmoved : cutAtName? wanted 0 (c :: rest) =
        (cutAtName? wanted 0 rest).map fun (before, behind) => (c :: before, behind) := by
      rw [cutAtName?, hnot]
    rw [ih, hdrop, hmoved, htake, hrest, Option.map_map]
    simp [Function.comp_def]
  | @turned i behind hvisit hdrop hmore ih =>
    obtain ⟨htake, hrest⟩ := take_add_of_drop hdrop
    rw [ih, hdrop, cutAtName?_turned hne hmore, htake, hrest, Option.map_map]
    simp [Function.comp_def]

theorem Visits.of_cutAtName? (hne : wanted ≠ []) {n : Nat} : ∀ {i : Nat} {before : Text}, (text.drop i).length = n →
    Visits wanted text i → cutAtName? wanted 0 (text.drop i) = some (before, behind) →
    Visits wanted text (i + before.length) := by
  -- on what is left of the text, as the search may jump by more than a character
  induction n using Nat.strongRecOn with
  | ind n ih =>
    intro i before hlength hvisit hfound
    cases hdrop : text.drop i with
    | nil =>
      rw [hdrop, cutAtName?] at hfound
      cases hfound
    | cons c rest =>
      rw [hdrop, List.length_cons] at hlength
      cases hafter : after? wanted (c :: rest) with
      | none =>
        rw [hdrop, cutAtName?, hafter] at hfound
        obtain ⟨⟨front, back⟩, hfront, heq⟩ := Option.map_eq_some_iff.1 hfound
        obtain ⟨rfl, rfl⟩ := Prod.mk.inj heq
        have hrest := (take_succ_of_drop hdrop).2
        have hlater := ih rest.length (by omega) (congrArg List.length hrest) (.past hvisit hdrop hafter)
          (hrest ▸ hfront)
        rw [List.length_cons, Nat.add_comm front.length, ← Nat.add_assoc]
        exact hlater
      | some back =>
        have hhere : text.drop i = wanted ++ back := hdrop.trans (after?_eq_some_iff.1 hafter)
        rw [hhere] at hfound
        by_cases hmore : continuesName back = true
        · rw [cutAtName?_turned hne hmore] at hfound
          obtain ⟨⟨front, last⟩, hfront, heq⟩ := Option.map_eq_some_iff.1 hfound
          obtain ⟨rfl, rfl⟩ := Prod.mk.inj heq
          have hrest := (take_add_of_drop hhere).2
          have hshorter : back.length < n := by
            have hwhole := congrArg List.length (after?_eq_some_iff.1 hafter)
            have hpos := List.length_pos_iff.2 hne
            rw [List.length_append, List.length_cons] at hwhole
            omega
          have hlater := ih back.length hshorter (congrArg List.length hrest) (.turned hvisit hhere hmore)
            (hrest ▸ hfront)
          rw [List.length_append, ← Nat.add_assoc]
          exact hlater
        · rw [cutAtName?_here hne (Bool.eq_false_iff.2 hmore)] at hfound
          obtain ⟨rfl, -⟩ := Prod.mk.inj (Option.some.inj hfound)
          exact hvisit

theorem IsNamed.drop_eq (h : IsNamed wanted text before behind) : text.drop before.length = wanted ++ behind := by
  rw [h.text_eq, List.append_assoc, List.drop_left]

/-- **The search finds the name at a place that it visits.** -/
theorem cutAtName?_eq_some_iff_visits (hne : wanted ≠ []) : cutAtName? wanted 0 text = some (before, behind) ↔
    IsNamed wanted text before behind ∧ Visits wanted text before.length := by
  constructor
  · intro h
    have hvisits := Visits.of_cutAtName? hne rfl .start h
    rw [Nat.zero_add] at hvisits
    exact ⟨cutAtName?_eq_some h, hvisits⟩
  · rintro ⟨hnamed, hvisits⟩
    have htake : text.take before.length = before := by rw [hnamed.text_eq, List.append_assoc, List.take_left]
    rw [hvisits.cutAtName?_eq hne, hnamed.drop_eq, cutAtName?_here hne hnamed.ends, htake]
    simp

/-! ## What is passed over -/

/-- Behind an occurrence that it visits the search goes on at its end. -/
theorem Visits.add_length_le (hne : wanted ≠ []) : ∀ {p i : Nat} {behind : Text}, Visits wanted text p →
    Visits wanted text i → text.drop i = wanted ++ behind → i < p → i + wanted.length ≤ p := by
  intro p
  have hpos := List.length_pos_iff.2 hne
  induction p using Nat.strongRecOn with
  | ind p ih =>
    intro i behind hp hi hdrop hlt
    cases hp with
    | start => exact absurd hlt (Nat.not_lt_zero i)
    | @past q c rest hq hrest hnot =>
      rcases Nat.lt_or_eq_of_le (Nat.le_of_lt_succ hlt) with hlt | rfl
      · exact Nat.le_succ_of_le (ih q (Nat.lt_succ_self q) hq hi hdrop hlt)
      · rw [← hrest, hdrop, after?_append] at hnot
        cases hnot
    | @turned q back hq hrest hmore =>
      rcases Nat.lt_trichotomy i q with hlt' | rfl | hgt
      · have hle := ih q (by omega) hq hi hdrop hlt'
        omega
      · exact Nat.le_refl _
      · -- the search would have come to `i` inside the occurrence at `q`
        have hle := ih i hlt hi hq hrest hgt
        omega

/-- Where there is nothing to find in front, the search comes to a place or passes it inside an occurrence. -/
theorem visits_or_inside (hne : wanted ≠ []) (hp : p ≤ text.length)
    (hturned : ∀ i behind, i < p → text.drop i = wanted ++ behind → continuesName behind = true) :
    Visits wanted text p ∨
      ∃ i behind, Visits wanted text i ∧ text.drop i = wanted ++ behind ∧ i < p ∧ p < i + wanted.length := by
  induction p with
  | zero => exact .inl .start
  | succ p ih =>
    have hbefore := ih (Nat.le_of_succ_le hp) fun i behind hlt => hturned i behind (Nat.lt_succ_of_lt hlt)
    rcases hbefore with hvisit | ⟨i, behind, hvisit, hdrop, hlt, hinside⟩
    · have hleft : text.drop p ≠ [] := fun hnil => absurd (List.drop_eq_nil_iff.1 hnil) (by omega)
      obtain ⟨c, rest, hdrop⟩ := List.exists_cons_of_ne_nil hleft
      cases hafter : after? wanted (c :: rest) with
      | none => exact .inl (.past hvisit hdrop hafter)
      | some behind =>
        have hhere : text.drop p = wanted ++ behind := hdrop.trans (after?_eq_some_iff.1 hafter)
        have hpos := List.length_pos_iff.2 hne
        -- an occurrence of one character has nothing inside
        by_cases hone : wanted.length = 1
        · exact .inl (hone ▸ .turned hvisit hhere (hturned p behind (Nat.lt_succ_self p) hhere))
        · exact .inr ⟨p, behind, hvisit, hhere, Nat.lt_succ_self p, by omega⟩
    · by_cases hend : p + 1 = i + wanted.length
      · exact .inl (hend ▸ .turned hvisit hdrop (hturned i behind (by omega) hdrop))
      · exact .inr ⟨i, behind, hvisit, hdrop, by omega, by omega⟩

/-- **Where there is nothing to find in front, a place is visited unless an occurrence that was visited reaches across
it.** -/
theorem visits_iff (hne : wanted ≠ []) (hp : p ≤ text.length)
    (hturned : ∀ i behind, i < p → text.drop i = wanted ++ behind → continuesName behind = true) :
    Visits wanted text p ↔
      ∀ i behind, Visits wanted text i → text.drop i = wanted ++ behind → i < p → i + wanted.length ≤ p := by
  constructor
  · intro hvisit i behind hi hdrop hlt
    exact hvisit.add_length_le hne hi hdrop hlt
  · intro hclear
    rcases visits_or_inside hne hp hturned with hvisit | ⟨i, behind, hi, hdrop, hlt, hinside⟩
    · exact hvisit
    · exact absurd (hclear i behind hi hdrop hlt) (Nat.not_le.2 hinside)

end DtsBundle.Text
