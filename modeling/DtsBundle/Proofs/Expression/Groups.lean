import DtsBundle.Proofs.Expression.Search
/-!
# What groups take

Most expressions mark nothing and take any text of some kind (`Takes`).  A place splits the text in two (`Splits`), and
**such an expression goes on behind a text of its kind** (`Takes.matches_iff`).  **A group around it marks the two ends of
that text** (`Takes.group_iff`), from which the text is had again (`Match.group?_eq`).
-/
namespace DtsBundle

namespace Expression

variable {text front rest t : Text} {a b : Place} {expression other : Expression} {P Q : Text → Prop}

/-! ## Texts of a kind -/

/-- From one place to another past so much of the text, with nothing marked. -/
def Passes (text t : Text) (a b : Place) : Prop :=
  t <+: text.drop a.index ∧ a.past t.length = b

/-- An expression takes the texts of a kind, and marks nothing. -/
def Takes (text : Text) (expression : Expression) (P : Text → Prop) : Prop :=
  ∀ a b, expression.Matches text a b ↔ ∃ t, P t ∧ Passes text t a b

theorem takes_literal (t : Text) : Takes text (literal t) (· = t) :=
  fun _ _ => ⟨fun h => ⟨t, rfl, h⟩, fun ⟨_, heq, h⟩ => heq ▸ h⟩

theorem Takes.choice (h : Takes text expression P) (h' : Takes text other Q) :
    Takes text (expression.choice other) fun t => P t ∨ Q t := by
  intro a b
  rw [Matches, h, h', ← exists_or]
  exact exists_congr fun t => or_and_right.symm

theorem passes_nil_iff : Passes text [] a b ↔ a = b :=
  ⟨fun h => h.2, fun h => ⟨List.nil_prefix, h⟩⟩

theorem passes_cons_iff {c : Char} :
    Passes text (c :: t) a b ↔ ∃ middle, (a.after text = some c ∧ a.past 1 = middle) ∧ Passes text t middle b := by
  rw [Passes, List.length_cons, ← literal_cons_iff]
  constructor
  · rintro ⟨middle, ⟨d, hd, hhas, hmiddle⟩, hrest⟩
    obtain rfl := CharSet.has_only_iff.1 hhas
    exact ⟨middle, ⟨hd, hmiddle⟩, hrest⟩
  · rintro ⟨middle, ⟨hc, hmiddle⟩, hrest⟩
    exact ⟨middle, ⟨c, hc, CharSet.has_only_iff.2 rfl, hmiddle⟩, hrest⟩

/-- Characters of a set in a row. -/
theorem times_one_set_iff {set : CharSet} : ∀ {n : Nat} {a : Place}, Times ((one set).Matches text) n a b ↔
    ∃ t : Text, (t.length = n ∧ ∀ c ∈ t, set.has c = true) ∧ Passes text t a b
  | 0, a => by
    constructor
    · rintro rfl
      exact ⟨[], ⟨rfl, List.forall_mem_nil _⟩, passes_nil_iff.2 rfl⟩
    · rintro ⟨t, ⟨hlength, -⟩, hpasses⟩
      obtain rfl := List.length_eq_zero_iff.1 hlength
      exact passes_nil_iff.1 hpasses
  | n + 1, a => by
    constructor
    · rintro ⟨middle, ⟨c, hc, hhas, hmiddle⟩, hrest⟩
      obtain ⟨t, ⟨rfl, hall⟩, hpasses⟩ := times_one_set_iff.1 hrest
      exact ⟨c :: t, ⟨rfl, List.forall_mem_cons.2 ⟨hhas, hall⟩⟩, passes_cons_iff.2 ⟨middle, ⟨hc, hmiddle⟩, hpasses⟩⟩
    · rintro ⟨t, ⟨hlength, hall⟩, hpasses⟩
      obtain ⟨c, t, rfl⟩ := List.exists_cons_of_length_eq_add_one hlength
      obtain ⟨hhas, hall⟩ := List.forall_mem_cons.1 hall
      obtain ⟨middle, ⟨hc, hmiddle⟩, hrest⟩ := passes_cons_iff.1 hpasses
      exact ⟨middle, ⟨c, hc, hhas, hmiddle⟩, times_one_set_iff.2 ⟨t, ⟨Nat.succ.inj hlength, hall⟩, hrest⟩⟩

theorem takes_repeated_one (set : CharSet) (least : Nat) (greedy : Bool) :
    Takes text (repeated (one set) least none greedy) fun t => least ≤ t.length ∧ ∀ c ∈ t, set.has c = true := by
  intro a b
  constructor
  · rintro ⟨n, hleast, -, htimes⟩
    obtain ⟨t, ⟨rfl, hall⟩, hpasses⟩ := times_one_set_iff.1 htimes
    exact ⟨t, ⟨hleast, hall⟩, hpasses⟩
  · rintro ⟨t, ⟨hleast, hall⟩, hpasses⟩
    exact ⟨t.length, hleast, fun _ hm => absurd hm (Option.not_mem_none _), times_one_set_iff.2 ⟨t, ⟨rfl, hall⟩, hpasses⟩⟩

/-! ## Places by what is in front of them -/

/-- A place is where a text is split in two. -/
def Splits (text front rest : Text) (place : Place) : Prop :=
  text = front ++ rest ∧ place.index = front.length

theorem splits_start (text : Text) (marks : List (Nat × Nat)) : Splits text [] text ⟨0, marks⟩ :=
  ⟨rfl, rfl⟩

theorem Splits.passes_iff (h : Splits text front rest a) :
    Passes text t a b ↔ ∃ rest', rest = t ++ rest' ∧ Splits text (front ++ t) rest' b ∧ b.marks = a.marks := by
  obtain ⟨rfl, hindex⟩ := h
  obtain ⟨index, marks⟩ := b
  rw [Passes, hindex, List.drop_left, Place.past, Place.mk.injEq, hindex]
  constructor
  · rintro ⟨⟨rest', rfl⟩, hlength, hmarks⟩
    exact ⟨rest', rfl, ⟨(List.append_assoc _ _ _).symm, by rw [List.length_append, hlength]⟩, hmarks.symm⟩
  · rintro ⟨rest', rfl, ⟨-, hlength⟩, hmarks⟩
    rw [List.length_append] at hlength
    exact ⟨List.prefix_append t rest', hlength.symm, hmarks.symm⟩

/-- **An expression of a kind goes on behind a text of the kind.** -/
theorem Takes.matches_iff (h : Takes text expression P) (hsplits : Splits text front rest a) :
    expression.Matches text a b ↔
      ∃ t rest', (P t ∧ rest = t ++ rest') ∧ Splits text (front ++ t) rest' b ∧ b.marks = a.marks := by
  rw [h]
  refine exists_congr fun t => ?_
  rw [hsplits.passes_iff]
  constructor
  · rintro ⟨ht, rest', hrest, hb⟩
    exact ⟨rest', ⟨ht, hrest⟩, hb⟩
  · rintro ⟨rest', ⟨ht, hrest⟩, hb⟩
    exact ⟨ht, rest', hrest, hb⟩

/-- **A group marks the ends of the text it takes.** -/
theorem Takes.group_iff {index : Nat} (h : Takes text expression P) (hsplits : Splits text front rest a) :
    (group index expression).Matches text a b ↔ ∃ t rest', (P t ∧ rest = t ++ rest') ∧ Splits text (front ++ t) rest' b ∧
      b.marks = (2 * index + 1, (front ++ t).length) :: (2 * index, front.length) :: a.marks := by
  have hinner : Splits text front rest (a.mark (2 * index)) := hsplits
  constructor
  · rintro ⟨stop, hmatches, rfl⟩
    obtain ⟨t, rest', ht, hstop, hmarks⟩ := (h.matches_iff hinner).1 hmatches
    refine ⟨t, rest', ht, hstop, ?_⟩
    simp only [Place.mark] at hmarks ⊢
    rw [hmarks, hstop.2, hsplits.2]
  · rintro ⟨t, rest', ht, hstop, hmarks⟩
    refine ⟨⟨b.index, (2 * index, front.length) :: a.marks⟩, (h.matches_iff hinner).2 ⟨t, rest', ht, hstop, ?_⟩, ?_⟩
    · simp only [Place.mark, hsplits.2]
    · simp only [Place.mark]
      rw [hstop.2, ← hmarks]
      exact congrArg (Place.mk · b.marks) hstop.2.symm

theorem Takes.exists_matches (h : Takes text expression P) (hsplits : Splits text front (t ++ rest) a) (ht : P t) :
    ∃ b, expression.Matches text a b ∧ Splits text (front ++ t) rest b := by
  have hb : Splits text (front ++ t) rest ⟨(front ++ t).length, a.marks⟩ := ⟨by rw [hsplits.1, List.append_assoc], rfl⟩
  exact ⟨_, (h.matches_iff hsplits).2 ⟨t, rest, ⟨ht, rfl⟩, hb, rfl⟩, hb⟩

theorem Takes.exists_group {index : Nat} (h : Takes text expression P) (hsplits : Splits text front (t ++ rest) a)
    (ht : P t) : ∃ b, (group index expression).Matches text a b ∧ Splits text (front ++ t) rest b := by
  have hinner : Splits text front (t ++ rest) (a.mark (2 * index)) := hsplits
  obtain ⟨b, hmatches, hb⟩ := h.exists_matches hinner ht
  exact ⟨b.mark (2 * index + 1), ⟨b, hmatches, rfl⟩, hb⟩

theorem look_textEnd_iff (hsplits : Splits text front rest a) :
    (look .textEnd).Matches text a b ↔ rest = [] ∧ a = b := by
  obtain ⟨rfl, hindex⟩ := hsplits
  rw [Matches, Place.after, hindex, List.drop_left]
  refine and_congr_left fun _ => ?_
  cases rest <;> simp [Look.holds]

theorem look_textStart_iff {i : Nat} {marks : List (Nat × Nat)} (hi : i ≤ text.length) :
    (look .textStart).Matches text ⟨i, marks⟩ b ↔ i = 0 ∧ ⟨i, marks⟩ = b := by
  rw [Matches, Place.before]
  refine and_congr_left fun _ => ?_
  simp only [Look.holds, Option.isNone_iff_eq_none, List.getLast?_eq_none_iff, List.take_eq_nil_iff]
  constructor
  · rintro (rfl | rfl)
    · rfl
    · exact Nat.le_zero.1 hi
  · exact .inl

/-- **A search is a scan**, if a match anywhere says what the scan says and what the scan accepts is matched. -/
theorem search?_bind_eq {α : Type} {expression : Expression} {line : Text} {take : Match → Option α} {scan : Text → Option α}
    (hsound : ∀ i ≤ line.length, ∀ stop, expression.Matches line ⟨i, []⟩ stop →
      ∃ x, scan line = some x ∧ take ⟨line, stop.marks⟩ = some x)
    (hcomplete : ∀ x, scan line = some x → ∃ stop, expression.Matches line ⟨0, []⟩ stop) :
    (expression.automaton.search? line >>= take) = scan line := by
  cases hfound : expression.automaton.search? line with
  | none =>
    symm
    rw [Option.bind_eq_bind, Option.bind_none, Option.eq_none_iff_forall_ne_some]
    intro x hx
    obtain ⟨stop, hmatches⟩ := hcomplete x hx
    have hsome := (expression.search?_isSome_iff line).2 ⟨0, Nat.zero_le _, stop, hmatches⟩
    rw [hfound] at hsome
    cases hsome
  | some found =>
    obtain ⟨htext, i, hi, index, hmatches⟩ := exists_matches_of_search? hfound
    obtain ⟨x, hscan, htake⟩ := hsound i hi _ hmatches
    rw [hscan, ← htake, ← htext]
    rfl

end Expression

/-- **What a group took is what stands between its marks.** -/
theorem Match.group?_eq {found : Match} {front t rest : Text} {index : Nat} (htext : found.text = front ++ t ++ rest)
    (hstart : found.marks.lookup (2 * index) = some front.length)
    (hstop : found.marks.lookup (2 * index + 1) = some (front ++ t).length) : found.group? index = some t := by
  simp only [group?, hstart, hstop, htext, Option.bind_eq_bind, Option.bind_some, Option.pure_def, Option.some.injEq]
  rw [List.append_assoc, List.drop_left, List.length_append, Nat.add_sub_cancel_left, List.take_left]

end DtsBundle
