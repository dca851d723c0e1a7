import DtsBundle.Declaration
import DtsBundle.Proofs.Text.Lines
/-!
# Where a text stands in another

The occurrences of a wanted text are listed from first to last, each as what is before it and what is behind it, and
**the search for a text finds its first occurrence** (`cutAt?_eq_some_iff`).

Of a name only those count that no identifier character follows.  What the search for a name finds is one of them
(`cutAtName?_eq_some`).  It need not be the first: behind an occurrence that does not count the search goes on where that
one ends, and another may have begun inside it.  One that begins behind a character which the name has not is not
missed (`cutAtName?_ne_none`), so that one at the start of a line is not.

Such a character also parts the occurrences, each of which stands on one side of it, so that they are counted on either
side (`PartedBy.hits_append_cons`), and line by line (`PartedBy.hits_around`).
-/
namespace DtsBundle.Text

/-- The places where a wanted text stands in a text, from first to last. -/
def occurrences (wanted : Text) : Text → List (Text × Text)
  | [] => if wanted.isEmpty then [([], [])] else []
  | c :: rest =>
    ((after? wanted (c :: rest)).map fun behind => ([], behind)).toList
      ++ (occurrences wanted rest).map fun (before, behind) => (c :: before, behind)

/-- A wanted text stands in a text with so much before it and behind it, and nowhere earlier. -/
structure IsFirst (wanted text before behind : Text) : Prop where
  text_eq : text = before ++ wanted ++ behind
  le : ∀ {before' behind' : Text}, text = before' ++ wanted ++ behind' → before.length ≤ before'.length

/-- A wanted text stands in a text as a name: no identifier character follows. -/
structure IsNamed (wanted text before behind : Text) : Prop where
  text_eq : text = before ++ wanted ++ behind
  ends : continuesName behind = false

theorem mem_occurrences_iff {wanted : Text} :
    ∀ {text before behind : Text}, (before, behind) ∈ occurrences wanted text ↔ text = before ++ wanted ++ behind
  | [], before, behind => by
    rw [occurrences]
    cases wanted <;> simp
  | c :: rest, before, behind => by
    rw [occurrences, List.mem_append]
    simp only [Option.mem_toList, Option.map_eq_some_iff, List.mem_map, Prod.exists, mem_occurrences_iff,
      after?_eq_some_iff, Prod.mk.injEq]
    constructor
    · rintro (⟨_, htext, rfl, rfl⟩ | ⟨front, _, rfl, rfl, rfl⟩)
      · exact htext
      · rfl
    · intro htext
      cases before with
      | nil => exact .inl ⟨behind, htext, rfl, rfl⟩
      | cons d before =>
        obtain ⟨rfl, hrest⟩ := List.cons.inj htext
        exact .inr ⟨before, behind, hrest, rfl, rfl⟩

theorem pairwise_occurrences (wanted : Text) :
    ∀ text, (occurrences wanted text).Pairwise fun one other => one.1.length < other.1.length
  | [] => by
    rw [occurrences]
    cases wanted <;> simp
  | c :: rest => by
    have hrest : ((occurrences wanted rest).map fun (before, behind) => (c :: before, behind)).Pairwise
        fun one other => one.1.length < other.1.length :=
      (pairwise_occurrences wanted rest).map _ fun _ _ h => Nat.succ_lt_succ h
    rw [occurrences]
    cases after? wanted (c :: rest) with
    | none => exact hrest
    | some behind =>
      refine List.pairwise_cons.2 ⟨fun other hother => ?_, hrest⟩
      obtain ⟨_, -, rfl⟩ := List.mem_map.1 hother
      exact Nat.succ_pos _

/-! ## The first occurrence -/

theorem cutAt?_eq_head? (wanted : Text) : ∀ text, cutAt? wanted text = (occurrences wanted text).head?
  | [] => by
    rw [cutAt?, occurrences]
    cases wanted <;> rfl
  | c :: rest => by
    rw [cutAt?, occurrences]
    cases after? wanted (c :: rest) with
    | none => simp [cutAt?_eq_head? wanted rest]
    | some behind => rfl

/-- **The search for a text finds its first occurrence.** -/
theorem cutAt?_eq_some_iff {wanted text before behind : Text} :
    cutAt? wanted text = some (before, behind) ↔ IsFirst wanted text before behind := by
  have hordered := pairwise_occurrences wanted text
  rw [cutAt?_eq_head?]
  constructor
  · intro h
    obtain ⟨more, hmore⟩ := List.head?_eq_some_iff.1 h
    have hfirst : (before, behind) ∈ occurrences wanted text := hmore ▸ List.mem_cons_self
    refine ⟨mem_occurrences_iff.1 hfirst, fun {before' behind'} htext => ?_⟩
    have hother : (before', behind') ∈ occurrences wanted text := mem_occurrences_iff.2 htext
    rw [hmore] at hother hordered
    rcases List.mem_cons.1 hother with heq | hlater
    · exact Nat.le_of_eq (congrArg List.length (Prod.mk.inj heq).1.symm)
    · exact Nat.le_of_lt (List.rel_of_pairwise_cons hordered hlater)
  · rintro ⟨htext, hle⟩
    have hthere : (before, behind) ∈ occurrences wanted text := mem_occurrences_iff.2 htext
    obtain ⟨⟨first, rest⟩, more, hmore⟩ := List.exists_cons_of_ne_nil (List.ne_nil_of_mem hthere)
    have hfirst : text = first ++ wanted ++ rest := mem_occurrences_iff.1 (hmore ▸ List.mem_cons_self)
    rw [hmore] at hthere hordered
    rcases List.mem_cons.1 hthere with heq | hlater
    · rw [hmore, heq]
      rfl
    · exact absurd (List.rel_of_pairwise_cons hordered hlater) (Nat.not_lt.2 (hle hfirst))

theorem cutAt?_eq_none_iff {wanted text : Text} :
    cutAt? wanted text = none ↔ ∀ before behind, text ≠ before ++ wanted ++ behind := by
  rw [cutAt?_eq_head?, List.head?_eq_none_iff, List.eq_nil_iff_forall_not_mem]
  exact ⟨fun h before behind htext => h (before, behind) (mem_occurrences_iff.2 htext),
    fun h place hplace => h place.1 place.2 (mem_occurrences_iff.1 hplace)⟩

/-! ## Names -/

theorem IsNamed.cons {wanted rest before behind : Text} (c : Char) (h : IsNamed wanted rest before behind) :
    IsNamed wanted (c :: rest) (c :: before) behind :=
  ⟨congrArg (c :: ·) h.text_eq, h.ends⟩

/-- **What the search for a name finds is an occurrence that no identifier character follows.** -/
theorem cutAtName?_eq_some {wanted : Text} : ∀ {skip : Nat} {text before behind : Text},
    cutAtName? wanted skip text = some (before, behind) → IsNamed wanted text before behind
  | _, [], before, behind, h => by
    rw [cutAtName?] at h
    cases h
  | skip, c :: rest, before, behind, h => by
    -- wherever the search goes on, it has found nothing in front
    have hlater : ∀ {skip : Nat}, ((cutAtName? wanted skip rest).map fun (before, behind) => (c :: before, behind)) =
        some (before, behind) → IsNamed wanted (c :: rest) before behind := by
      intro skip hmap
      obtain ⟨⟨before', behind'⟩, hfound, heq⟩ := Option.map_eq_some_iff.1 hmap
      obtain ⟨rfl, rfl⟩ := Prod.mk.inj heq
      exact (cutAtName?_eq_some hfound).cons c
    cases skip with
    | succ skip => exact hlater h
    | zero =>
      rw [cutAtName?] at h
      split at h
      · rename_i behind' hafter
        split at h
        · exact hlater h
        · rename_i hends
          obtain ⟨rfl, rfl⟩ := Prod.mk.inj (Option.some.inj h)
          exact ⟨after?_eq_some_iff.1 hafter, Bool.eq_false_iff.2 hends⟩
      · exact hlater h

/-- An occurrence that ends inside another text ends before the last character of that one, if it has not that
character. -/
theorem length_lt_of_not_mem {wanted front behind rest : Text} {c : Char} (hc : c ∉ wanted) (hfront : front.getLast? = some c)
    (h : front ++ rest = wanted ++ behind) : wanted.length < front.length := by
  refine Nat.lt_of_not_le fun hlong => ?_
  have hwithin : front <+: wanted :=
    List.prefix_of_prefix_length_le (List.prefix_append front rest) (h ▸ List.prefix_append wanted behind) hlong
  exact hc (hwithin.subset (List.mem_of_getLast? hfront))

/-- **A name that begins a text, or begins behind a character it has not, is not missed.** -/
theorem cutAtName?_ne_none {wanted behind : Text} {c : Char} (hne : wanted ≠ []) (hc : c ∉ wanted)
    (hends : continuesName behind = false) : ∀ {before : Text} {skip : Nat}, skip ≤ before.length →
      (before = [] ∨ before.getLast? = some c) → cutAtName? wanted skip (before ++ (wanted ++ behind)) ≠ none
  | [], skip, hskip, _ => by
    obtain ⟨w, more, rfl⟩ := List.exists_cons_of_ne_nil hne
    obtain rfl := Nat.le_zero.1 hskip
    rw [List.nil_append, List.cons_append, cutAtName?, ← List.cons_append, after?_append]
    simp [hends]
  | d :: before, skip, hskip, hlast => by
    have hlast := hlast.resolve_left (List.cons_ne_nil d before)
    have hrest : before = [] ∨ before.getLast? = some c := by
      cases before with
      | nil => exact .inl rfl
      | cons e before => exact .inr (List.getLast?_cons_cons ▸ hlast)
    have hlater : ∀ {skip : Nat}, skip ≤ before.length →
        ((cutAtName? wanted skip (before ++ (wanted ++ behind))).map fun (before, behind) => (d :: before, behind)) ≠ none :=
      fun hskip hnone => cutAtName?_ne_none hne hc hends hskip hrest (Option.map_eq_none_iff.1 hnone)
    cases skip with
    | succ skip => exact hlater (Nat.le_of_succ_le_succ hskip)
    | zero =>
      rw [List.cons_append, cutAtName?]
      split
      · rename_i behind' hafter
        split
        · have hshort := length_lt_of_not_mem hc hlast (after?_eq_some_iff.1 hafter)
          rw [List.length_cons] at hshort
          exact hlater (by omega)
        · exact Option.some_ne_none _
      · exact hlater (Nat.zero_le _)

/-! ## How often a text stands in another -/

/-- How often a wanted text stands in a text with something behind it that fits. -/
def hits (fits : Text → Bool) (wanted text : Text) : Nat :=
  (occurrences wanted text).countP fun place => fits place.2

section
variable {fits : Text → Bool} {wanted : Text}

theorem hits_nil (hne : wanted ≠ []) : hits fits wanted [] = 0 := by
  rw [hits, occurrences, List.isEmpty_eq_false_iff.2 hne]
  rfl

theorem hits_cons (c : Char) (rest : Text) :
    hits fits wanted (c :: rest) = ((after? wanted (c :: rest)).any fits).toNat + hits fits wanted rest := by
  rw [hits, occurrences, List.countP_append, List.countP_map]
  cases after? wanted (c :: rest) with
  | none => rfl
  | some behind => cases h : fits behind <;> simp [h, hits, Function.comp_def]

theorem hits_le_append (rest : Text) : ∀ front : Text, hits fits wanted rest ≤ hits fits wanted (front ++ rest)
  | [] => Nat.le_refl _
  | c :: front => by
    rw [List.cons_append, hits_cons]
    exact Nat.le_add_left_of_le (hits_le_append rest front)

theorem hits_append_self {rest : Text} (hne : wanted ≠ []) (hfits : fits rest = true) :
    hits fits wanted rest + 1 ≤ hits fits wanted (wanted ++ rest) := by
  obtain ⟨w, more, rfl⟩ := List.exists_cons_of_ne_nil hne
  have hmore : hits fits (w :: more) rest ≤ hits fits (w :: more) (more ++ rest) := hits_le_append rest more
  rw [List.cons_append, hits_cons, ← List.cons_append, after?_append, Option.any_some, hfits]
  simp only [Bool.toNat_true]
  omega

theorem hits_pos {text before behind : Text} (htext : text = before ++ wanted ++ behind) (hfits : fits behind = true) :
    0 < hits fits wanted text :=
  List.countP_pos_iff.2 ⟨(before, behind), mem_occurrences_iff.2 htext, hfits⟩

theorem hits_eq_zero_iff {text : Text} :
    hits fits wanted text = 0 ↔ ∀ before behind, text = before ++ wanted ++ behind → fits behind = false := by
  rw [hits, List.countP_eq_zero]
  exact ⟨fun h before behind htext => Bool.eq_false_iff.2 (h (before, behind) (mem_occurrences_iff.2 htext)),
    fun h place hplace => Bool.eq_false_iff.1 (h place.1 place.2 (mem_occurrences_iff.1 hplace))⟩

theorem hits_eq_zero_of_length {text : Text} (h : text.length < wanted.length) : hits fits wanted text = 0 := by
  refine hits_eq_zero_iff.2 fun before behind htext => ?_
  rw [htext, List.length_append, List.length_append] at h
  omega

/-- **What stands in a text once stands in one place.** -/
theorem eq_of_hits_eq_one {text before behind before' behind' : Text} (h : hits fits wanted text = 1)
    (htext : text = before ++ wanted ++ behind) (hfits : fits behind = true) (htext' : text = before' ++ wanted ++ behind')
    (hfits' : fits behind' = true) : before' = before ∧ behind' = behind := by
  rw [hits, List.countP_eq_length_filter] at h
  obtain ⟨place, hplace⟩ := List.length_eq_one_iff.1 h
  have hmem : ∀ {before behind : Text}, text = before ++ wanted ++ behind → fits behind = true → (before, behind) = place :=
    fun htext hfits => List.mem_singleton.1 (hplace ▸ List.mem_filter.2 ⟨mem_occurrences_iff.2 htext, hfits⟩)
  exact Prod.mk.inj ((hmem htext' hfits').trans (hmem htext hfits).symm)

theorem after?_append_cons {c : Char} (rest : Text) : ∀ {wanted : Text}, c ∉ wanted → ∀ front : Text,
    after? wanted (front ++ c :: rest) = (after? wanted front).map (· ++ c :: rest)
  | [], _, _ => rfl
  | w :: wanted, hc, [] => by
    have hne : ¬ w = c := fun e => List.ne_of_not_mem_cons hc e.symm
    simp [after?, hne]
  | w :: wanted, hc, d :: front => by
    rw [List.cons_append, after?, after?, after?_append_cons rest (List.not_mem_of_not_mem_cons hc) front]
    split <;> rfl

theorem after?_cons_of_not_mem {c : Char} (hne : wanted ≠ []) (hc : c ∉ wanted) (rest : Text) :
    after? wanted (c :: rest) = none := by
  obtain ⟨w, more, rfl⟩ := List.exists_cons_of_ne_nil hne
  exact after?_append_cons rest hc []

/-- A character that no occurrence reaches across: the wanted text has it not, and what stands behind it makes no
difference to what fits in front of it. -/
structure PartedBy (c : Char) (fits : Text → Bool) (wanted : Text) : Prop where
  ne_nil : wanted ≠ []
  not_mem : c ∉ wanted
  fits_append : ∀ behind rest, fits (behind ++ c :: rest) = fits behind

/-- **What a character parts is counted on either side of it.** -/
theorem PartedBy.hits_append_cons {c : Char} (h : PartedBy c fits wanted) (rest : Text) :
    ∀ front : Text, hits fits wanted (front ++ c :: rest) = hits fits wanted front + hits fits wanted rest
  | [] => by
    rw [List.nil_append, hits_cons, after?_cons_of_not_mem h.ne_nil h.not_mem, hits_nil h.ne_nil]
    rfl
  | d :: front => by
    rw [List.cons_append, hits_cons, hits_cons, ← List.cons_append, after?_append_cons rest h.not_mem,
      h.hits_append_cons rest front, Option.any_map]
    simp only [h.fits_append, Nat.add_assoc]

/-! ## Line by line -/

theorem PartedBy.hits_ended_append (h : PartedBy '\n' fits wanted) (text : Text) : ∀ front : List Text,
    hits fits wanted (ended front ++ text) = hits fits wanted (ended front) + hits fits wanted text
  | [] => by rw [ended_nil, List.nil_append, hits_nil h.ne_nil, Nat.zero_add]
  | first :: front => by
    rw [ended_cons, List.append_assoc, List.cons_append, h.hits_append_cons, h.hits_append_cons,
      h.hits_ended_append text front, Nat.add_assoc]

theorem PartedBy.hits_begun_cons (h : PartedBy '\n' fits wanted) (next : Text) (more : List Text) :
    hits fits wanted (begun (next :: more)) = hits fits wanted (next ++ begun more) := by
  have hbegun := h.hits_append_cons (next ++ begun more) []
  rw [List.nil_append, hits_nil h.ne_nil, Nat.zero_add] at hbegun
  exact hbegun

theorem PartedBy.hits_append_begun (h : PartedBy '\n' fits wanted) (line : Text) (back : List Text) :
    hits fits wanted (line ++ begun back) = hits fits wanted line + hits fits wanted (begun back) := by
  cases back with
  | nil => rw [begun_nil, List.append_nil, hits_nil h.ne_nil, Nat.add_zero]
  | cons next more => rw [h.hits_begun_cons, begun_cons, h.hits_append_cons]

/-- **What does not reach past a line is counted above it, in it and below it.** -/
theorem PartedBy.hits_around (h : PartedBy '\n' fits wanted) (front : List Text) (line : Text) (back : List Text) :
    hits fits wanted (ended front ++ (line ++ begun back)) =
      hits fits wanted (ended front) + (hits fits wanted line + hits fits wanted (begun back)) := by
  rw [h.hits_ended_append, h.hits_append_begun]

end

end DtsBundle.Text
