import DtsBundle.Proofs.Layout.Distinct
import DtsBundle.Proofs.Layout.Rereading
import Mathlib.Data.List.Induction
/-!
# Names that are given more than once

An object can give a name again and again, at any depth.  What counts is each name once, at the place where it first
stands and with the value it was given last (`lastOfEach`); `settled` is an object with nothing else left in it.  Whether
an object is a layout at all is decided by everything in it, what is overwritten included: every value has to be a string
or an object of the same kind (`Shaped`).  **The layout that such an object states is the settled object**
(`ofMembers?_eq_some_iff_settled`).

A layout is seen through its names and what each stands for; these two tell its members, since no name stands twice.
-/
namespace DtsBundle

/-- Each name once, where it first stands, with what it was given last. -/
def lastOfEach {α : Type} (members : List (Text × α)) : List (Text × α) :=
  (members.map Prod.fst).eraseDups.filterMap fun name => members.findRev? (·.1 == name)

theorem lastOfEach_map {α β : Type} (f : α → β) (members : List (Text × α)) :
    lastOfEach (members.map fun member => (member.1, f member.2)) =
      (lastOfEach members).map fun member => (member.1, f member.2) := by
  simp only [lastOfEach, List.map_map, List.map_filterMap, List.findRev?_eq_find?_reverse, ← List.map_reverse,
    List.find?_map]
  rfl

namespace Json.Value

mutual

/-- A value with the objects in it settled, at every depth that has objects all around it. -/
def settled : Value → Value
  | .object members => .object (lastOfEach (settledEach members))
  | value => value

/-- Members with their values settled, each name still as often as it was given. -/
def settledEach : List (Text × Value) → List (Text × Value)
  | [] => []
  | (name, value) :: members => (name, value.settled) :: settledEach members

end

theorem settledEach_eq_map (members : List (Text × Value)) :
    settledEach members = members.map fun member => (member.1, member.2.settled) := by
  induction members with
  | nil => rfl
  | cons member members ih => rw [settledEach, ih, List.map_cons]

/-- A value made of strings and objects alone, those included that another value of their name overwrites. -/
inductive Shaped : Value → Prop
  | string (text : Text) : Shaped (.string text)
  | object {members : List (Text × Value)} (h : ∀ member ∈ members, Shaped member.2) : Shaped (.object members)

mutual

/-- Values by the members of objects. -/
theorem induction_members {motive : Value → Prop}
    (hobject : ∀ members, (∀ member ∈ members, motive member.2) → motive (.object members))
    (hother : ∀ value, (∀ members, value ≠ .object members) → motive value) : ∀ value, motive value
  | .object members => hobject members (forall_members hobject hother members)
  | .null | .boolean _ | .number _ | .string _ | .list _ => hother _ nofun

theorem forall_members {motive : Value → Prop}
    (hobject : ∀ members, (∀ member ∈ members, motive member.2) → motive (.object members))
    (hother : ∀ value, (∀ members, value ≠ .object members) → motive value) :
    ∀ members : List (Text × Value), ∀ member ∈ members, motive member.2
  | [], _, hm => absurd hm List.not_mem_nil
  | (_, value) :: members, member, hm =>
    (List.mem_cons.1 hm).elim (fun h => h ▸ induction_members hobject hother value)
      (forall_members hobject hother members member)

end

end Json.Value

namespace Layout

open Json (Value)

/-! ## The names of a layout and what they stand for -/

/-- The names of a layout's own members, in order. -/
def keys (layout : Layout) : List Text :=
  layout.toList.map Prod.fst

theorem toList_cons (name : Text) (entry : Entry) (rest : Layout) :
    (cons name entry rest).toList = (name, entry) :: rest.toList := by
  cases entry <;> rfl

theorem keys_cons (name : Text) (entry : Entry) (rest : Layout) : (cons name entry rest).keys = name :: rest.keys := by
  rw [keys, toList_cons, List.map_cons, keys]

theorem find?_eq_none_iff {layout : Layout} {name : Text} : layout.find? name = none ↔ name ∉ layout.keys := by
  induction layout using induction_cons with
  | hempty => exact ⟨fun _ hm => absurd hm List.not_mem_nil, fun _ => rfl⟩
  | hcons first value rest ih =>
    rw [find?_cons, keys_cons, List.mem_cons]
    by_cases hname : first = name
    · subst hname
      simp
    · simp [ih, hname, Ne.symm hname]

theorem keys_insert (layout : Layout) (name : Text) (entry : Entry) :
    (layout.insert name entry).keys = if name ∈ layout.keys then layout.keys else layout.keys ++ [name] := by
  induction layout using induction_cons with
  | hempty => exact keys_cons name entry empty
  | hcons first value rest ih =>
    rw [insert_cons, keys_cons]
    by_cases hname : first = name
    · subst hname
      rw [if_pos rfl, keys_cons, if_pos List.mem_cons_self]
    · rw [if_neg hname, keys_cons, ih]
      by_cases hmem : name ∈ rest.keys
      · rw [if_pos hmem, if_pos (List.mem_cons_of_mem _ hmem)]
      · have hnot : name ∉ first :: rest.keys := by
          rw [List.mem_cons, not_or]
          exact ⟨Ne.symm hname, hmem⟩
        rw [if_neg hmem, if_neg hnot, List.cons_append]

theorem toList_eq_filterMap {layout : Layout} (h : layout.isDistinct = true) :
    layout.toList = layout.keys.filterMap fun name => (layout.find? name).map (name, ·) := by
  induction layout using induction_cons with
  | hempty => rfl
  | hcons first value rest ih =>
    obtain ⟨hnew, -, hrest⟩ := isDistinct_cons_iff.1 h
    have hself : (cons first value rest).find? first = some value := by rw [find?_cons, if_pos rfl]
    have hothers : ∀ name ∈ rest.keys, (cons first value rest).find? name = rest.find? name := by
      intro name hm
      have hne : first ≠ name := by
        rintro rfl
        exact find?_eq_none_iff.1 hnew hm
      rw [find?_cons, if_neg hne]
    rw [toList_cons, keys_cons, List.filterMap_cons_some (by rw [hself]; rfl), ih hrest]
    exact congrArg _ (List.filterMap_congr fun name hm => by rw [hothers name hm])

/-! ## Members put in one by one -/

theorem foldl_put_concat (members : List (Text × Value)) {member : Text × Value} {entry : Entry}
    (h : entryOf? member.2 = some entry) :
    (members ++ [member]).foldl put empty = (members.foldl put empty).insert member.1 entry := by
  rw [List.foldl_append, List.foldl_cons, List.foldl_nil]
  exact put_of_entry h

/-- The names stand in the order in which they were given for the first time. -/
theorem keys_foldl_put {members : List (Text × Value)} (h : ∀ member ∈ members, entryOf? member.2 ≠ none) :
    (members.foldl put empty).keys = (members.map Prod.fst).eraseDups := by
  -- a list of members is taken apart at its end, where the last one was put in
  induction members using List.reverseRecOn with
  | nil => rfl
  | append_singleton members member ih =>
    rw [List.forall_mem_append] at h
    obtain ⟨entry, hentry⟩ := Option.ne_none_iff_exists'.1 (h.2 member (List.mem_singleton_self _))
    rw [foldl_put_concat members hentry, keys_insert, ih h.1, List.map_append, List.eraseDups_append]
    by_cases hmem : member.1 ∈ members.map Prod.fst
    · rw [if_pos (List.mem_eraseDups.2 hmem)]
      simp [List.removeAll, hmem]
    · rw [if_neg (fun hm => hmem (List.mem_eraseDups.1 hm))]
      simp [List.removeAll, hmem, List.eraseDups_cons]

/-- A name stands for what it was given for the last time. -/
theorem find?_foldl_put {members : List (Text × Value)} (h : ∀ member ∈ members, entryOf? member.2 ≠ none) (name : Text) :
    (members.foldl put empty).find? name = (members.findRev? (·.1 == name)).bind fun member => entryOf? member.2 := by
  induction members using List.reverseRecOn with
  | nil => rfl
  | append_singleton members member ih =>
    rw [List.forall_mem_append] at h
    obtain ⟨entry, hentry⟩ := Option.ne_none_iff_exists'.1 (h.2 member (List.mem_singleton_self _))
    rw [foldl_put_concat members hentry, find?_insert, ih h.1]
    simp only [List.findRev?_eq_find?_reverse, List.reverse_append, List.reverse_singleton, List.singleton_append,
      List.find?_cons]
    by_cases hname : member.1 = name
    · simp [hname, hentry]
    · simp [hname, beq_eq_false_iff_ne.2 hname]

/-- What a name stands for, as the value of a member. -/
def Entry.value : Entry → Value
  | .source stem => .string stem
  | .group members => .object members.values

theorem values_eq_map (layout : Layout) : layout.values = layout.toList.map fun member => (member.1, member.2.value) := by
  induction layout with
  | empty => rfl
  | source name stem rest ih => rw [values, ih]; rfl
  | group name members rest _ ih => rw [values, ih]; rfl

/-- Members that state their settled values state the settled object. -/
theorem values_foldl_put {members : List (Text × Value)} (hentries : ∀ member ∈ members, entryOf? member.2 ≠ none)
    (hvalues : ∀ member ∈ members, ∀ entry, entryOf? member.2 = some entry → entry.value = member.2.settled) :
    (members.foldl put empty).values = lastOfEach (Value.settledEach members) := by
  have hmembers : ofMembers? members empty = some (members.foldl put empty) := ofMembers?_eq_some_iff.2 ⟨hentries, rfl⟩
  have hdistinct : (members.foldl put empty).isDistinct = true := isDistinct_of_ofMembers? hmembers rfl
  rw [values_eq_map, toList_eq_filterMap hdistinct, keys_foldl_put hentries, Value.settledEach_eq_map, lastOfEach_map,
    lastOfEach, List.map_filterMap, List.map_filterMap]
  -- both sides go through the names as they were first given; what is left is one name
  refine List.filterMap_congr fun name _ => ?_
  rw [find?_foldl_put hentries]
  cases hlast : members.findRev? (·.1 == name) with
  | none => rfl
  | some member =>
    rw [List.findRev?_eq_find?_reverse] at hlast
    have hm : member ∈ members := List.mem_reverse.1 (List.mem_of_find?_eq_some hlast)
    have hname : member.1 = name := by simpa using List.find?_some hlast
    obtain ⟨entry, hentry⟩ := Option.ne_none_iff_exists'.1 (hentries member hm)
    simp [hentry, hvalues member hm entry hentry, hname]

/-! ## What an object states -/

theorem entryOf?_object_ne_none_iff {members : List (Text × Value)} :
    entryOf? (.object members) ≠ none ↔ ∀ member ∈ members, entryOf? member.2 ≠ none := by
  have hmap : entryOf? (.object members) ≠ none ↔ ofMembers? members empty ≠ none := by
    rw [entryOf?]
    exact not_congr Option.map_eq_none_iff
  rw [hmap, Option.ne_none_iff_exists']
  simp only [ofMembers?_eq_some_iff, exists_and_left, exists_eq', and_true]

/-- **A value can be a member just when it is made of strings and objects alone**, whatever is overwritten in it. -/
theorem entryOf?_ne_none_iff {value : Value} : entryOf? value ≠ none ↔ value.Shaped := by
  induction value using Value.induction_members with
  | hobject members ih =>
    rw [entryOf?_object_ne_none_iff]
    constructor
    · exact fun h => .object fun member hm => (ih member hm).1 (h member hm)
    · rintro (_ | h)
      exact fun member hm => (ih member hm).2 (h member hm)
  | hother value hnot =>
    cases value with
    | string stem => exact ⟨fun _ => .string stem, fun _ => Option.some_ne_none _⟩
    | object members => exact absurd rfl (hnot members)
    | _ => exact ⟨fun h => absurd rfl h, nofun⟩

theorem value_of_entryOf? {value : Value} {entry : Entry} (h : entryOf? value = some entry) :
    entry.value = value.settled := by
  induction value using Value.induction_members generalizing entry with
  | hobject members ih =>
    rw [entryOf?] at h
    obtain ⟨layout, hlayout, rfl⟩ := Option.map_eq_some_iff.1 h
    obtain ⟨hentries, rfl⟩ := ofMembers?_eq_some_iff.1 hlayout
    rw [Entry.value, Value.settled, values_foldl_put hentries fun member hm entry => ih member hm]
  | hother value hnot =>
    cases value with
    | string stem =>
      obtain rfl := Option.some.inj h
      rfl
    | object members => exact absurd rfl (hnot members)
    | _ => cases h

theorem values_inj {a b : Layout} (h : a.values = b.values) : a = b := by
  induction a generalizing b with
  | empty =>
    cases b with
    | empty => rfl
    | source | group => cases h
  | source name stem rest ih =>
    cases b with
    | source name' stem' rest' =>
      simp only [values, List.cons.injEq, Prod.mk.injEq, Value.string.injEq] at h
      obtain ⟨⟨rfl, rfl⟩, hrest⟩ := h
      rw [ih hrest]
    | empty | group => simp [values] at h
  | group name members rest ihMembers ihRest =>
    cases b with
    | group name' members' rest' =>
      simp only [values, List.cons.injEq, Prod.mk.injEq, Value.object.injEq] at h
      obtain ⟨⟨rfl, hmembers⟩, hrest⟩ := h
      rw [ihMembers hmembers, ihRest hrest]
    | empty | source => simp [values] at h

/-- **The members of an object state a layout just when the object is shaped, and it is the settled object.** -/
theorem ofMembers?_eq_some_iff_settled {members : List (Text × Value)} {layout : Layout} :
    ofMembers? members empty = some layout ↔
      (Value.object members).Shaped ∧ (Value.object members).settled = .object layout.values := by
  constructor
  · intro h
    have hentry : entryOf? (.object members) = some (.group layout) := by
      rw [entryOf?, h]
      rfl
    exact ⟨entryOf?_ne_none_iff.1 (by rw [hentry]; exact Option.some_ne_none _), (value_of_entryOf? hentry).symm⟩
  · rintro ⟨hshaped, hsettled⟩
    obtain ⟨entry, hentry⟩ := Option.ne_none_iff_exists'.1 (entryOf?_ne_none_iff.2 hshaped)
    have hvalue := (value_of_entryOf? hentry).trans hsettled
    rw [entryOf?] at hentry
    obtain ⟨other, hother, rfl⟩ := Option.map_eq_some_iff.1 hentry
    rw [hother, values_inj (Value.object.inj hvalue)]

end Layout
end DtsBundle
