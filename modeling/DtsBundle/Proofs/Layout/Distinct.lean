import DtsBundle.Layout.File
import DtsBundle.Proofs.Json.Members
import DtsBundle.Proofs.Layout.Order
/-!
# Layouts without a name twice

A member is put in at the place its name has, and at the end only if it has none.  So no name comes to stand twice by it
(`isDistinct_insert`), and **in a layout that was read no name stands twice at any depth** (`isDistinct_of_parse`), however
often the text repeats one.
-/
namespace DtsBundle.Layout

open Json (Value)

/-! ## Putting a member in -/

theorem insert_cons (name first : Text) (entry value : Entry) (rest : Layout) :
    (cons first value rest).insert name entry =
      if first = name then cons name entry rest else cons first value (rest.insert name entry) := by
  cases value <;> rfl

/-- A name stands for what it was last given, and the others for what they did. -/
theorem find?_insert (name other : Text) (entry : Entry) (layout : Layout) :
    (layout.insert name entry).find? other = if name = other then some entry else layout.find? other := by
  induction layout using induction_cons with
  | hempty => exact find?_cons other name entry empty
  | hcons first value rest ih =>
    rw [insert_cons]
    by_cases hname : first = name
    · subst hname
      rw [if_pos rfl, find?_cons, find?_cons]
      by_cases hother : first = other
      · rw [if_pos hother, if_pos hother]
      · rw [if_neg hother, if_neg hother, if_neg hother]
    · rw [if_neg hname, find?_cons, find?_cons, ih]
      by_cases hother : first = other
      · subst hother
        rw [if_pos rfl, if_pos rfl, if_neg (Ne.symm hname)]
      · rw [if_neg hother, if_neg hother]

theorem isDistinct_insert {layout : Layout} {entry : Entry} (name : Text) (h : layout.isDistinct = true)
    (hentry : entry.isDistinct = true) : (layout.insert name entry).isDistinct = true := by
  induction layout using induction_cons with
  | hempty => exact isDistinct_cons_iff.2 ⟨rfl, hentry, rfl⟩
  | hcons first value rest ih =>
    obtain ⟨hnew, hvalue, hrest⟩ := isDistinct_cons_iff.1 h
    rw [insert_cons]
    by_cases hname : first = name
    · subst hname
      rw [if_pos rfl]
      exact isDistinct_cons_iff.2 ⟨hnew, hentry, hrest⟩
    · have hnew' : (rest.insert name entry).find? first = none := by
        rw [find?_insert, if_neg (Ne.symm hname)]
        exact hnew
      rw [if_neg hname]
      exact isDistinct_cons_iff.2 ⟨hnew', hvalue, ih hrest⟩

/-! ## What is read -/

mutual

theorem isDistinct_of_entryOf? : ∀ {value : Value} {entry : Entry}, entryOf? value = some entry → entry.isDistinct = true
  | .string stem, _, h => by
    cases h
    rfl
  | .object members, _, h => by
    rw [entryOf?] at h
    obtain ⟨layout, hlayout, rfl⟩ := Option.map_eq_some_iff.1 h
    exact isDistinct_of_ofMembers? hlayout rfl

theorem isDistinct_of_ofMembers? : ∀ {members : List (Text × Value)} {start layout : Layout},
    ofMembers? members start = some layout → start.isDistinct = true → layout.isDistinct = true
  | [], _, _, h, hstart => by
    cases h
    exact hstart
  | (name, value) :: members, _, _, h, hstart => by
    rw [ofMembers?] at h
    split at h
    · rename_i entry hentry
      exact isDistinct_of_ofMembers? h (isDistinct_insert name hstart (isDistinct_of_entryOf? hentry))
    · cases h

end

theorem isDistinct_of_take {layout after : Layout} {member : Text × Value} {rest : Text}
    (h : take layout member rest = .ok after) (hlayout : layout.isDistinct = true) : after.isDistinct = true := by
  unfold take at h
  split at h
  · rename_i entry hentry
    cases h
    exact isDistinct_insert member.1 hlayout (isDistinct_of_entryOf? hentry)
  · cases h

theorem isDistinct_of_ofJson {text : Text} {layout : Layout} (h : ofJson text = .ok layout) :
    layout.isDistinct = true := by
  unfold ofJson at h
  split at h
  · rename_i inside _
    cases hobject : Json.readObject (Json.readValue depth) take empty inside with
    | error fault => rw [hobject] at h; cases h
    | ok read =>
      obtain ⟨members, behind⟩ := read
      have hmembers : members.isDistinct = true :=
        Json.readObject_keeps (P := fun layout => layout.isDistinct = true) (fun _ _ _ _ => isDistinct_of_take) hobject rfl
      simp only [hobject, bind, Except.bind] at h
      split at h
      · cases h
        exact hmembers
      · cases h
  · cases h
  · cases hvalue : Json.readValue depth (Json.skipSpace text) with
    | error fault => rw [hvalue] at h; cases h
    | ok read => rw [hvalue] at h; cases h

/-- **In a layout that was read no name stands twice.** -/
theorem isDistinct_of_parse {text : Text} {layout : Layout} (h : parse text = .ok layout) : layout.isDistinct = true := by
  unfold parse at h
  split at h
  · cases h
  · rename_i read hread
    split at h
    · cases h
    · cases h
      exact isDistinct_of_ofJson hread

/-- The layout that a JSON text states, with what reading has made sure of. -/
def Distinct.parse (text : Text) : Except LayoutError Distinct :=
  match h : Layout.parse text with
  | .error error => .error error
  | .ok layout => .ok ⟨layout, isDistinct_of_parse h⟩

/-- **Every layout that is read is one without a name twice.** -/
theorem Distinct.map_parse (text : Text) : (Distinct.parse text).map Distinct.layout = Layout.parse text := by
  unfold Distinct.parse
  split
  · rename_i error h
    exact h.symm
  · rename_i layout h
    exact h.symm

end DtsBundle.Layout
