import DtsBundle.Proofs.Assembly.Defects
import DtsBundle.Proofs.Json.Document
import DtsBundle.Proofs.Layout.Repeats
/-!
# Which texts are layouts

The reader of a layout puts members in while it reads them and stops at the first that can be none.  So it never sees
the whole of a text that is no layout; still, **whether it comes to an end depends on the text's value alone**
(`ofJson_eq_ok_iff`), and the layout is what that value states when its repeated names are settled.  Names are looked at
after that: one that stood only in what was overwritten is not there any more, and the first bad one is first in the order
of the settled layout (`parse_verdict`).
-/
namespace DtsBundle.Layout

open Json (Value IsDocument)

/-- A text states a layout: it is the text of an object that is shaped at every depth, and the layout has the object's
members, each name once. -/
def States (text : Text) (layout : Layout) : Prop :=
  ∃ members, IsDocument text (.object members) ∧ (Value.object members).Shaped ∧
    (Value.object members).settled = .object layout.values

/-- A name is the first of a layout, in order and at every depth, that is no identifier. -/
def FirstBad (layout : Layout) (bad : Text) : Prop :=
  isIdentifier bad = false ∧
    ∃ before after, layout.names = before ++ bad :: after ∧ ∀ name ∈ before, isIdentifier name = true

theorem takes_take : Json.Takes take fun layout member => (entryOf? member.2).map (layout.insert member.1) := by
  intro layout member rest after
  unfold take
  cases hentry : entryOf? member.2 with
  | none => simp [hentry, Json.faultAt]
  | some entry => simp [hentry]

theorem foldlM_insert (members : List (Text × Value)) (start : Layout) :
    members.foldlM (fun layout member => (entryOf? member.2).map (layout.insert member.1)) start = ofMembers? members start := by
  induction members generalizing start with
  | nil => rfl
  | cons member members ih =>
    rw [List.foldlM_cons, ofMembers?]
    cases hentry : entryOf? member.2 with
    | none => rfl
    | some entry => exact ih _

theorem isDocument_object_iff {text : Text} {members : List (Text × Value)} :
    IsDocument text (.object members) ↔ ∃ inside rest, Json.skipSpace text = '\x7b' :: inside ∧
      Json.ObjectAhead (Json.readValue depth) inside members rest ∧ Json.skipSpace rest = [] := by
  have hread (rest : Text) : Json.readValue 127 text = .ok (.object members, rest) ↔
      ∃ inside, Json.skipSpace text = '\x7b' :: inside ∧ Json.ObjectAhead (Json.readValue depth) inside members rest :=
    Json.readValue_eq_object_iff
  unfold IsDocument
  simp only [hread]
  constructor
  · rintro ⟨rest, ⟨inside, hbrace, hahead⟩, hend⟩
    exact ⟨inside, rest, hbrace, hahead, hend⟩
  · rintro ⟨inside, rest, hbrace, hahead, hend⟩
    exact ⟨rest, ⟨inside, hbrace, hahead⟩, hend⟩

/-- **The reader comes to an end just when the text is a document whose value states a layout.** -/
theorem ofJson_eq_ok_iff {text : Text} {layout : Layout} :
    ofJson text = .ok layout ↔ ∃ members, IsDocument text (.object members) ∧ ofMembers? members empty = some layout := by
  simp only [isDocument_object_iff, ← foldlM_insert]
  constructor
  · intro h
    unfold ofJson at h
    split at h
    · rename_i inside hbrace
      cases hobject : Json.readObject (Json.readValue depth) take empty inside with
      | error fault => rw [hobject] at h; cases h
      | ok pair =>
        obtain ⟨read, rest⟩ := pair
        simp only [hobject, bind, Except.bind] at h
        split at h
        · rename_i hend
          cases h
          obtain ⟨members, hahead, hfold⟩ := (Json.readObject_eq_ok_iff takes_take).1 hobject
          exact ⟨members, ⟨inside, rest, hbrace, hahead, hend⟩, hfold⟩
        · cases h
    · cases h
    · cases hvalue : Json.readValue depth (Json.skipSpace text) with
      | error fault => rw [hvalue] at h; cases h
      | ok read => rw [hvalue] at h; cases h
  · rintro ⟨members, ⟨inside, rest, hbrace, hahead, hend⟩, hfold⟩
    have hobject := (Json.readObject_eq_ok_iff takes_take).2 ⟨members, hahead, hfold⟩
    rw [ofJson, hbrace]
    simp only [hobject, bind, Except.bind, hend]
    rfl

theorem ofJson_eq_ok_iff_states {text : Text} {layout : Layout} : ofJson text = .ok layout ↔ States text layout := by
  simp only [ofJson_eq_ok_iff, ofMembers?_eq_some_iff_settled, States]

theorem exists_states_iff {text : Text} :
    (∃ layout, States text layout) ↔ ∃ members, IsDocument text (.object members) ∧ (Value.object members).Shaped := by
  constructor
  · rintro ⟨layout, members, hdocument, hshaped, -⟩
    exact ⟨members, hdocument, hshaped⟩
  · rintro ⟨members, hdocument, hshaped⟩
    have hentries := entryOf?_object_ne_none_iff.1 (entryOf?_ne_none_iff.2 hshaped)
    have hlayout : ofMembers? members empty = some (members.foldl put empty) := ofMembers?_eq_some_iff.2 ⟨hentries, rfl⟩
    exact ⟨_, members, hdocument, ofMembers?_eq_some_iff_settled.1 hlayout⟩

/-- **What a text comes to as a layout.**  It states one just when it is the text of an object that is shaped at every
depth.  If it states none it is malformed, whatever its names are; if the layout it states has a name that is no
identifier, the first of these is refused; and else the layout is given. -/
theorem parse_verdict (text : Text) :
    ((∃ layout, States text layout) ↔ ∃ members, IsDocument text (.object members) ∧ (Value.object members).Shaped) ∧
      ((∃ fault, parse text = .error (.malformed text fault)) ↔ ¬ ∃ layout, States text layout) ∧
      (∀ bad, parse text = .error (.badName bad) ↔ ∃ layout, States text layout ∧ FirstBad layout bad) ∧
      ∀ layout, parse text = .ok layout ↔ States text layout ∧ ∀ name ∈ layout.names, isIdentifier name = true := by
  refine ⟨exists_states_iff, ?_⟩
  simp only [← ofJson_eq_ok_iff_states, FirstBad, ← badName?_eq_some_iff, ← badName?_eq_none_iff]
  unfold parse
  cases hread : ofJson text with
  | error fault => simp
  | ok layout => cases hbad : layout.badName? <;> simp [hbad]

-- a bad name in what is overwritten is gone by the time names are looked at, but a bad value there is still met
example : parse "\x7b\"a\":\x7b\"-\":\"x\"\x7d,\"b\":\"y\",\"a\":\"z\"\x7d".toList =
    .ok (.source ['a'] ['z'] (.source ['b'] ['y'] .empty)) := by decide +kernel
example : parse "\x7b\"-\":\"x\",\"a\":[],\"a\":\"z\"\x7d".toList =
    .error (.malformed "\x7b\"-\":\"x\",\"a\":[],\"a\":\"z\"\x7d".toList ⟨.noVariant "LayoutEntry".toList, 9⟩) := by
  decide +kernel

end DtsBundle.Layout
