import DtsBundle.Proofs.Json.Members
/-!
# The text of one value

A document is the text of one value with blanks around it.  For an object it does not matter what becomes of the members
as they are read: they stand in the text one after the other (`ObjectAhead`), and **a reader that takes them in comes to
an end just when they stand there and each of them is taken in** (`readObject_eq_ok_iff`).  So a reader that makes
something else of the members than a list accepts the documents that the plain reader accepts, less those with a member
that it refuses.
-/
namespace DtsBundle.Json

variable {read : Text → Except Fault (Value × Text)} {members : List (Text × Value)} {text rest : Text}

/-- A text is that of one value, in which lists and objects nest no deeper than a reader goes. -/
def IsDocument (text : Text) (value : Value) : Prop :=
  ∃ rest, readValue 127 text = .ok (value, rest) ∧ skipSpace rest = []

/-! ## The members that stand in a text -/

/-- The members behind the first of an object stand at the start of a text, up to the brace that ends the object. -/
inductive MembersAhead (read : Text → Except Fault (Value × Text)) : Nat → Text → List (Text × Value) → Text → Prop
  | last {n : Nat} {text rest : Text} (hend : skipSpace text = '\x7d' :: rest) : MembersAhead read (n + 1) text [] rest
  | next {n : Nat} {text more inside left rest : Text} {member : Text × Value} {members : List (Text × Value)}
    (hcomma : skipSpace text = ',' :: more) (hquote : skipSpace more = '"' :: inside)
    (hmember : readMember read inside = .ok (member, left)) (hmore : MembersAhead read n left members rest) :
    MembersAhead read (n + 1) text (member :: members) rest

/-- The members of an object stand at the start of a text, behind the brace that opens the object. -/
inductive ObjectAhead (read : Text → Except Fault (Value × Text)) : Text → List (Text × Value) → Text → Prop
  | empty {text rest : Text} (hend : skipSpace text = '\x7d' :: rest) : ObjectAhead read text [] rest
  | members {text inside left rest : Text} {member : Text × Value} {members : List (Text × Value)}
    (hquote : skipSpace text = '"' :: inside) (hmember : readMember read inside = .ok (member, left))
    (hmore : MembersAhead read left.length.succ left members rest) : ObjectAhead read text (member :: members) rest

variable {α : Type} {take : α → Text × Value → Text → Except Fault α} {step : α → Text × Value → Option α}
  {taken after : α} {n : Nat}

/-- What a reader takes in is what a step makes of the member, whatever stands behind it. -/
def Takes (take : α → Text × Value → Text → Except Fault α) (step : α → Text × Value → Option α) : Prop :=
  ∀ taken member rest after, take taken member rest = .ok after ↔ step taken member = some after

theorem readMembers_of_ahead (htake : Takes take step) (h : MembersAhead read n text members rest)
    (hfold : members.foldlM step taken = some after) : readMembers read take n taken text = .ok (after, rest) := by
  induction h generalizing taken with
  | last hend =>
    obtain rfl := Option.some.inj hfold
    simp only [readMembers, hend]
  | next hcomma hquote hmember hmore ih =>
    rw [List.foldlM_cons] at hfold
    obtain ⟨next, hnext, hfold⟩ := Option.bind_eq_some_iff.1 hfold
    simp only [readMembers, hcomma, hquote, hmember, bind, Except.bind, (htake _ _ _ _).2 hnext]
    exact ih hfold

theorem ahead_of_readMembers (htake : Takes take step) (h : readMembers read take n taken text = .ok (after, rest)) :
    ∃ members, MembersAhead read n text members rest ∧ members.foldlM step taken = some after := by
  induction n generalizing taken text with
  | zero => cases h
  | succ n ih =>
    unfold readMembers at h
    split at h
    · cases h
    · rename_i hend
      cases h
      exact ⟨[], .last hend, rfl⟩
    · rename_i hcomma
      split at h
      · cases h
      · rename_i hquote
        obtain ⟨member, left, next, hmember, hnext, hmore⟩ := exists_taken (readMembers read take n) h
        obtain ⟨members, hahead, hfold⟩ := ih hmore
        refine ⟨member :: members, .next hcomma hquote hmember hahead, ?_⟩
        rw [List.foldlM_cons, (htake _ _ _ _).1 hnext]
        exact hfold
      · cases h
      · cases h
    · cases h

/-- **A reader comes to the end of an object just when its members stand there and each is taken in.** -/
theorem readObject_eq_ok_iff (htake : Takes take step) :
    readObject read take taken text = .ok (after, rest) ↔
      ∃ members, ObjectAhead read text members rest ∧ members.foldlM step taken = some after := by
  constructor
  · intro h
    unfold readObject at h
    split at h
    · cases h
    · rename_i hend
      cases h
      exact ⟨[], .empty hend, rfl⟩
    · rename_i hquote
      obtain ⟨member, left, next, hmember, hnext, hmore⟩ :=
        exists_taken (fun taken left => readMembers read take left.length.succ taken left) h
      obtain ⟨members, hahead, hfold⟩ := ahead_of_readMembers htake hmore
      refine ⟨member :: members, .members hquote hmember hahead, ?_⟩
      rw [List.foldlM_cons, (htake _ _ _ _).1 hnext]
      exact hfold
    · cases h
  · rintro ⟨members, hahead, hfold⟩
    cases hahead with
    | empty hend =>
      obtain rfl := Option.some.inj hfold
      simp only [readObject, hend]
    | members hquote hmember hmore =>
      rw [List.foldlM_cons] at hfold
      obtain ⟨next, hnext, hfold⟩ := Option.bind_eq_some_iff.1 hfold
      simp only [readObject, hquote, hmember, bind, Except.bind, (htake _ _ _ _).2 hnext]
      exact readMembers_of_ahead htake hmore hfold

/-! ## The value of an object -/

theorem foldlM_collect (members taken : List (Text × Value)) :
    members.foldlM (fun taken member => some (taken ++ [member])) taken = some (taken ++ members) := by
  induction members generalizing taken with
  | nil => rw [List.append_nil]; rfl
  | cons member members ih =>
    rw [List.foldlM_cons]
    exact (ih _).trans (by rw [List.append_assoc]; rfl)

theorem readObject_collect_eq_ok_iff :
    readObject read (fun taken member _ => .ok (taken ++ [member])) [] text = .ok (members, rest) ↔
      ObjectAhead read text members rest := by
  have htake : Takes (fun (taken : List (Text × Value)) member _ => .ok (taken ++ [member]))
      fun taken member => some (taken ++ [member]) := by
    intro taken member rest after
    rw [Except.ok.injEq, Option.some.injEq]
  simp [readObject_eq_ok_iff htake, foldlM_collect]

theorem map_ne_object {β : Type} {result : Except Fault β} {f : β → Value × Text}
    (hf : ∀ b, (f b).1 ≠ .object members) : result.map f ≠ .ok (.object members, rest) := by
  cases result with
  | error fault => exact nofun
  | ok b =>
    intro h
    exact hf b (congrArg Prod.fst (Except.ok.inj h))

/-- **A value that is read is an object just when a brace opens it**, and then its members are those behind the brace. -/
theorem readValue_eq_object_iff {depth : Nat} :
    readValue (depth + 1) text = .ok (.object members, rest) ↔
      ∃ inside, skipSpace text = '\x7b' :: inside ∧ ObjectAhead (readValue depth) inside members rest := by
  constructor
  · intro h
    unfold readValue at h
    split at h
    · cases h
    iterate 6 exact absurd h (map_ne_object fun _ => nofun)
    · rename_i inside hbrace
      refine ⟨inside, hbrace, ?_⟩
      cases hobject : readObject (readValue depth) (fun taken member _ => .ok (taken ++ [member])) [] inside with
      | error fault =>
        simp only [hobject] at h
        cases h
      | ok pair =>
        simp only [hobject] at h
        cases h
        exact readObject_collect_eq_ok_iff.1 hobject
    · split at h
      · exact absurd h (map_ne_object fun _ => nofun)
      · cases h
  · rintro ⟨inside, hbrace, hahead⟩
    rw [readValue, hbrace]
    simp only [readObject_collect_eq_ok_iff.2 hahead]
    rfl

end DtsBundle.Json
