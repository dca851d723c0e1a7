import Mathlib.Data.List.Forall2
import DtsBundle.Proofs.Json.Quoted
import DtsBundle.Proofs.Text.Lines
/-!
# Objects read back

An object is written as its members with commas between them, inside braces.  If each of these texts is read as a member,
whatever stands behind it, then **the object is read as its members in order, each taken in as it comes**
(`readObject_spelled`), and what follows the closing brace is left.  The loop over the members has as much fuel as there
is text, which is more than there are members.
-/
namespace DtsBundle.Json

theorem skipSpace_of_not {c : Char} (h : isSpace c = false) (rest : Text) : skipSpace (c :: rest) = c :: rest := by
  simp only [skipSpace, List.dropWhile_cons, h, Bool.false_eq_true, if_false]

variable {read : Text → Except Fault (Value × Text)}

/-- A text that is read as a member, whatever follows it. -/
def Spells (read : Text → Except Fault (Value × Text)) (text : Text) (member : Text × Value) : Prop :=
  ∃ behind, text = '"' :: behind ∧ ∀ rest, readMember read (behind ++ rest) = .ok (member, rest)

theorem spells_quoted (name : Text) {text : Text} {value : Value} (h : ∀ rest, read (text ++ rest) = .ok (value, rest)) :
    Spells read (Text.quoted name ++ ':' :: text) (name, value) := by
  refine ⟨name.flatMap Text.escaped ++ '"' :: ':' :: text, by simp [Text.quoted], fun rest => ?_⟩
  have hname : readString (name.flatMap Text.escaped ++ '"' :: ':' :: text ++ rest) = .ok (name, ':' :: (text ++ rest)) := by
    rw [List.append_assoc]
    exact readString_quoted name _
  have hcolon : skipSpace (':' :: (text ++ rest)) = ':' :: (text ++ rest) := skipSpace_of_not (by decide) _
  simp only [readMember, hname, bind, Except.bind, hcolon, h rest]
  rfl

variable {α : Type} {take : α → Text × Value → Text → Except Fault α} {step : α → Text × Value → α}

/-! ## What taking a member in keeps -/

theorem exists_taken {β : Type} {taken : α} {text : Text} {result : β} (next : α → Text → Except Fault β)
    (h : (do
      let (member, rest) ← readMember read text
      let taken ← take taken member rest
      next taken rest) = .ok result) :
    ∃ member rest after, readMember read text = .ok (member, rest) ∧ take taken member rest = .ok after ∧
      next after rest = .ok result := by
  cases hmember : readMember read text with
  | error fault => rw [hmember] at h; cases h
  | ok pair =>
    obtain ⟨member, rest⟩ := pair
    simp only [hmember, bind, Except.bind] at h
    cases hafter : take taken member rest with
    | error fault => rw [hafter] at h; cases h
    | ok after =>
      rw [hafter] at h
      exact ⟨member, rest, after, rfl, hafter, h⟩

variable {P : α → Prop}

theorem readMembers_keeps (htake : ∀ taken member rest after, take taken member rest = .ok after → P taken → P after)
    {n : Nat} {taken after : α} {text rest : Text} (h : readMembers read take n taken text = .ok (after, rest))
    (hstart : P taken) : P after := by
  induction n generalizing taken text with
  | zero => cases h
  | succ n ih =>
    unfold readMembers at h
    split at h
    · cases h
    · cases h
      exact hstart
    · split at h
      · cases h
      · obtain ⟨member, left, next, -, hnext, hmore⟩ := exists_taken (readMembers read take n) h
        exact ih hmore (htake _ _ _ _ hnext hstart)
      · cases h
      · cases h
    · cases h

/-- **What holds at the start and is kept by each member holds of the whole object.** -/
theorem readObject_keeps (htake : ∀ taken member rest after, take taken member rest = .ok after → P taken → P after)
    {start after : α} {text rest : Text} (h : readObject read take start text = .ok (after, rest)) (hstart : P start) :
    P after := by
  unfold readObject at h
  split at h
  · cases h
  · cases h
    exact hstart
  · obtain ⟨member, left, next, -, hnext, hmore⟩ :=
      exists_taken (fun taken left => readMembers read take left.length.succ taken left) h
    exact readMembers_keeps htake hmore (htake _ _ _ _ hnext hstart)
  · cases h

/-! ## The members behind the first -/

theorem readMembers_end (n : Nat) (taken : α) (rest : Text) :
    readMembers read take (n + 1) taken ('\x7d' :: rest) = .ok (taken, rest) := by
  have hbrace : skipSpace ('\x7d' :: rest) = '\x7d' :: rest := skipSpace_of_not (by decide) _
  simp only [readMembers, hbrace]

theorem readMembers_next {text : Text} {member : Text × Value} (h : Spells read text member) {taken after : α}
    {rest : Text} (htake : take taken member rest = .ok after) (n : Nat) :
    readMembers read take (n + 1) taken (',' :: (text ++ rest)) = readMembers read take n after rest := by
  obtain ⟨behind, rfl, hread⟩ := h
  have hcomma : skipSpace (',' :: ('"' :: behind ++ rest)) = ',' :: ('"' :: behind ++ rest) :=
    skipSpace_of_not (by decide) _
  have hquote : skipSpace ('"' :: behind ++ rest) = '"' :: (behind ++ rest) := skipSpace_of_not (by decide) _
  simp only [readMembers, hcomma, hquote, hread rest, bind, Except.bind, htake]

theorem readMembers_spelled {texts : List Text} {members : List (Text × Value)}
    (h : List.Forall₂ (Spells read) texts members) (rest : Text) (taken : α) (n : Nat) (hfuel : texts.length < n)
    (htake : ∀ taken, ∀ member ∈ members, ∀ rest, take taken member rest = .ok (step taken member)) :
    readMembers read take n taken (texts.flatMap (',' :: ·) ++ '\x7d' :: rest) = .ok (members.foldl step taken, rest) := by
  -- each member takes one unit of the fuel, and the closing brace takes one more
  induction h generalizing taken n with
  | nil =>
    obtain ⟨n, rfl⟩ := Nat.exists_eq_add_of_lt hfuel
    exact readMembers_end _ _ _
  | @cons text member texts members hfirst hmore ih =>
    obtain ⟨n, rfl⟩ : ∃ m, n = m + 1 := ⟨n - 1, by omega⟩
    rw [List.length_cons] at hfuel
    have hnext := htake taken member List.mem_cons_self (texts.flatMap (',' :: ·) ++ '\x7d' :: rest)
    rw [List.flatMap_cons, List.cons_append, List.cons_append, List.append_assoc, readMembers_next hfirst hnext,
      List.foldl_cons]
    exact ih _ n (by omega) fun taken member hm => htake taken member (List.mem_cons_of_mem _ hm)

/-! ## The whole object -/

theorem length_le_flatMap (texts : List Text) : texts.length ≤ (texts.flatMap (',' :: ·)).length := by
  induction texts with
  | nil => exact Nat.le_refl _
  | cons text texts ih =>
    simp only [List.flatMap_cons, List.length_append, List.length_cons]
    omega

/-- **An object is read as its members in order**, each taken in as it comes. -/
theorem readObject_spelled {texts : List Text} {members : List (Text × Value)}
    (h : List.Forall₂ (Spells read) texts members) (rest : Text) (start : α)
    (htake : ∀ taken, ∀ member ∈ members, ∀ rest, take taken member rest = .ok (step taken member)) :
    readObject read take start ([','].intercalate texts ++ '\x7d' :: rest) = .ok (members.foldl step start, rest) := by
  cases h with
  | nil =>
    have hbrace : skipSpace ('\x7d' :: rest) = '\x7d' :: rest := skipSpace_of_not (by decide) _
    simp only [readObject, List.intercalate_nil, List.nil_append, hbrace, List.foldl_nil]
  | @cons text member texts members hfirst hmore =>
    obtain ⟨behind, rfl, hread⟩ := hfirst
    let more := texts.flatMap (',' :: ·) ++ '\x7d' :: rest
    have hquote : skipSpace ('"' :: (behind ++ more)) = '"' :: (behind ++ more) := skipSpace_of_not (by decide) _
    have hfuel : texts.length < more.length.succ := by
      have := length_le_flatMap texts
      simp only [more, List.length_append, List.length_cons]
      omega
    have hloop := readMembers_spelled hmore rest (step start member) more.length.succ hfuel
      fun taken member hm => htake taken member (List.mem_cons_of_mem _ hm)
    have htext : [','].intercalate (('"' :: behind) :: texts) ++ '\x7d' :: rest = '"' :: (behind ++ more) := by
      rw [Text.intercalate_cons, List.append_assoc, List.cons_append]
    rw [htext, List.foldl_cons, ← hloop]
    simp only [readObject, hquote, hread more, bind, Except.bind, htake start member List.mem_cons_self]
    rfl

end DtsBundle.Json
