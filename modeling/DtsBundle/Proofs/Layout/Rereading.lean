import DtsBundle.Layout.File
import DtsBundle.Layout.Printer
import DtsBundle.Proofs.Assembly.Build
import DtsBundle.Proofs.Json.Members
import DtsBundle.Proofs.Layout.Order
/-!
# A layout read back from its JSON text

The text of a layout is one object: a stem is a string and a group an object of its own (`values`), and no name stands
twice in either.  So **a layout that was written is read back as itself, its members in order** (`parse_json`), whatever
characters its stems are made of, as long as its names are identifiers and its braces nest no deeper than a reader goes.

The two ends are joined at the values: the text is read as them, and they state the layout.
-/
namespace DtsBundle.Layout

open Json (Value readValue Spells)

/-- A layout as the members of a JSON object. -/
def values : Layout → List (Text × Value)
  | empty => []
  | source name stem rest => (name, .string stem) :: rest.values
  | group name members rest => (name, .object members.values) :: rest.values

/-- How deep the braces of a layout nest, its own included. -/
def levels : Layout → Nat
  | empty => 1
  | source _ _ rest => rest.levels
  | group _ members rest => max (members.levels + 1) rest.levels

theorem one_le_levels (layout : Layout) : 1 ≤ layout.levels := by
  induction layout with
  | empty => exact Nat.le_refl 1
  | source name stem rest ih => exact ih
  | group name members rest _ ih => exact Nat.le_trans ih (Nat.le_max_right _ _)

/-! ## From the text to the values -/

theorem readValue_quoted (depth : Nat) (text rest : Text) :
    readValue depth (Text.quoted text ++ rest) = .ok (.string text, rest) := by
  have htext : Text.quoted text ++ rest = '"' :: (text.flatMap Text.escaped ++ '"' :: rest) := by simp [Text.quoted]
  have hquote : Json.skipSpace (Text.quoted text ++ rest) = '"' :: (text.flatMap Text.escaped ++ '"' :: rest) := by
    rw [htext]
    exact Json.skipSpace_of_not (by decide) _
  rw [readValue, hquote]
  simp only [Json.readString_quoted]
  rfl

theorem readValue_braced {depth : Nat} {texts : List Text} {members : List (Text × Value)}
    (h : List.Forall₂ (Spells (readValue depth)) texts members) (rest : Text) :
    readValue (depth + 1) (braced texts ++ rest) = .ok (.object members, rest) := by
  have htext : braced texts ++ rest = '\x7b' :: ([','].intercalate texts ++ '\x7d' :: rest) := by simp [braced]
  have hbrace : Json.skipSpace (braced texts ++ rest) = '\x7b' :: ([','].intercalate texts ++ '\x7d' :: rest) := by
    rw [htext]
    exact Json.skipSpace_of_not (by decide) _
  have hobject : Json.readObject (readValue depth) (fun taken member _ => .ok (taken ++ [member])) []
      ([','].intercalate texts ++ '\x7d' :: rest) = .ok (members.foldl (fun taken member => taken ++ [member]) [], rest) :=
    Json.readObject_spelled h rest [] fun _ _ _ _ => rfl
  have hmembers : members.foldl (fun taken member => taken ++ [member]) [] = members := by
    rw [List.foldl_append_eq_append, List.nil_append, ← List.flatMap_def, List.flatMap_singleton']
  rw [readValue, hbrace]
  simp only [hobject, hmembers]
  rfl

theorem spells_memberTexts {layout : Layout} {depth : Nat} (h : layout.levels ≤ depth + 1) :
    List.Forall₂ (Spells (readValue depth)) layout.memberTexts layout.values := by
  induction layout generalizing depth with
  | empty => exact .nil
  | source name stem rest ih => exact .cons (Json.spells_quoted name (readValue_quoted depth stem)) (ih h)
  | group name members rest ihMembers ihRest =>
    have hmembers : members.levels + 1 ≤ depth + 1 := Nat.le_trans (Nat.le_max_left _ _) h
    -- the group has a level of its own, so the reader that meets it can go one deeper
    have hone := members.one_le_levels
    obtain ⟨inner, rfl⟩ : ∃ inner, depth = inner + 1 := ⟨depth - 1, by omega⟩
    have hread := readValue_braced (ihMembers (Nat.le_of_succ_le_succ hmembers))
    exact .cons (Json.spells_quoted name hread) (ihRest (Nat.le_trans (Nat.le_max_right _ _) h))

/-! ## From the values to the layout -/

/-- A layout with a member put in, if it can be one. -/
def put (layout : Layout) (member : Text × Value) : Layout :=
  match entryOf? member.2 with
  | some entry => layout.insert member.1 entry
  | none => layout

theorem put_of_entry {layout : Layout} {name : Text} {value : Value} {entry : Entry} (h : entryOf? value = some entry) :
    layout.put (name, value) = layout.insert name entry := by
  rw [put, h]

theorem take_of_entry {layout : Layout} {member : Text × Value} (h : entryOf? member.2 ≠ none) (rest : Text) :
    layout.take member rest = .ok (layout.put member) := by
  obtain ⟨entry, hentry⟩ := Option.ne_none_iff_exists'.1 h
  rw [take, put, hentry]

/-- **Members state a layout just when each of them can be a member**, and it is what putting them in one by one gives. -/
theorem ofMembers?_eq_some_iff {members : List (Text × Value)} {start layout : Layout} :
    ofMembers? members start = some layout ↔ (∀ member ∈ members, entryOf? member.2 ≠ none) ∧ members.foldl put start = layout := by
  induction members generalizing start with
  | nil => simp [ofMembers?]
  | cons member members ih =>
    obtain ⟨name, value⟩ := member
    rw [ofMembers?, List.forall_mem_cons, List.foldl_cons]
    cases hentry : entryOf? value with
    | none => simp
    | some entry => simp [ih, put_of_entry hentry]

/-- The members of one layout and then those of another. -/
def append : Layout → Layout → Layout
  | empty, other => other
  | source name stem rest, other => source name stem (rest.append other)
  | group name members rest, other => group name members (rest.append other)

theorem append_cons (name : Text) (entry : Entry) (a b : Layout) :
    (cons name entry a).append b = cons name entry (a.append b) := by
  cases entry <;> rfl

theorem append_assoc (a b c : Layout) : (a.append b).append c = a.append (b.append c) := by
  induction a with
  | empty => rfl
  | source name stem rest ih => simp only [append, ih]
  | group name members rest _ ih => simp only [append, ih]

theorem find?_append (name : Text) (a b : Layout) : (a.append b).find? name = (a.find? name).or (b.find? name) := by
  induction a with
  | empty => rfl
  | source other stem rest ih => simp only [append, find?, ih]; split <;> rfl
  | group other members rest _ ih => simp only [append, find?, ih]; split <;> rfl

theorem insert_of_find?_eq_none {layout : Layout} {name : Text} (h : layout.find? name = none) (entry : Entry) :
    layout.insert name entry = layout.append (cons name entry empty) := by
  induction layout with
  | empty => rfl
  | source other stem rest ih =>
    rw [find?] at h
    split at h
    · cases h
    · rename_i hne
      rw [insert, if_neg hne, ih h, append]
  | group other members rest _ ih =>
    rw [find?] at h
    split at h
    · cases h
    · rename_i hne
      rw [insert, if_neg hne, ih h, append]

theorem append_empty (layout : Layout) : layout.append empty = layout := by
  induction layout with
  | empty => rfl
  | source name stem rest ih => rw [append, ih]
  | group name members rest _ ih => rw [append, ih]

theorem ofMembers?_cons {name : Text} {value : Value} {entry : Entry} {rest start : Layout}
    (hentry : entryOf? value = some entry) (hdistinct : (cons name entry rest).isDistinct = true)
    (hnew : ∀ other, (cons name entry rest).find? other ≠ none → start.find? other = none)
    (hrest : ∀ start : Layout, (∀ other, rest.find? other ≠ none → start.find? other = none) →
      ofMembers? rest.values start = some (start.append rest)) :
    ofMembers? ((name, value) :: rest.values) start = some (start.append (cons name entry rest)) := by
  have hname : start.find? name = none := hnew name (by simp [find?_cons])
  obtain ⟨honce, -, -⟩ := isDistinct_cons_iff.1 hdistinct
  have hmore : ∀ other, rest.find? other ≠ none → (start.append (cons name entry empty)).find? other = none := by
    intro other hother
    have hne : name ≠ other := fun e => hother (e ▸ honce)
    have hstart : start.find? other = none := hnew other (by rwa [find?_cons, if_neg hne])
    rw [find?_append, hstart, find?_cons, if_neg hne]
    rfl
  simp only [ofMembers?, hentry, insert_of_find?_eq_none hname, hrest _ hmore, append_assoc, append_cons]
  rfl

/-- **The values of a layout state it**: put in behind others, all new, they are what they were. -/
theorem ofMembers?_values {layout start : Layout} (hdistinct : layout.isDistinct = true)
    (hnew : ∀ name, layout.find? name ≠ none → start.find? name = none) :
    ofMembers? layout.values start = some (start.append layout) := by
  induction layout generalizing start with
  | empty => rw [append_empty]; rfl
  | source name stem rest ih =>
    have hcons : (cons name (.source stem) rest).isDistinct = true := hdistinct
    obtain ⟨-, -, hrest⟩ := isDistinct_cons_iff.1 hcons
    exact ofMembers?_cons rfl hcons hnew fun start hstart => ih hrest hstart
  | group name members rest ihMembers ihRest =>
    have hcons : (cons name (.group members) rest).isDistinct = true := hdistinct
    obtain ⟨-, hmembers, hrest⟩ := isDistinct_cons_iff.1 hcons
    have hentry : entryOf? (.object members.values) = some (.group members) := by
      rw [entryOf?, ihMembers hmembers fun _ _ => rfl]
      rfl
    exact ofMembers?_cons hentry hcons hnew fun start hstart => ihRest hrest hstart

theorem ofJson_json (distinct : Distinct) (hlevels : distinct.layout.levels ≤ 127) :
    ofJson distinct.layout.json = .ok distinct.layout := by
  obtain ⟨layout, hdistinct⟩ := distinct
  simp only at hlevels ⊢
  have hvalues : ofMembers? layout.values empty = some layout := ofMembers?_values hdistinct fun _ _ => rfl
  obtain ⟨hentries, hput⟩ := ofMembers?_eq_some_iff.1 hvalues
  have hread : Json.readObject (readValue depth) take empty ([','].intercalate layout.memberTexts ++ ['\x7d']) =
      .ok (layout.values.foldl put empty, []) :=
    Json.readObject_spelled (spells_memberTexts hlevels) [] empty
      fun _ member hm rest => take_of_entry (hentries member hm) rest
  have hbrace : Json.skipSpace layout.json = '\x7b' :: ([','].intercalate layout.memberTexts ++ ['\x7d']) :=
    Json.skipSpace_of_not (by decide) _
  rw [ofJson, hbrace]
  simp only [hread, hput, bind, Except.bind]
  rfl

/-- **A layout is read back from its text as itself**: the text is read as one object in which each stem is a string and
each group an object, and this object states the layout, with its members in order. -/
theorem parse_json (distinct : Distinct) (hnames : ∀ name ∈ distinct.layout.names, isIdentifier name = true)
    (hlevels : distinct.layout.levels ≤ 127) :
    readValue 127 distinct.layout.json = .ok (.object distinct.layout.values, []) ∧
      parse distinct.layout.json = .ok distinct.layout := by
  constructor
  · have hread := readValue_braced (spells_memberTexts hlevels) []
    rwa [List.append_nil] at hread
  · rw [parse, ofJson_json distinct hlevels]
    simp only [badName?_eq_none_iff.2 hnames]

/-- A layout with a stem of every kind of character, an empty group and an empty stem. -/
def variedLayout : Layout :=
  .source ['a'] "\"\\\n\x01/é".toList (.group ['b'] .empty (.group ['c'] (.source ['$'] [] .empty) .empty))

theorem parse_json_varied :
    variedLayout.json =
        "\x7b\"a\":\"\\\"\\\\\\n\\u0001/é\",\"b\":\x7b\x7d,\"c\":\x7b\"$\":\"\"\x7d\x7d".toList ∧
      variedLayout.values = [(['a'], .string "\"\\\n\x01/é".toList), (['b'], .object []),
        (['c'], .object [(['$'], .string [])])] ∧
      readValue 127 variedLayout.json = .ok (.object variedLayout.values, []) ∧
      parse variedLayout.json = .ok variedLayout :=
  ⟨by decide +kernel, rfl, parse_json ⟨variedLayout, by decide⟩ (by decide) (by decide)⟩

end DtsBundle.Layout
