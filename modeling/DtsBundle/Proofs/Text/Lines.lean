import DtsBundle.Text.Lines
/-!
# Cutting and joining

The fields of a text are its parts between separators in the library's sense (`fields_eq_splitOn`), so what is known of
those holds of fields and of lines: **lines put together and cut apart are the same lines**, as long as none of them
holds a line feed (`lines_ofLines`).  Around each of its lines a text is what stands above this line and what stands
below it (`eq_around_line`).

`after?` takes off just the text it is asked for, and a carriage return is taken off nowhere but at the end.
-/
namespace DtsBundle.Text

/-! ## Fields -/

theorem fields_cons (separator c : Char) (text : Text) :
    fields separator (c :: text) =
      if c = separator then [] :: fields separator text
      else (fields separator text).modifyHead (c :: ·) := by
  simp only [fields, cutFields]
  split <;> rfl

theorem fields_eq_splitOn (separator : Char) : ∀ text : Text, fields separator text = text.splitOn separator
  | [] => rfl
  | c :: text => by
    rw [fields_cons, fields_eq_splitOn separator text, List.splitOn_cons_eq_if_modifyHead]
    by_cases h : c = separator <;> simp [h]

theorem fields_append_cons (separator : Char) (a b : Text) :
    fields separator (a ++ separator :: b) = fields separator a ++ fields separator b := by
  simp only [fields_eq_splitOn, List.splitOn_append_cons_self]

theorem fields_of_not_mem {separator : Char} {text : Text} (h : separator ∉ text) : fields separator text = [text] := by
  rw [fields_eq_splitOn, List.splitOn_eq_singleton h]

theorem not_mem_of_mem_fields {separator : Char} : ∀ {text field : Text}, field ∈ fields separator text → separator ∉ field
  | [], field, h => by
    rw [List.mem_singleton.1 h]
    exact List.not_mem_nil
  | c :: text, field, h => by
    rw [fields_cons] at h
    by_cases hc : c = separator
    · rw [if_pos hc] at h
      rcases List.mem_cons.1 h with rfl | h
      · exact List.not_mem_nil
      · exact not_mem_of_mem_fields h
    · rw [if_neg hc] at h
      have hne : fields separator text ≠ [] := List.cons_ne_nil _ _
      obtain ⟨first, more, hf⟩ := List.exists_cons_of_ne_nil hne
      rw [hf, List.modifyHead_cons] at h
      rcases List.mem_cons.1 h with rfl | h
      · have hfirst : separator ∉ first := not_mem_of_mem_fields (hf ▸ List.mem_cons_self)
        exact fun hm => (List.mem_cons.1 hm).elim (fun e => hc e.symm) hfirst
      · exact not_mem_of_mem_fields (hf ▸ List.mem_cons_of_mem _ h)

/-! ## Lines -/

theorem lines_ofLines {ls : List Text} (hne : ls ≠ []) (h : ∀ line ∈ ls, '\n' ∉ line) : lines (ofLines ls) = ls := by
  rw [lines, ofLines, fields_eq_splitOn, List.splitOn_intercalate '\n' h hne]

theorem not_mem_of_mem_lines {text line : Text} (h : line ∈ lines text) : '\n' ∉ line :=
  not_mem_of_mem_fields h

/-- What is in none of three texts is not in them joined. -/
theorem not_mem_around {c : Char} {front middle back : Text} (hf : c ∉ front) (hm : c ∉ middle) (hb : c ∉ back) :
    c ∉ front ++ middle ++ back := by
  intro hc
  rcases List.mem_append.1 hc with hc | hc
  · exact (List.mem_append.1 hc).elim hf hm
  · exact hb hc

/-! ## A line in its place -/

theorem intercalate_cons (separator : Char) (text : Text) (texts : List Text) :
    [separator].intercalate (text :: texts) = text ++ texts.flatMap (separator :: ·) := by
  induction texts generalizing text with
  | nil => simp
  | cons next texts ih => rw [List.intercalate_cons_cons, ih, List.flatMap_cons]; simp

theorem ofLines_lines (text : Text) : ofLines (lines text) = text := by
  rw [lines, ofLines, fields_eq_splitOn, List.intercalate_splitOn]

/-- Lines with a line feed behind each. -/
def ended (ls : List Text) : Text :=
  ls.flatMap (· ++ ['\n'])

/-- Lines with a line feed in front of each. -/
def begun (ls : List Text) : Text :=
  ls.flatMap ('\n' :: ·)

@[simp] theorem ended_nil : ended [] = [] := rfl

@[simp] theorem ended_cons (first : Text) (front : List Text) : ended (first :: front) = first ++ '\n' :: ended front := by
  simp [ended]

@[simp] theorem begun_nil : begun [] = [] := rfl

@[simp] theorem begun_cons (next : Text) (more : List Text) : begun (next :: more) = '\n' :: (next ++ begun more) := rfl

theorem ofLines_append_cons (line : Text) (back : List Text) :
    ∀ front, ofLines (front ++ line :: back) = ended front ++ (line ++ begun back)
  | [] => intercalate_cons '\n' line back
  | first :: front => by
    have hne : front ++ line :: back ≠ [] := by simp
    rw [ofLines, List.cons_append, List.intercalate_cons_of_ne_nil hne, ← ofLines, ofLines_append_cons line back front]
    simp

/-- What stands above a line ends with a line feed, if anything does. -/
theorem getLast?_ended : ∀ front : List Text, ended front = [] ∨ (ended front).getLast? = some '\n'
  | [] => .inl rfl
  | first :: front => by
    refine .inr ?_
    rw [ended_cons, List.getLast?_append, List.getLast?_cons]
    rcases getLast?_ended front with hnil | hlast
    · rw [hnil]
      rfl
    · rw [hlast]
      rfl

/-- **A text is what is above one of its lines, this line, and what is below it.** -/
theorem eq_around_line {text line : Text} {k : Nat} (h : (lines text)[k]? = some line) :
    text = ended ((lines text).take k) ++ (line ++ begun ((lines text).drop (k + 1))) := by
  obtain ⟨hk, hline⟩ := List.getElem?_eq_some_iff.1 h
  rw [← ofLines_append_cons, ← hline, ← List.drop_eq_getElem_cons hk, List.take_append_drop, ofLines_lines]

/-- With another line in its place a text has this line and all its others. -/
theorem lines_set_line {text line : Text} {k : Nat} (hk : k < (lines text).length) (hline : '\n' ∉ line) :
    lines (ended ((lines text).take k) ++ (line ++ begun ((lines text).drop (k + 1)))) = (lines text).set k line := by
  have hset : (lines text).take k ++ line :: (lines text).drop (k + 1) = (lines text).set k line := by
    rw [List.set_eq_take_append_cons_drop, if_pos hk]
  rw [← ofLines_append_cons, hset]
  refine lines_ofLines (List.ne_nil_of_length_pos (by rw [List.length_set]; omega)) fun other hother => ?_
  rcases List.mem_or_eq_of_mem_set hother with hm | rfl
  · exact not_mem_of_mem_lines hm
  · exact hline

/-- Without a line that is not the last a text has all its others. -/
theorem lines_erase_line {text next : Text} {k : Nat} {more : List Text} (hdrop : (lines text).drop (k + 1) = next :: more) :
    lines (ended ((lines text).take k) ++ (next ++ begun more)) = (lines text).eraseIdx k := by
  rw [← ofLines_append_cons, ← hdrop, ← List.eraseIdx_eq_take_drop_succ]
  refine lines_ofLines ?_ fun other hother => not_mem_of_mem_lines (List.mem_of_mem_eraseIdx hother)
  rw [List.eraseIdx_eq_take_drop_succ, hdrop]
  simp

/-! ## What follows a text -/

theorem after?_eq_some_iff : ∀ {start text rest : Text}, after? start text = some rest ↔ text = start ++ rest
  | [], text, rest => by simp [after?]
  | s :: start, [], rest => by simp [after?]
  | s :: start, c :: text, rest => by
    rw [after?]
    split
    · rename_i h
      rw [after?_eq_some_iff, h]
      simp
    · rename_i h
      simp only [List.cons_append, List.cons.injEq, reduceCtorEq, false_iff]
      exact fun e => h e.1.symm

@[simp] theorem after?_append (start rest : Text) : after? start (start ++ rest) = some rest :=
  after?_eq_some_iff.2 rfl

/-! ## The carriage return at the end -/

theorem withoutReturn_of_getLast? : ∀ {line : Text}, line.getLast? ≠ some '\r' → withoutReturn line = line
  | [], _ => rfl
  | [c], h => by
    have hc : c ≠ '\r' := fun e => h (by rw [e]; rfl)
    rw [withoutReturn, if_neg hc]
  | c :: d :: rest, h => by
    rw [List.getLast?_cons_cons] at h
    rw [withoutReturn, withoutReturn_of_getLast? h]

theorem withoutReturn_append {tail : Text} (hne : tail ≠ []) (h : tail.getLast? ≠ some '\r') (front : Text) :
    withoutReturn (front ++ tail) = front ++ tail := by
  refine withoutReturn_of_getLast? ?_
  rw [List.getLast?_append, Option.or_of_isSome (by simpa using hne)]
  exact h

/-! ## Line ends of two characters -/

/-- A text with a carriage return in front of each line feed. -/
def withReturns (text : Text) : Text :=
  text.flatMap fun c => if c = '\n' then ['\r', '\n'] else [c]

theorem withReturns_break (rest : Text) : withReturns ('\n' :: rest) = '\r' :: '\n' :: withReturns rest := rfl

theorem withReturns_cons {c : Char} (hc : c ≠ '\n') (rest : Text) : withReturns (c :: rest) = c :: withReturns rest := by
  unfold withReturns
  rw [List.flatMap_cons, if_neg hc]
  rfl

theorem withReturns_append (a b : Text) : withReturns (a ++ b) = withReturns a ++ withReturns b :=
  List.flatMap_append

theorem withReturns_of_not_mem : ∀ {text : Text}, '\n' ∉ text → withReturns text = text
  | [], _ => rfl
  | c :: rest, h => by
    rw [withReturns_cons (List.ne_of_not_mem_cons h).symm, withReturns_of_not_mem (List.not_mem_of_not_mem_cons h)]

end DtsBundle.Text
