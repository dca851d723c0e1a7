/-!
# Text, its fields and its lines

A text is its list of characters.  Everything the library reads, writes or compares as text has this one type: a list
is taken apart by its constructors, so every scanner below is a structural recursion and every fact about one is an
induction on the characters.

A text is cut into fields at a separator, and a line is a field between line feeds.  There is always at least one
field, an empty text being one empty line, and joining the fields with the separator gives the text back.  A carriage
return is an ordinary character here; `withoutReturn` takes the one off that a line ended with.
-/
namespace DtsBundle

/-- A text, as its characters from first to last. -/
abbrev Text := List Char

namespace Text

/-- The first field of a text and the fields after it. -/
def cutFields (separator : Char) : Text → Text × List Text
  | [] => ([], [])
  | c :: rest =>
    let (field, more) := cutFields separator rest
    if c = separator then ([], field :: more) else (c :: field, more)

/-- The fields of a text between separators, of which there is always at least one. -/
def fields (separator : Char) (text : Text) : List Text :=
  (cutFields separator text).1 :: (cutFields separator text).2

/-- The lines of a text: its fields between line feeds. -/
def lines (text : Text) : List Text :=
  fields '\n' text

/-- Lines put together again, with a line feed between each two. -/
def ofLines (lines : List Text) : Text :=
  ['\n'].intercalate lines

/-- A line without the carriage return it may end with; only one is taken off. -/
def withoutReturn : Text → Text
  | [] => []
  | [c] => if c = '\r' then [] else [c]
  | c :: d :: rest => c :: withoutReturn (d :: rest)

/-- What follows a text that stands at the start of another. -/
def after? : (start text : Text) → Option Text
  | [], text => some text
  | _ :: _, [] => none
  | s :: start, c :: text => if s = c then after? start text else none

/-- The text before and after the first occurrence of a wanted text. -/
def cutAt? (wanted : Text) : Text → Option (Text × Text)
  | [] => if wanted.isEmpty then some ([], []) else none
  | c :: rest =>
    match after? wanted (c :: rest) with
    | some behind => some ([], behind)
    | none => (cutAt? wanted rest).map fun (before, behind) => (c :: before, behind)

/-- The decimal digits of a number. -/
def ofNat (n : Nat) : Text :=
  Nat.toDigits 10 n

/-- An integer in decimal, with a minus sign in front of a negative one. -/
def ofInt : Int → Text
  | .ofNat n => ofNat n
  | .negSucc n => '-' :: ofNat (n + 1)

end Text
end DtsBundle
