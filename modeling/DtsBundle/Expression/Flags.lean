import DtsBundle.Characters.Folding
import DtsBundle.Characters.Property
import DtsBundle.Expression.Basic
import DtsBundle.Text.Blank
import DtsBundle.Text.Digit
/-!
# Flags of an expression

Flags change what the written parts of an expression mean: whether case counts (`i`), whether `^` and `$` are about
lines (`m`), whether the dot takes line feeds too (`s`), whether repetitions prefer to be short (`U`), whether words,
digits and blanks are those of all scripts (`u`), whether carriage returns end lines (`R`), and whether blanks and
comments may stand between the parts (`x`).  They hold to the end of the group that sets them.

Where only ASCII words are known an expression must still take whole characters, so a set there has ASCII characters
only.
-/
namespace DtsBundle.Expression

/-- The flags in force. -/
structure Flags where
  caseless : Bool
  lines : Bool
  dotTakesAll : Bool
  short : Bool
  unicode : Bool
  returns : Bool
  spaced : Bool
deriving DecidableEq, Repr

namespace Flags

/-- The flags at the start of an expression. -/
def initial : Flags :=
  ⟨false, false, false, false, true, false, false⟩

/-! ## Setting flags -/

/-- The flags with one set or unset. -/
def set? (flags : Flags) (letter : Char) (value : Bool) : Option Flags :=
  match letter with
  | 'i' => some { flags with caseless := value }
  | 'm' => some { flags with lines := value }
  | 's' => some { flags with dotTakesAll := value }
  | 'U' => some { flags with short := value }
  | 'u' => some { flags with unicode := value }
  | 'R' => some { flags with returns := value }
  | 'x' => some { flags with spaced := value }
  | _ => none

/-- The flags after some letters, those behind a minus sign being unset.  A sign or a letter stands there once at most,
and the sign is not the last. -/
def setAll? (letters : List Char) (flags : Flags) : Option Flags :=
  let on := letters.takeWhile (· != '-')
  let off := (letters.dropWhile (· != '-')).drop 1
  if "imsUuRx-".toList.any (1 < letters.count ·) || letters.getLast? == some '-' then none
  else do
    let flags ← on.foldlM (fun flags letter => flags.set? letter true) flags
    off.foldlM (fun flags letter => flags.set? letter false) flags

/-! ## Between the parts -/

/-- A text behind blanks and comments; a comment starts with a number sign and ends with its line. -/
def skipSpaced : (inComment : Bool) → Text → Text
  | _, [] => []
  | true, c :: rest => skipSpaced (c != '\n') rest
  | false, c :: rest =>
    if Text.isBlank c then skipSpaced false rest else if c = '#' then skipSpaced true rest else c :: rest

/-- A text from its next part on. -/
def skip (flags : Flags) (text : Text) : Text :=
  if flags.spaced then skipSpaced false text else text

/-- What stands up to a closing brace, without blanks and comments, and what follows the brace. -/
def braced? (flags : Flags) : (inComment : Bool) → Text → Option (Text × Text)
  | _, [] => none
  | true, c :: rest => braced? flags (c != '\n') rest
  | false, c :: rest =>
    if flags.spaced && Text.isBlank c then braced? flags false rest
    else if flags.spaced && c == '#' then braced? flags true rest
    else if c = '\x7d' then some ([], rest)
    else (braced? flags false rest).map fun (within, after) => (c :: within, after)

/-- The characters of a kind that a text starts with, blanks and comments not counted, and its next part. -/
def run (flags : Flags) (kind : Char → Bool) : (inComment : Bool) → Text → Text × Text
  | _, [] => ([], [])
  | true, c :: rest => run flags kind (c != '\n') rest
  | false, c :: rest =>
    if flags.spaced && Text.isBlank c then run flags kind false rest
    else if flags.spaced && c == '#' then run flags kind true rest
    else if kind c then
      let (more, after) := run flags kind false rest
      (c :: more, after)
    else ([], c :: rest)

/-! ## Sets and characters -/

/-- A set that is allowed where these flags hold. -/
def allowed? (flags : Flags) (set : CharSet) : Option CharSet :=
  if flags.unicode || set.isAscii then some set else none

/-- A set where case may not count. -/
def fold (flags : Flags) (set : CharSet) : CharSet :=
  if !flags.caseless then set
  else if flags.unicode then Characters.caseless set
  else Characters.caselessAscii set

/-- A set where case may not count, or what it lacks; the former is done first. -/
def foldAndNegate? (flags : Flags) (negated : Bool) (set : CharSet) : Option CharSet :=
  let folded := flags.fold set
  flags.allowed? (if negated then folded.complement else folded)

/-- The set behind a backslash and `d`, `s` or `w`; the capital letter means what it lacks. -/
def letterSet? (flags : Flags) (letter : Char) : Option CharSet :=
  let ascii (set : CharSet) := if flags.unicode then set else set.inter ⟨[(0, 0x7F)]⟩
  match letter with
  | 'd' => some (ascii Text.decimalDigits)
  | 's' => some (ascii Text.blanks)
  | 'w' => some (ascii Text.wordCharacters)
  | 'D' => flags.allowed? (ascii Text.decimalDigits).complement
  | 'S' => flags.allowed? (ascii Text.blanks).complement
  | 'W' => flags.allowed? (ascii Text.wordCharacters).complement
  | _ => none

/-- What the dot takes. -/
def dot? (flags : Flags) : Option CharSet :=
  if !flags.unicode then none
  else if flags.dotTakesAll then some .all
  else if flags.returns then some (CharSet.complement ⟨[(0xA, 0xA), (0xD, 0xD)]⟩)
  else some (CharSet.complement (.only '\n'))

/-- A character that stands for itself. -/
def character (flags : Flags) (c : Char) : Expression :=
  .ofSet (flags.fold (.only c))

/-- What `^` asks. -/
def atStart (flags : Flags) : Look :=
  if flags.lines then .lineStart flags.returns else .textStart

/-- What `$` asks. -/
def atEnd (flags : Flags) : Look :=
  if flags.lines then .lineEnd flags.returns else .textEnd

end Flags
end DtsBundle.Expression
