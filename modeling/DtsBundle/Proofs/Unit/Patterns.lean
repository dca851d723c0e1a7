import DtsBundle.Proofs.Expression.Room
import DtsBundle.Proofs.Unit.Expressions
/-!
# The patterns of the canonical pair

The pattern texts of the canonical pair are read part by part into the two expressions, and neither takes more room than an
expression may.  With what a search for these expressions finds, **the canonical pair is the one its patterns spell**
(`ofExpressions?_eq_some_canonical`).

The requirement pattern is read in stages, with the set of the word characters left open but where it is read: it has
hundreds of ranges, and nothing is told of them but which characters they have and how many they are.
-/
namespace DtsBundle

namespace Expression

/-! ## Reading in stages -/

/-- So many parts read. -/
def readSteps? : Nat → Nat → Reading → Text → Option (Reading × Text)
  | 0, _, reading, text => some (reading, text)
  | _ + 1, 0, _, _ => none
  | steps + 1, fuel + 1, reading, text =>
    match reading.flags.skip text with
    | [] => none
    | c :: rest => do
      let (reading, after) ← step? fuel reading c rest
      readSteps? steps fuel reading after

theorem readFrom?_of_readSteps? {later : Reading} {rest : Text} {steps fuel : Nat} {reading : Reading} {text : Text}
    (h : readSteps? steps fuel reading text = some (later, rest)) :
    readFrom? fuel reading text = readFrom? (fuel - steps) later rest := by
  induction steps generalizing fuel reading text with
  | zero =>
    rw [readSteps?] at h
    cases h
    rfl
  | succ steps ih =>
    cases fuel with
    | zero =>
      rw [readSteps?] at h
      cases h
    | succ fuel =>
      rw [readSteps?] at h
      rw [readFrom?, Nat.add_sub_add_right]
      cases hskip : reading.flags.skip text with
      | nil =>
        rw [hskip] at h
        cases h
      | cons c tail =>
        rw [hskip] at h
        obtain ⟨⟨next, after⟩, hstep, hrest⟩ := Option.bind_eq_some_iff.1 h
        simp only [hstep]
        exact ih hrest

/-- The expression that has been read, if no group is open and it is not nested too deep. -/
def Reading.whole? (reading : Reading) : Option Expression :=
  if reading.around.isEmpty && reading.innermost.content.depth ≤ mostLevels then some reading.innermost.content.expression
  else none

/-- What is read as a whole is the expression of the text, if it fits. -/
theorem read?_of_whole? {text : Text} {expression : Expression}
    (hread : (readFrom? (text.length + 1) .initial text).bind Reading.whole? = some expression)
    (hfits : expression.fits = true) : read? text = some expression := by
  obtain ⟨reading, hreading, hwhole⟩ := Option.bind_eq_some_iff.1 hread
  obtain ⟨hends, hexpression⟩ := Option.ite_none_right_eq_some.1 hwhole
  rw [read?, hreading]
  obtain rfl := Option.some.inj hexpression
  exact if_pos (Bool.and_eq_true_iff.2 ⟨hends, hfits⟩)

/-- A backslash and `w` give the word characters. -/
theorem step?_word {reading : Reading} (hunicode : reading.flags.unicode = true) (fuel : Nat) (rest : Text) :
    step? fuel reading '\\' ('w' :: rest) = some (reading.pushPlain (.one Text.wordCharacters), rest) := by
  have hset : reading.flags.letterSet? 'w' = some Text.wordCharacters := by
    simp only [Flags.letterSet?, hunicode, if_true]
  have hescape : Atom.escape? reading.flags ('w' :: rest) = some (.anyOf Text.wordCharacters, rest) := by
    simp [Atom.escape?, hset]
  have hone : ofSet Text.wordCharacters = .one Text.wordCharacters := by
    have hmany : Text.wordCharacters.only? = none := by
      refine CharSet.only?_eq_none (c := 'a') (d := 'b') ?_ ?_ (by decide)
      · rw [Text.has_wordCharacters]
        decide +kernel
      · rw [Text.has_wordCharacters]
        decide +kernel
    rw [ofSet, hmany]
  rw [← hone]
  simp only [step?, hescape, Option.map_some]
  rfl

end Expression

namespace Patterns

open Text Expression

/-! ## The reference pattern -/

theorem whole?_referencePattern :
    (readFrom? (referencePattern.length + 1) .initial referencePattern).bind Reading.whole? = some referenceExpression := by
  decide +kernel

/-! ## The requirement pattern -/

/-- The parts in front of the word, the latest first. -/
def opening : List Part :=
  [⟨blanksOf 1, 1, false⟩, ⟨.group 1 keywords, 3, false⟩, ⟨.look .textStart, 0, false⟩]

/-- What has been read up to the word, in a group that is open. -/
def atWord : Reading :=
  ⟨⟨some 2, .initial, [], []⟩, [⟨none, .initial, [], opening⟩], .initial, 2, []⟩

/-- What has been read when a text that stands for itself is read too. -/
def behindText (reading : Reading) (t : Text) : Reading :=
  t.foldl (fun reading c => reading.pushPlain (.literal [c])) reading

/-- What has been read up to the path. -/
def atPath (word : CharSet) : Reading :=
  let behindWord : Reading :=
    ⟨⟨none, .initial, [], ⟨.group 2 (.repeated (.one word) 1 none true), 2, false⟩ :: opening⟩, [], .initial, 2, []⟩
  let atValue := (behindText (behindWord.push ⟨blanksOf 0, 1, false⟩) "=".toList).push ⟨blanksOf 0, 1, false⟩
  behindText atValue "require(".toList

/-- What has been read behind the path. -/
def behindPath (word : CharSet) : Reading :=
  { (atPath word).push ⟨.choice (quotedIn '\'' 3) (quotedIn '"' 4), 6, false⟩ with groups := 4 }

/-- What has been read at the end. -/
def atEnd (word : CharSet) : Reading :=
  (behindText (behindPath word) ");".toList).pushPlain (.look .textEnd)

/-- The pattern from the path on. -/
def fromPath : Text :=
  "(?:'([^']+)'|\"([^\"]+)\")\\);$".toList

/-- The pattern behind the first word character. -/
def fromWord : Text :=
  "+)\\s*=\\s*require\\(".toList ++ fromPath

theorem readSteps?_atWord : readSteps? 16 65 .initial requirementPattern = some (atWord, '\\' :: 'w' :: fromWord) :=
  rfl

theorem readSteps?_word :
    readSteps? 1 49 atWord ('\\' :: 'w' :: fromWord) = some (atWord.pushPlain (.one wordCharacters), fromWord) := by
  change (step? 48 atWord '\\' ('w' :: fromWord)).bind _ = _
  rw [step?_word rfl]
  rfl

theorem readSteps?_atPath (word : CharSet) :
    readSteps? 15 48 (atWord.pushPlain (.one word)) fromWord = some (atPath word, fromPath) :=
  rfl

theorem readSteps?_behindPath (word : CharSet) :
    readSteps? 15 33 (atPath word) fromPath = some (behindPath word, "\\);$".toList) :=
  rfl

theorem readFrom?_behindPath (word : CharSet) : readFrom? 18 (behindPath word) "\\);$".toList = some (atEnd word) :=
  rfl

theorem whole?_atEnd (word : CharSet) : (atEnd word).whole? = some (requirementExpressionOf word) :=
  rfl

theorem whole?_requirementPattern :
    (readFrom? (requirementPattern.length + 1) .initial requirementPattern).bind Reading.whole? =
      some requirementExpression := by
  have hread : readFrom? 65 .initial requirementPattern = some (atEnd wordCharacters) :=
    calc
      readFrom? 65 .initial requirementPattern
        = readFrom? 49 atWord ('\\' :: 'w' :: fromWord) := readFrom?_of_readSteps? readSteps?_atWord
      _ = readFrom? 48 (atWord.pushPlain (.one wordCharacters)) fromWord := readFrom?_of_readSteps? readSteps?_word
      _ = readFrom? 33 (atPath wordCharacters) fromPath := readFrom?_of_readSteps? (readSteps?_atPath wordCharacters)
      _ = readFrom? 18 (behindPath wordCharacters) "\\);$".toList :=
        readFrom?_of_readSteps? (readSteps?_behindPath wordCharacters)
      _ = some (atEnd wordCharacters) := readFrom?_behindPath wordCharacters
  have hlength : requirementPattern.length + 1 = 65 := rfl
  rw [hlength, hread]
  exact whole?_atEnd wordCharacters

/-! ## Their room -/

theorem size_blanksOf_le (backward : Bool) {least : Nat} (hleast : least ≤ 1) :
    (blanksOf least).size backward false ≤ 26176 :=
  size_repeated_one_le backward blanks hleast true

theorem size_quotedIn_le (backward : Bool) (quote : Char) (index : Nat) :
    (quotedIn quote index).size backward false ≤ 5696 := by
  have hquote := size_literal_le backward [quote]
  have hgaps := CharSet.length_complement_le (.only quote)
  have hone : (CharSet.only quote).ranges.length = 1 := rfl
  have hpath : (unquoted quote).size backward false ≤ _ :=
    size_repeated_one_le backward (CharSet.only quote).complement (Nat.le_refl 1) true
  have hgroup := size_group_le backward (unquoted quote) index
  rw [List.length_singleton] at hquote
  rw [quotedIn, size_row, size_row]
  omega

/-- Alternatives that are rows are in two branches of one state. -/
theorem size_choice_quotedIn_le (backward : Bool) (q q' : Char) (i i' : Nat) :
    (Expression.choice (quotedIn q i) (quotedIn q' i')).size backward false ≤ 11464 := by
  have hformer := size_quotedIn_le backward q i
  have hlatter := size_quotedIn_le backward q' i'
  change 64 + ((quotedIn q i).size backward false + 4 + ((quotedIn q' i').size backward false + 4)) ≤ _
  omega

theorem size_keywords_le (backward : Bool) : keywords.size backward false ≤ 1000 := by
  cases backward <;> decide +kernel

theorem fits_referenceExpression : referenceExpression.fits = true := by
  refine fits_of_size_le fun backward => ?_
  have hslashes : (Expression.literal "///".toList).size backward false ≤ 128 * 3 := size_literal_le backward _
  have hopen : (Expression.literal "<reference".toList).size backward false ≤ 128 * 10 := size_literal_le backward _
  have hpath : (Expression.literal "path=".toList).size backward false ≤ 128 * 5 := size_literal_le backward _
  have hquoted := size_choice_quotedIn_le backward '"' '\'' 1 2
  have hclose : (Expression.literal "/>".toList).size backward false ≤ 128 * 2 := size_literal_le backward _
  have hblanks := size_blanksOf_le backward (Nat.zero_le 1)
  simp only [referenceExpression, size_row, size_look, mostRoom]
  omega

theorem fits_requirementExpression : requirementExpression.fits = true := by
  refine fits_of_size_le fun backward => ?_
  have hkeyword := size_group_le backward keywords 1
  have hkeywords := size_keywords_le backward
  have hgap := size_blanksOf_le backward (Nat.le_refl 1)
  have hbinding := size_group_le backward (.repeated (.one wordCharacters) 1 none true) 2
  have hword := size_repeated_one_le backward wordCharacters (Nat.le_refl 1) true
  have hranges := length_wordCharacters_le
  have hequals : (Expression.literal "=".toList).size backward false ≤ 128 * 1 := size_literal_le backward _
  have hblanks := size_blanksOf_le backward (Nat.zero_le 1)
  have hopen : (Expression.literal "require(".toList).size backward false ≤ 128 * 8 := size_literal_le backward _
  have hquoted := size_choice_quotedIn_le backward '\'' '"' 3 4
  have hclose : (Expression.literal ");".toList).size backward false ≤ 128 * 2 := size_literal_le backward _
  simp only [requirementExpression, requirementExpressionOf, size_row, size_look, mostRoom]
  omega

/-! ## The pair -/

/-- **The canonical pair is what its patterns spell.** -/
theorem ofExpressions?_eq_some_canonical : ofExpressions? referencePattern requirementPattern = some canonical := by
  have hreference : read? referencePattern = some referenceExpression :=
    read?_of_whole? whole?_referencePattern fits_referenceExpression
  have hrequirement : read? requirementPattern = some requirementExpression :=
    read?_of_whole? whole?_requirementPattern fits_requirementExpression
  rw [ofExpressions?, hreference, hrequirement]
  refine congrArg some (congr (congrArg Patterns.mk (funext fun line => ?_)) (funext fun line => ?_))
  · exact search?_referenceExpression line
  · exact search?_requirementExpression line

end Patterns
end DtsBundle
