import DtsBundle.Json.Fault
import DtsBundle.Decimal.Shortest
/-!
# Numbers

A number without a fraction or an exponent is an integer as long as it fits 64 bits, and a floating one otherwise; so
is minus zero.  The digits of a floating number go into a significand of 64 bits until one more would not fit; those
after it only count as places.  A number whose magnitude is past the largest is refused.

A floating number is told with the fewest digits that read back, positionally from 10⁻⁵ up to 10¹⁶ and with an exponent
outside, and with a point and a zero where it would look like an integer.
-/
namespace DtsBundle.Json

/-- A number: an integer by its sign, or a floating number. -/
inductive Number where
  | natural (n : Nat)
  | negative (n : Nat)
  | real (minus : Bool) (magnitude : Binary64)
deriving DecidableEq, Repr

namespace Number

/-! ## Reading -/

/-- The value of a digit. -/
def digitValue (c : Char) : Nat :=
  c.toNat - '0'.toNat

/-- Takes digits into a number while it stays at or below a limit; the digits that did not go in are left. -/
def absorb (limit : Nat) : Nat → Text → Nat × Text
  | n, [] => (n, [])
  | n, d :: digits =>
    if n * 10 + digitValue d ≤ limit then absorb limit (n * 10 + digitValue d) digits else (n, d :: digits)

/-- The largest significand. -/
def maxSignificand : Nat :=
  Nat.pow 2 64 - 1

/-- The largest exponent. -/
def maxExponent : Nat :=
  Nat.pow 2 31 - 1

/-- A floating number from its significand and exponent. -/
def floating (minus : Bool) (significand : Nat) (exponent : Int) (rest : Text) : Except Fault (Number × Text) :=
  match Binary64.ofDecimal? significand exponent with
  | some magnitude => .ok (.real minus magnitude, rest)
  | none => faultAt rest .numberOutOfRange

/-- The sign of an exponent, which is plus where there is none. -/
def exponentSign : Text → Bool × Text
  | '+' :: rest => (true, rest)
  | '-' :: rest => (false, rest)
  | rest => (true, rest)

/-- A number from behind the letter of its exponent. -/
def readExponent (minus : Bool) (significand : Nat) (exponent : Int) (text : Text) : Except Fault (Number × Text) :=
  let (up, text) := exponentSign text
  match text with
  | [] => faultAt [] .endInValue
  | c :: _ =>
    if c.isDigit then
      let rest := text.dropWhile Char.isDigit
      match absorb maxExponent 0 (text.takeWhile Char.isDigit) with
      | (n, []) => floating minus significand (if up then exponent + n else exponent - n) rest
      | (_, _ :: left) =>
        if significand ≠ 0 ∧ up then faultAt (left ++ rest) .numberOutOfRange else .ok (.real minus .zero, rest)
    else faultBehind text .badNumber

/-- What may follow the digits of a floating number. -/
def readFloatEnd (minus : Bool) (significand : Nat) (exponent : Int) (text : Text) : Except Fault (Number × Text) :=
  match text with
  | 'e' :: rest => readExponent minus significand exponent rest
  | 'E' :: rest => readExponent minus significand exponent rest
  | _ => floating minus significand exponent text

/-- A number from behind its point. -/
def readFraction (minus : Bool) (significand : Nat) (exponent : Int) (text : Text) : Except Fault (Number × Text) :=
  match text.takeWhile Char.isDigit with
  | [] => faultBehind text (if text.isEmpty then .endInValue else .badNumber)
  | digits =>
    let (significand, left) := absorb maxSignificand significand digits
    readFloatEnd minus significand (exponent - (digits.length - left.length : Nat)) (text.dropWhile Char.isDigit)

/-- An integer by its sign and digits. -/
def integer (minus : Bool) (n : Nat) : Number :=
  if !minus then .natural n
  else if n = 0 then .real true .zero
  else if n ≤ Nat.pow 2 63 then .negative n
  else .real true ((Binary64.nearest? n 1).getD .zero)

/-- What may follow the integer digits of a number, of which so many did not go into the significand. -/
def readIntegerEnd (minus : Bool) (significand left : Nat) (text : Text) : Except Fault (Number × Text) :=
  match text with
  | '.' :: rest => readFraction minus significand left rest
  | 'e' :: rest => readExponent minus significand left rest
  | 'E' :: rest => readExponent minus significand left rest
  | _ => if left = 0 then .ok (integer minus significand, text) else floating minus significand left text

/-- A number from behind its sign. -/
def read (minus : Bool) (text : Text) : Except Fault (Number × Text) :=
  match text with
  | [] => faultAt [] .endInValue
  | '0' :: rest =>
    match rest with
    | [] => readIntegerEnd minus 0 0 rest
    | c :: _ => if c.isDigit then faultBehind rest .badNumber else readIntegerEnd minus 0 0 rest
  | c :: _ =>
    if c.isDigit then
      let (significand, left) := absorb maxSignificand 0 (text.takeWhile Char.isDigit)
      readIntegerEnd minus significand left.length (text.dropWhile Char.isDigit)
    else faultBehind text .badNumber

/-! ## Telling -/

/-- The digits of a magnitude without zeros at the end, and the place of the last. -/
def significant (magnitude : Binary64) : Text × Int :=
  let (n, place) := magnitude.shortest
  let digits := Nat.toDigits 10 n
  let kept := (digits.reverse.dropWhile (· == '0')).reverse
  (kept, place + (digits.length - kept.length : Nat))

/-- An exponent of ten, always with its sign. -/
def exponentText (n : Int) : Text :=
  'e' :: if n < 0 then Text.ofInt n else '+' :: Text.ofInt n

/-- A magnitude in the fewest digits. -/
def magnitudeText (magnitude : Binary64) : Text :=
  if magnitude.mantissa = 0 then "0.0".toList
  else
    let (digits, place) := significant magnitude
    let whole := digits.length + place
    if 0 ≤ place ∧ whole ≤ 16 then digits ++ List.replicate place.toNat '0' ++ ".0".toList
    else if 0 < whole ∧ whole ≤ 16 then digits.take whole.toNat ++ '.' :: digits.drop whole.toNat
    else if -5 < whole ∧ whole ≤ 0 then "0.".toList ++ List.replicate (-whole).toNat '0' ++ digits
    else match digits with
      | [digit] => digit :: exponentText (whole - 1)
      | digits => digits.take 1 ++ '.' :: digits.drop 1 ++ exponentText (whole - 1)

/-- A number as a message names it. -/
def described : Number → Text
  | natural n => "integer `".toList ++ .ofNat n ++ "`".toList
  | negative n => "integer `-".toList ++ .ofNat n ++ "`".toList
  | real minus magnitude =>
    "floating point `".toList ++ (if minus then ['-'] else []) ++ magnitudeText magnitude ++ "`".toList

end Number
end DtsBundle.Json
