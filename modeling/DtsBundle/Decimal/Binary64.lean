/-!
# Binary floating point of double precision

A magnitude here is a natural number of at most 53 bits times a power of two from 2⁻¹⁰⁷⁴ up to 2⁹⁷¹, held exactly.
`nearest?` takes a ratio to the magnitude nearest to it, a tie going to the even one, and says when the ratio lies past
the largest; products and quotients are exact ratios that go through it once.

A decimal is read the quick way: its significand is rounded first and then scaled by the rounded power of ten, in steps
of at most 308 places.  So a decimal is not always read as the magnitude nearest to it, and which decimals are out of
range follows the same steps.
-/
namespace DtsBundle

/-- A magnitude of double precision: a mantissa below 2⁵³ times a power of two. -/
structure Binary64 where
  mantissa : Nat
  exponent : Int
deriving DecidableEq, Repr

namespace Binary64

/-- Nothing at all. -/
def zero : Binary64 :=
  ⟨0, -1074⟩

/-- A number times a power of two, as a ratio. -/
def ratio (n : Nat) (exponent : Int) : Nat × Nat :=
  if 0 ≤ exponent then (n * Nat.pow 2 exponent.toNat, 1) else (n, Nat.pow 2 (-exponent).toNat)

/-- A ratio rounded to a whole number, a half going to the even one. -/
def rounded (num den : Nat) : Nat :=
  let q := num / den
  let r := num % den
  if den < 2 * r ∨ (2 * r = den ∧ q % 2 = 1) then q + 1 else q

/-- The power of two that leaves a ratio with 53 bits before the point, or the least one there is. -/
def exponentFor (num den : Nat) : Int :=
  let guess : Int := (num.log2 : Int) - den.log2 - 53
  let (up, down) := ratio 1 guess
  max (-1074) (if Nat.pow 2 53 ≤ num * down / (den * up) then guess + 1 else guess)

/-- The magnitude nearest to a ratio, unless that is past the largest. -/
def nearest? (num den : Nat) : Option Binary64 :=
  if num = 0 then some zero
  else
    let exponent := exponentFor num den
    let (up, down) := ratio 1 exponent
    let mantissa := rounded (num * down) (den * up)
    let result : Binary64 :=
      if mantissa = Nat.pow 2 53 then ⟨Nat.pow 2 52, exponent + 1⟩ else ⟨mantissa, exponent⟩
    if result.exponent ≤ 971 then some result else none

/-- A product, rounded once. -/
def times? (a b : Binary64) : Option Binary64 :=
  let (num, den) := ratio (a.mantissa * b.mantissa) (a.exponent + b.exponent)
  nearest? num den

/-- A quotient, rounded once. -/
def dividedBy? (a b : Binary64) : Option Binary64 :=
  let (num, den) := ratio a.mantissa (a.exponent - b.exponent)
  nearest? num (den * b.mantissa)

/-- A power of ten, rounded once. -/
def tenTo? (n : Nat) : Option Binary64 :=
  nearest? (Nat.pow 10 n) 1

/-- A magnitude brought down by so many decimal places, 308 at a time. -/
def scaledDown? (f : Binary64) (places : Nat) : Option Binary64 :=
  if h : places ≤ 308 then do f.dividedBy? (← tenTo? places)
  else if f.mantissa = 0 then some f
  else do
    let g ← f.dividedBy? (← tenTo? 308)
    scaledDown? g (places - 308)
termination_by places

/-- The magnitude that a decimal is read as, unless it is out of range. -/
def ofDecimal? (significand : Nat) (exponent : Int) : Option Binary64 := do
  let f ← nearest? significand 1
  if f.mantissa = 0 then return f
  else if exponent < 0 then f.scaledDown? (-exponent).toNat
  else if exponent ≤ 308 then f.times? (← tenTo? exponent.toNat)
  else none

end Binary64
end DtsBundle
