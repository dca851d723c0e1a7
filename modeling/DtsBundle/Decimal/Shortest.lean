import DtsBundle.Decimal.Binary64
/-!
# The fewest digits that read back

The decimals that round to a magnitude fill an interval about it, which reaches halfway to its neighbours and holds its
ends exactly when the mantissa is even.  `shortest` takes the coarsest decimal grid that has a point in the interval;
if the interval holds a point of a grid it holds one of the two next to the magnitude, so only those are tried, the
nearer first.
-/
namespace DtsBundle.Binary64

/-- The decimals that round to a magnitude: their bounds and the magnitude itself over one denominator. -/
structure Interval where
  low : Nat
  value : Nat
  high : Nat
  den : Nat
  closed : Bool

/-- The interval of a magnitude.  The gap below a power of two is half as wide, unless it is the least. -/
def interval (f : Binary64) : Interval :=
  let below := if f.mantissa = Nat.pow 2 52 ∧ -1074 < f.exponent then 1 else 2
  let (up, den) := ratio 1 (f.exponent - 2)
  ⟨(4 * f.mantissa - below) * up, 4 * f.mantissa * up, (4 * f.mantissa + 2) * up, den, f.mantissa % 2 = 0⟩

/-- Whether a decimal lies in an interval. -/
def Interval.holds (i : Interval) (digits : Nat) (place : Int) : Bool :=
  let (n, den) := if 0 ≤ place then (digits * Nat.pow 10 place.toNat, 1) else (digits, Nat.pow 10 (-place).toNat)
  if i.closed then i.low * den ≤ n * i.den && n * i.den ≤ i.high * den
  else i.low * den < n * i.den && n * i.den < i.high * den

/-- The place of the first digit of a ratio: the largest power of ten that is not past it. -/
def firstPlace (num den : Nat) : Int :=
  if den ≤ num then ((Nat.toDigits 10 (num / den)).length : Int) - 1
  else match (List.range 400).find? fun j => den ≤ num * Nat.pow 10 j with
    | some j => -(j : Int)
    | none => 0

/-- The point of an interval on the grid of a place, the nearer of the two next to the magnitude, if there is one. -/
def Interval.point? (i : Interval) (place : Int) : Option (Nat × Int) :=
  let (num, den) :=
    if 0 ≤ place then (i.value, i.den * Nat.pow 10 place.toNat) else (i.value * Nat.pow 10 (-place).toNat, i.den)
  let near := rounded num den
  let far := if near = num / den then near + 1 else near - 1
  if i.holds near place then some (near, place) else if i.holds far place then some (far, place) else none

/-- The fewest digits that read back as a magnitude, and the place of the last. -/
def shortest (f : Binary64) : Nat × Int :=
  let i := f.interval
  let first := firstPlace i.value i.den
  match (List.range 18).findSome? fun (n : Nat) => i.point? (first - n) with
  | some point => point
  | none => (0, 0)

end DtsBundle.Binary64
