namespace TemplateCompiler.Decimal

/-- Which of two equally near decimals to take. -/
inductive Tie where
  | toEven
  | up
  deriving DecidableEq, Repr

/-- The reals that round to a positive binary number, over a common denominator. The ends belong to
it if `closed`. -/
structure RoundingInterval where
  low : Nat
  value : Nat
  high : Nat
  denominator : Nat
  closed : Bool
  deriving DecidableEq, Repr

/-- The interval of `mantissa * 2 ^ exponent`. Below a power of two the neighbour is twice as near;
`boundary` says that the number is such a power. -/
def RoundingInterval.ofBinary (mantissa : Nat) (exponent : Int) (boundary : Bool) :
    RoundingInterval :=
  let scale := Nat.pow 2 (exponent - 2).toNat
  { low := (4 * mantissa - if boundary then 1 else 2) * scale
    value := 4 * mantissa * scale
    high := (4 * mantissa + 2) * scale
    denominator := Nat.pow 2 (2 - exponent).toNat
    closed := mantissa % 2 == 0 }

/-- A positive decimal `0.d₁d₂d₃… * 10 ^ point`, given by the number that its digits spell. -/
structure Digits where
  coefficient : Nat
  point : Int
  deriving DecidableEq, Repr

namespace RoundingInterval

/-- Whether `coefficient * 10 ^ power` rounds to the number. -/
def contains (interval : RoundingInterval) (coefficient : Nat) (power : Int) : Bool :=
  let candidate := coefficient * Nat.pow 10 power.toNat * interval.denominator
  let low := interval.low * Nat.pow 10 (-power).toNat
  let high := interval.high * Nat.pow 10 (-power).toNat
  if interval.closed then low ≤ candidate && candidate ≤ high
  else low < candidate && candidate < high

/-- The power of ten just above the number: it lies between `10 ^ (point - 1)` and `10 ^ point`. -/
def point (interval : RoundingInterval) : Int :=
  (Nat.toDigits 10 (interval.value * Nat.pow 10 400 / interval.denominator)).length - 400

/-- The better of the two multiples of `10 ^ power` next to the number that round to it. -/
def nearest? (interval : RoundingInterval) (tie : Tie) (power : Int) : Option Nat :=
  let value := interval.value * Nat.pow 10 (-power).toNat
  let unit := Nat.pow 10 power.toNat * interval.denominator
  let below := value / unit
  let above := below + 1
  match interval.contains below power, interval.contains above power with
  | false, false => none
  | true, false => some below
  | false, true => some above
  | true, true =>
    let twice := 2 * (value % unit)
    if twice < unit then some below
    else if unit < twice then some above
    else if tie = .toEven && below % 2 == 0 then some below
    else some above

/-- The decimal with the fewest digits that rounds to the number, tried with `count` digits first
and with at most `more` digits more. -/
def shortestFrom (interval : RoundingInterval) (tie : Tie) (count : Nat) : Nat → Digits
  | 0 => ⟨interval.value / interval.denominator, interval.point⟩
  | more + 1 =>
    match interval.nearest? tie (interval.point - count) with
    | some coefficient =>
      let carried := if coefficient = Nat.pow 10 count then 1 else 0
      ⟨coefficient, interval.point + carried⟩
    | none => interval.shortestFrom tie (count + 1) more

/-- The decimal with the fewest digits that rounds to the number; the nearest if there are several.
Seventeen digits always suffice. -/
def shortest (interval : RoundingInterval) (tie : Tie) : Digits :=
  interval.shortestFrom tie 1 17

end RoundingInterval

end TemplateCompiler.Decimal
