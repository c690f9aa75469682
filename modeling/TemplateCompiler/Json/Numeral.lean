namespace TemplateCompiler.Json

/-- A number as written, by its decimal digits. -/
structure Numeral where
  negative : Bool
  whole : List Nat
  /-- The digits after the point; none if there is no point. -/
  fraction : List Nat := []
  exponent : Option Int := none
  deriving DecidableEq, Repr

/-- A number as a program holds it. Integers have 64 bits, with or without a sign. -/
inductive Number where
  | integer (value : Int)
  | float (value : Float)
  deriving Repr

/-- The number of values that 64 bits have. -/
def wordCount : Nat := Nat.pow 2 64

/-- Digits collected in a 64-bit significand, with the power of ten that it is to be scaled by. -/
structure Significand where
  value : Nat
  power : Int
  deriving DecidableEq, Repr

namespace Significand

def takes (significand : Significand) (digit : Nat) : Bool :=
  significand.value * 10 + digit < wordCount

/-- Collects digits before the point. From the first that does not fit, digits only count as places. -/
def addWhole (significand : Significand) : List Nat → Significand
  | [] => significand
  | digit :: digits =>
    if significand.takes digit then
      addWhole { significand with value := significand.value * 10 + digit } digits
    else { significand with power := significand.power + (digits.length + 1) }

/-- Collects digits after the point. From the first that does not fit, digits are dropped. -/
def addFraction (significand : Significand) : List Nat → Significand
  | [] => significand
  | digit :: digits =>
    if significand.takes digit then
      addFraction ⟨significand.value * 10 + digit, significand.power - 1⟩ digits
    else significand

end Significand

/-- Divides by a power of ten, at most `10 ^ 308` at a time, until nothing is left. -/
def scaleDown (number : Float) (power : Nat) : Float :=
  if power ≤ 308 then number / Float.ofScientific 1 false power
  else if number == 0 then number
  else scaleDown (number / 1e308) (power - 308)
termination_by power
decreasing_by omega

namespace Significand

/-- The floating point number of a significand. A number that is too large has none. -/
def toFloat? (significand : Significand) : Option Float :=
  let start := significand.value.toUInt64.toFloat
  if significand.power < 0 then some (scaleDown start significand.power.natAbs)
  else if 308 < significand.power then if start == 0 then some start else none
  else
    let scaled := start * Float.ofScientific 1 false significand.power.toNat
    if scaled.isInf then none else some scaled

end Significand

namespace Numeral

def ofDigits (digits : List Nat) : Nat :=
  digits.foldl (fun value digit => value * 10 + digit) 0

/-- Exponents from here on are not scaled by at all. -/
def exponentLimit : Int := 2147483648

/-- The floating point number of a numeral without its sign. -/
def magnitude? (numeral : Numeral) : Option Float :=
  let significand := (Significand.addWhole ⟨0, 0⟩ numeral.whole).addFraction numeral.fraction
  match numeral.exponent with
  | none => significand.toFloat?
  | some exponent =>
    if exponentLimit ≤ exponent then if significand.value = 0 then some 0 else none
    else if exponent ≤ -exponentLimit then some 0
    else { significand with power := significand.power + exponent }.toFloat?

def toFloat? (numeral : Numeral) : Option Float :=
  numeral.magnitude?.map fun magnitude => if numeral.negative then -magnitude else magnitude

/-- The number that a numeral denotes. It is an integer if it is written as one and has 64 bits;
minus zero is not. A number that is too large for floating point has none. -/
def toNumber? (numeral : Numeral) : Option Number :=
  let value := ofDigits numeral.whole
  if numeral.fraction.isEmpty && numeral.exponent.isNone then
    if !numeral.negative && value < wordCount then some (.integer value)
    else if numeral.negative && 0 < value && 2 * value ≤ wordCount then some (.integer (-value))
    else numeral.toFloat?.map .float
  else numeral.toFloat?.map .float

end Numeral

end TemplateCompiler.Json
