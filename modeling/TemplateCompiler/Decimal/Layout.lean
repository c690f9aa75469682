import TemplateCompiler.Decimal.Shortest

namespace TemplateCompiler.Decimal

/-- How numbers are written. -/
structure Layout where
  /-- Whether a number whose first digit stands for `10 ^ e` is written without an exponent. -/
  positional : Int → Bool
  tie : Tie

namespace Layout

/-- The digits of a coefficient without trailing zeros. -/
def significant (coefficient : Nat) : List Char :=
  ((Nat.toDigits 10 coefficient).reverse.dropWhile (· == '0')).reverse

/-- Digits with the decimal point after the first `point` of them, and at least one on each side. -/
def writePositional (digits : List Char) (point : Int) : String :=
  let padded := List.replicate (1 - point).toNat '0' ++ digits ++
    List.replicate (point + 1 - digits.length).toNat '0'
  let whole := max point 1
  String.ofList (padded.take whole.toNat ++ '.' :: padded.drop whole.toNat)

/-- One digit before the point, if there are more, and a signed exponent. -/
def writeScientific (digits : List Char) (point : Int) : String :=
  let exponent := point - 1
  let rest := digits.drop 1
  String.ofList (digits.take 1 ++ if rest.isEmpty then [] else '.' :: rest) ++
    (if exponent < 0 then "e-" else "e+") ++ exponent.natAbs.repr

def writeDigits (layout : Layout) (digits : Digits) : String :=
  let text := significant digits.coefficient
  if layout.positional (digits.point - 1) then writePositional text digits.point
  else writeScientific text digits.point

/-- The sign bit, the exponent's bits and the fraction's bits of a binary floating point number. -/
def bitFields (number : Float) : Nat × Nat × Nat :=
  let bits := number.toBits.toNat
  let exponentUnit := Nat.pow 2 52
  let signUnit := Nat.pow 2 63
  (bits / signUnit, bits % signUnit / exponentUnit, bits % exponentUnit)

/-- A binary floating point number in the fewest digits that denote it. -/
def write (layout : Layout) (number : Float) : String :=
  let (signBit, biased, fraction) := bitFields number
  let sign := if signBit = 1 then "-" else ""
  if biased = 2047 then if fraction = 0 then sign ++ "inf" else "NaN"
  else if biased = 0 then
    if fraction = 0 then sign ++ "0.0"
    else
      let interval := RoundingInterval.ofBinary fraction (-1074) false
      sign ++ layout.writeDigits (interval.shortest layout.tie)
  else
    let interval :=
      RoundingInterval.ofBinary (Nat.pow 2 52 + fraction) (biased - 1075)
        (fraction == 0 && 1 < biased)
    sign ++ layout.writeDigits (interval.shortest layout.tie)

end Layout

end TemplateCompiler.Decimal
