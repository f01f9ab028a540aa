import Scrutiny.Decimal.Shortest

/-! # Reading decimals

Two readings of a decimal literal. `Decimal.nearest` takes the floating-point number nearest to
what the literal says. `Decimal.scaled` is the reading of documents: the digits become a number
first and a power of ten is applied to it afterwards, so the last bit can differ.
-/

namespace Scrutiny

namespace Decimal

/-- The value of a run of decimal digits. -/
def ofDigits (digits : List Char) : Nat :=
  digits.foldl (fun total digit => total * 10 + (digit.toNat - '0'.toNat)) 0

/-- The quotient of two numbers rounded to the nearest whole number, a half to the even one. -/
def roundDiv (dividend divisor : Nat) : Nat :=
  let quotient := dividend / divisor
  let rest := 2 * (dividend % divisor)
  if rest > divisor ∨ (rest = divisor ∧ quotient % 2 = 1) then quotient + 1 else quotient

/-- A quotient scaled down by a power of two, as dividend and divisor. -/
def scaleDown (dividend divisor : Nat) (power : Int) : Nat × Nat :=
  if power ≥ 0 then (dividend, divisor <<< power.toNat) else (dividend <<< (-power).toNat, divisor)

/-- The power of two of the last binary place that a floating-point number near a quotient has: it
has 53 places, and none below the last place of the smallest number. -/
def lastPlace (dividend divisor : Nat) : Int :=
  let guess : Int := (dividend.log2 : Int) - divisor.log2 - 52
  let (scaled, unit) := scaleDown dividend divisor guess
  max (if scaled < unit <<< 52 then guess - 1 else guess) (-1074)

/-- The binary number nearest to a quotient. -/
def nearestBinary (dividend divisor : Nat) : Binary :=
  let place := lastPlace dividend divisor
  let (scaled, unit) := scaleDown dividend divisor place
  ⟨roundDiv scaled unit, place⟩

/-- The floating-point number nearest to a quotient. -/
def nearestRatio (dividend divisor : Nat) : Float :=
  (nearestBinary dividend divisor).toFloat

/-- The floating-point number nearest to a decimal. Magnitudes beyond every floating-point number
are settled by the position of the first digit alone. -/
def nearest (decimal : Decimal) : Float :=
  if decimal.digits = 0 then 0.0
  else
    let lead : Int := decimal.exponent + (digitCount decimal.digits : Nat)
    if lead > 400 then 1.0 / 0.0
    else if lead < -400 then 0.0
    else if decimal.exponent ≥ 0 then
      nearestRatio (decimal.digits * Nat.pow 10 decimal.exponent.toNat) 1
    else nearestRatio decimal.digits (Nat.pow 10 decimal.exponent.natAbs)

/-- The largest power of ten that is applied in one step. -/
def largestStep : Nat := 308

/-- Apply a power of ten to a number in steps, or nothing if the result is too large. -/
def applyPower (value : Float) (exponent : Int) : Nat → Option Float
  | 0 => none
  | steps + 1 =>
    if exponent.natAbs ≤ largestStep then
      let power := nearestRatio (Nat.pow 10 exponent.natAbs) 1
      if exponent ≥ 0 then
        let product := value * power
        if product.isInf then none else some product
      else some (value / power)
    else if value == 0.0 then some value
    else if exponent ≥ 0 then none
    else applyPower (value / nearestRatio (Nat.pow 10 largestStep) 1) (exponent + 308) steps

/-- The largest number of which the digits of a literal can be collected. -/
def largestSignificand : Nat := 18446744073709551615

/-- Collect digits into a number while it stays within bounds; the digits left over are returned. -/
def gather (total : Nat) : List Char → Nat × List Char
  | [] => (total, [])
  | digit :: rest =>
    let next := total * 10 + (digit.toNat - '0'.toNat)
    if next ≤ largestSignificand then gather next rest else (total, digit :: rest)

/-- The floating-point number that a document literal with the given whole digits, fraction digits
and exponent stands for, or nothing if it is too large. Digits beyond the bound of `gather` only
move the point. -/
def scaled (whole fraction : List Char) (exponent : Int) : Option Float :=
  let (total, leftOver) := gather 0 whole
  let (significand, unread) := gather total fraction
  let places : Int := (fraction.length : Int) - unread.length
  applyPower (Float.ofNat significand) (exponent + leftOver.length - places) 8

end Decimal

end Scrutiny
