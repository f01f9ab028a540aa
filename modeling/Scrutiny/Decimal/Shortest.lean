/-! # The fewest digits that read back

A finite floating-point number stands for every real that rounds to it. Among the decimals in
that interval `Decimal.shortest` takes one with the fewest digits, and of those the nearest.
-/

namespace Scrutiny

/-- A nonnegative decimal: `digits` times ten to the power `exponent`. -/
structure Decimal where
  digits : Nat
  exponent : Int
  deriving Repr, DecidableEq, Inhabited

/-- A finite nonnegative binary number: `mantissa` times two to the power `exponent`. -/
structure Binary where
  mantissa : Nat
  exponent : Int
  deriving Repr, DecidableEq, Inhabited

namespace Binary

/-- The number of explicitly stored bits of a mantissa. -/
def storedBits : Nat := 52

/-- The exponent of the last bit of the smallest numbers. -/
def leastExponent : Int := -1074

/-- The magnitude that a bit pattern of a finite number stands for. -/
def ofBits (bits : Nat) : Binary :=
  let fraction := bits % Nat.pow 2 storedBits
  let field := bits / Nat.pow 2 storedBits % 2048
  if field = 0 then ⟨fraction, leastExponent⟩
  else ⟨Nat.pow 2 storedBits + fraction, leastExponent + (field - 1)⟩

/-- The magnitude of a finite floating-point number. -/
def ofFloat (value : Float) : Binary :=
  ofBits (value.toBits.toNat % Nat.pow 2 63)

/-- The bit pattern of a number, that of infinity if the number is too large. The mantissa has all
the bits that are stored and one more, or the exponent is the least; a mantissa that is a power of
two with a bit too many counts as half of it with the next exponent. -/
def toBits (value : Binary) : Nat :=
  let hidden := Nat.pow 2 storedBits
  if value.mantissa < hidden then value.mantissa
  else
    let field := (value.exponent - leastExponent).toNat
    min (field * hidden + value.mantissa) (2047 * hidden)

/-- The floating-point number of a magnitude. -/
def toFloat (value : Binary) : Float :=
  Float.ofBits (UInt64.ofNat value.toBits)

/-- Whether a number is whole. -/
def isWhole (value : Binary) : Bool :=
  0 ≤ value.exponent || value.mantissa % Nat.pow 2 value.exponent.natAbs == 0

/-- Whether the gap to the number below is half the gap to the number above. -/
def narrowBelow (value : Binary) : Bool :=
  value.mantissa == Nat.pow 2 storedBits && value.exponent > leastExponent

end Binary

namespace Decimal

/-- A fraction `numerator / denominator` of naturals. -/
structure Fraction where
  numerator : Nat
  denominator : Nat

/-- The fraction `units` times `base` to the power `exponent`. -/
def Fraction.scaled (units base : Nat) (exponent : Int) : Fraction :=
  let factor := Nat.pow base exponent.natAbs
  if exponent < 0 then ⟨units, factor⟩ else ⟨units * factor, 1⟩

/-- Whether one fraction is at most another. -/
def Fraction.atMost (left right : Fraction) : Bool :=
  left.numerator * right.denominator ≤ right.numerator * left.denominator

/-- Whether a decimal lies in the interval of reals that round to a binary number; the ends count
exactly when the mantissa is even. -/
def readsBack (value : Binary) (candidate : Decimal) : Bool :=
  let below := if value.narrowBelow then 1 else 2
  let low := Fraction.scaled (4 * value.mantissa - below) 2 (value.exponent - 2)
  let high := Fraction.scaled (4 * value.mantissa + 2) 2 (value.exponent - 2)
  let point := Fraction.scaled candidate.digits 10 candidate.exponent
  if value.mantissa % 2 = 0 then low.atMost point && point.atMost high
  else !(point.atMost low) && !(high.atMost point)

/-- The number of decimal digits of a natural, and zero for zero. -/
def digitCount (n : Nat) : Nat :=
  if n = 0 then 0 else (Nat.toDigits 10 n).length

/-- The least `k` with the fraction below ten to the power `k`. -/
def magnitude (value : Fraction) : Int :=
  let whole := value.numerator / value.denominator
  if whole > 0 then digitCount whole
  else
    let leading := (List.range 400).find? fun zeros =>
      value.denominator ≤ value.numerator * Nat.pow 10 (zeros + 1)
    Int.negOfNat (leading.getD 400)

/-- Move trailing zeros of the digits into the exponent. -/
def strip (digits : Nat) (exponent : Int) : Nat → Decimal
  | 0 => ⟨digits, exponent⟩
  | steps + 1 =>
    if digits ≠ 0 ∧ digits % 10 = 0 then strip (digits / 10) (exponent + 1) steps
    else ⟨digits, exponent⟩

/-- The decimals with a grid of ten to the power `exponent` on either side of a fraction. -/
def neighbours (value : Fraction) (exponent : Int) : Nat × Nat :=
  let factor := Nat.pow 10 exponent.natAbs
  let shifted : Fraction :=
    if exponent < 0 then ⟨value.numerator * factor, value.denominator⟩
    else ⟨value.numerator, value.denominator * factor⟩
  let lower := shifted.numerator / shifted.denominator
  (lower, lower + 1)

/-- Of the two neighbours on one grid, the one that reads back; of two, the nearer. -/
def onGrid (value : Binary) (exact : Fraction) (exponent : Int) : Option Decimal :=
  let (lower, upper) := neighbours exact exponent
  let low : Decimal := ⟨lower, exponent⟩
  let high : Decimal := ⟨upper, exponent⟩
  match readsBack value low, readsBack value high with
  | true, false => some low
  | false, true => some high
  | false, false => none
  | true, true =>
    let middle := Fraction.scaled (lower + upper) 10 exponent
    let double : Fraction := ⟨2 * exact.numerator, exact.denominator⟩
    if double.atMost middle && !(middle.atMost double && lower % 2 = 1) then some low
    else some high

/-- The shortest decimal that reads back as a binary number; seventeen digits always suffice. -/
def shortest (value : Binary) : Decimal :=
  if value.mantissa = 0 then ⟨0, 0⟩
  else
    let exact := Fraction.scaled value.mantissa 2 value.exponent
    let scale := magnitude exact
    let found := (List.range 17).findSome? fun (index : Nat) =>
      onGrid value exact (scale - ((index : Int) + 1))
    match found with
    | some decimal => strip decimal.digits decimal.exponent 17
    | none =>
      if value.exponent < 0 then
        ⟨value.mantissa * Nat.pow 5 value.exponent.natAbs, value.exponent⟩
      else ⟨value.mantissa * Nat.pow 2 value.exponent.natAbs, 0⟩

end Decimal

end Scrutiny
