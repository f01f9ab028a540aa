import Scrutiny.Decimal.Shortest

/-! # How a decimal is written

`NumberStyle` holds the decisions of one output format. Both number formats of this library, the one
of documents and the one of messages about ratios, are values of it.
-/

namespace Scrutiny

/-- Decisions about the written form of a floating-point number. -/
structure NumberStyle where
  /-- Numbers below ten to this power are positional, if there is such a limit. -/
  positionalBelow : Option Int
  /-- Numbers from ten to this power on are positional, if there is such a limit. -/
  positionalFrom : Option Int
  /-- Whether a whole number carries a final zero after the point. -/
  wholePoint : Bool
  /-- The texts of values that are not finite. -/
  notANumber : String
  infinity : String

namespace NumberStyle

/-- Whether a value whose first digit has weight ten to the power `lead` is written positionally. -/
def positional (style : NumberStyle) (lead : Int) : Bool :=
  (match style.positionalBelow with
    | some limit => lead < limit
    | none => true) &&
  (match style.positionalFrom with
    | some limit => limit ≤ lead
    | none => true)

/-- Digits with the point put after the digit of weight one. -/
def layPositional (style : NumberStyle) (digits : List Char) (exponent : Int) : List Char :=
  if exponent ≥ 0 then
    digits ++ List.replicate exponent.toNat '0' ++ (if style.wholePoint then ['.', '0'] else [])
  else
    let places := exponent.natAbs
    if places < digits.length then
      digits.take (digits.length - places) ++ '.' :: digits.drop (digits.length - places)
    else '0' :: '.' :: (List.replicate (places - digits.length) '0' ++ digits)

/-- One digit, the point, the other digits, and the power of ten with its sign. -/
def layScientific (digits : List Char) (lead : Int) : List Char :=
  let mantissa := match digits with
    | first :: second :: rest => first :: '.' :: second :: rest
    | short => short
  let sign := if lead < 0 then '-' else '+'
  mantissa ++ 'e' :: sign :: (Nat.toDigits 10 lead.natAbs)

/-- The written form of a nonnegative decimal. -/
def layOut (style : NumberStyle) (decimal : Decimal) : String :=
  if decimal.digits = 0 then if style.wholePoint then "0.0" else "0"
  else
    let digits := Nat.toDigits 10 decimal.digits
    let lead : Int := decimal.exponent + digits.length - 1
    String.ofList <|
      if style.positional lead then style.layPositional digits decimal.exponent
      else layScientific digits lead

/-- The written form of a floating-point number. -/
def render (style : NumberStyle) (value : Float) : String :=
  if value.isNaN then style.notANumber
  else
    let bits := value.toBits.toNat
    let signBit := Nat.pow 2 63
    let magnitude :=
      if value.isInf then style.infinity
      else style.layOut (Decimal.shortest (Binary.ofBits (bits % signBit)))
    if bits ≥ signBit then "-" ++ magnitude else magnitude

end NumberStyle

end Scrutiny
