import Scrutiny.Decimal.Literal
import Scrutiny.Text.WhiteSpace

/-! # Numbers in texts

A text that stands for a number: a whole number with an optional sign, or a decimal with an optional
point, fraction and exponent. White space around the number does not count.
-/

namespace Scrutiny.Decimal

/-- A sign and what follows it; the sign is true for minus. -/
def splitSign : List Char → Bool × List Char
  | '-' :: rest => (true, rest)
  | '+' :: rest => (false, rest)
  | cs => (false, cs)

/-- A run of digits as a number, unless it is empty or holds something else. -/
def digits? (cs : List Char) : Option Nat :=
  if cs.isEmpty || !cs.all Char.isDigit then none else some (ofDigits cs)

/-- The whole number that a text stands for. -/
def whole? (text : String) : Option Int :=
  let (negative, cs) := splitSign (Text.trimChars text.toList)
  (digits? cs).map fun value => if negative then -(value : Int) else value

/-- An exponent with its letter, or nothing at all. -/
def exponent? : List Char → Option Int
  | [] => some 0
  | c :: rest =>
    if c = 'e' ∨ c = 'E' then
      let (negative, cs) := splitSign rest
      (digits? cs).map fun value => if negative then -(value : Int) else value
    else none

/-- A fraction with its point, or nothing at all, and what follows it. -/
def splitFraction : List Char → List Char × List Char
  | '.' :: rest => (rest.takeWhile Char.isDigit, rest.dropWhile Char.isDigit)
  | cs => ([], cs)

/-- The decimal without sign that characters stand for. There is a digit before or after the
point. -/
def unsigned? (cs : List Char) : Option Decimal :=
  let whole := cs.takeWhile Char.isDigit
  let (fraction, rest) := splitFraction (cs.dropWhile Char.isDigit)
  if whole.isEmpty && fraction.isEmpty then none
  else (exponent? rest).map fun exponent =>
    ⟨ofDigits (whole ++ fraction), exponent - fraction.length⟩

/-- The finite floating-point number that characters stand for. -/
def finiteChars? (cs : List Char) : Option Float :=
  let (negative, cs) := splitSign cs
  match unsigned? cs with
  | none => none
  | some decimal =>
    let value := decimal.nearest
    if value.isInf then none else some (if negative then -value else value)

/-- The finite floating-point number that a text stands for. -/
def finite? (text : String) : Option Float :=
  finiteChars? (Text.trimChars text.toList)

end Scrutiny.Decimal
