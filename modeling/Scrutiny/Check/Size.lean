import Scrutiny.Check.Procedure
import Scrutiny.Decimal.Text

/-! # Sizes

Checks of lengths and of numbers. A text that stands for a number counts as that number. Values
that are no numbers are not refused by the bounds, but by `number` and `integer`.
-/

namespace Scrutiny.Check

/-- The length of a value: characters of a text, items of a list, members of an object, and
otherwise characters of its content. -/
def length : Value → Nat
  | .list items => items.length
  | .object members => members.length
  | value => value.display.length

/-- The number that a value is or stands for. -/
def numeric? : Value → Option Float
  | .number value => some value.toFloat
  | .string text => Decimal.finite? text
  | _ => none

/-- The value is at least so long. -/
def minLength : Procedure :=
  .plain "min_length" (.exactly 1) (firstIs "a non-negative integer" asCount) fun input args =>
    let least := (args.head?.bind asCount).getD 0
    input.require (input.value.isBlank || least ≤ length input.value) "min_length"
      [("min", .number (.int least))]

/-- The value is at most so long. -/
def maxLength : Procedure :=
  .plain "max_length" (.exactly 1) (firstIs "a non-negative integer" asCount) fun input args =>
    match args.head?.bind asCount with
    | none => .ok .pass
    | some most =>
      input.require (input.value.isBlank || length input.value ≤ most) "max_length"
        [("max", .number (.int most))]

/-- A number keeps to a bound. The message has the bound as it was given. -/
def bound (name : String) (keeps : Float → Float → Bool) : Procedure :=
  .plain name (.exactly 1) (firstIs "a number" asNumber) fun input args =>
    match args.head?.bind asNumber, numeric? input.value with
    | some bound, some actual =>
      if keeps actual bound.toFloat then .ok .pass
      else do
        let given ← argument args 0
        input.refuse name [(name, given)]
    | _, _ => .ok .pass

/-- A number is at least a bound. -/
def min : Procedure :=
  bound "min" fun actual bound => actual ≥ bound

/-- A number is at most a bound. -/
def max : Procedure :=
  bound "max" fun actual bound => actual ≤ bound

/-- Whether a value is a whole number or the text of one. -/
def isWhole : Value → Bool
  | .number (.int _) => true
  | .number (.float value) => value.isFinite && (Binary.ofFloat value).isWhole
  | .string text =>
    match Decimal.whole? text with
    | some value => decide (Number.minInt ≤ value ∧ value ≤ Number.maxSigned)
    | none => false
  | _ => false

/-- The value is a whole number. -/
def integer : Procedure :=
  .plain "integer" (.exactly 0) anything fun input _ =>
    input.require (input.value.isBlank || isWhole input.value) "integer" []

/-- The value is a number. -/
def number : Procedure :=
  .plain "number" (.exactly 0) anything fun input _ =>
    input.require (input.value.isBlank || (numeric? input.value).isSome) "number" []

end Scrutiny.Check
