import Scrutiny.Entries

/-! # Loosely typed values

The values that documents hold and checks look at. Whole numbers and fractional numbers are
different things even where they are numerically equal, and the members of an object keep the
order in which they were first written.
-/

namespace Scrutiny

/-- A number as it was written: a whole number, or a number with a fraction or an exponent. -/
inductive Number where
  | int (value : Int)
  | float (value : Float)
  deriving Inhabited

/-- A document value. -/
inductive Value where
  | null
  | bool (value : Bool)
  | number (value : Number)
  | string (value : String)
  | list (items : List Value)
  | object (members : List (String × Value))
  deriving Inhabited

namespace Number

/-- Whole numbers compare with whole numbers only, fractional ones with fractional ones. -/
def same : Number → Number → Bool
  | .int left, .int right => left == right
  | .float left, .float right => left == right
  | _, _ => false

/-- The smallest and the largest whole number a document can hold. -/
def minInt : Int := -9223372036854775808

/-- The largest whole number of the signed range. -/
def maxSigned : Int := 9223372036854775807

/-- The largest whole number a document can hold. -/
def maxInt : Int := 18446744073709551615

/-- The nearest floating-point number. -/
def toFloat : Number → Float
  | .int value => Float.ofInt value
  | .float value => value

end Number

namespace Value

/-- The member of an object under a name. -/
def member? (value : Value) (key : String) : Option Value :=
  match value with
  | .object members => Entries.get? members key
  | _ => none

/-- The text of a string value. -/
def text? : Value → Option String
  | .string text => some text
  | _ => none

mutual

/-- Equality of values: numbers by kind and value, lists item by item, objects by what they hold
under each name and not by the order of the names. -/
def same : Value → Value → Bool
  | .null, .null => true
  | .bool left, .bool right => left == right
  | .number left, .number right => left.same right
  | .string left, .string right => left == right
  | .list left, .list right => sameItems left right
  | .object left, .object right => left.length == right.length && sameMembers left right
  | _, _ => false

/-- Item by item equality of two lists. -/
def sameItems : List Value → List Value → Bool
  | [], [] => true
  | left :: lefts, right :: rights => same left right && sameItems lefts rights
  | _, _ => false

/-- Every member on the left has an equal one of the same name on the right. -/
def sameMembers : List (String × Value) → List (String × Value) → Bool
  | [], _ => true
  | (key, left) :: lefts, rights =>
    (match Entries.get? rights key with
      | some right => same left right
      | none => false) && sameMembers lefts rights

end

instance : BEq Value := ⟨same⟩

/-- A value that says nothing: null, the empty string, the empty list or the empty object. -/
def isBlank : Value → Bool
  | .null => true
  | .string text => text == ""
  | .list items => items.isEmpty
  | .object members => members.isEmpty
  | _ => false

end Value

end Scrutiny
