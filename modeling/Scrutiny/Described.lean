import Scrutiny.Json.Printer
import Scrutiny.Text.Quoted

/-! # Values described in messages

Two ways to speak of a value: `display` is its plain content, and `describe` names its kind as well,
for messages about arguments that are not what they should be.
-/

namespace Scrutiny.Value

/-- The content of a value: a string as it is, nothing for null, and otherwise its text. -/
def display : Value → String
  | .null => ""
  | .string text => text
  | other => Json.compact other

mutual

/-- A value with the name of its kind. -/
def describe : Value → String
  | .null => "Null"
  | .bool true => "Bool(true)"
  | .bool false => "Bool(false)"
  | .number value => "Number(" ++ Json.number value ++ ")"
  | .string text => "String(" ++ Text.quoted text ++ ")"
  | .list items => "Array [" ++ String.intercalate ", " (describeItems items) ++ "]"
  | .object members =>
    "Object \x7b" ++ String.intercalate ", " (describeMembers members) ++ "\x7d"

/-- The items of a list with the names of their kinds. -/
def describeItems : List Value → List String
  | [] => []
  | item :: rest => describe item :: describeItems rest

/-- The members of an object with the names of their kinds. -/
def describeMembers : List (String × Value) → List String
  | [] => []
  | (key, value) :: rest => (Text.quoted key ++ ": " ++ describe value) :: describeMembers rest

end

/-- An argument that may be missing. -/
def describe? : Option Value → String
  | none => "None"
  | some value => "Some(" ++ describe value ++ ")"

/-- The kind of a value, in words. -/
def kind : Value → String
  | .null => "null"
  | .bool _ => "a boolean"
  | .number _ => "a number"
  | .string _ => "a string"
  | .list _ => "a list"
  | .object _ => "an object"

/-- Equality that takes a scalar and its content for the same thing. -/
def looselySame (left right : Value) : Bool :=
  let isScalar : Value → Bool
    | .bool _ => true
    | .number _ => true
    | .string _ => true
    | _ => false
  left.same right || (isScalar left && isScalar right && left.display == right.display)

end Scrutiny.Value
