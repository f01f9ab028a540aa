import Scrutiny.Decimal.Notation
import Scrutiny.Value

/-! # Documents as text

The compact form has no space at all; the indented form puts every member on a line of its own.
Strings escape the quote, the backslash and the control characters, and nothing else.
-/

namespace Scrutiny.Json

/-- Numbers are positional from ten to the minus five up to ten to the sixteen, keep a fraction
digit, and otherwise show a signed exponent. -/
def numberStyle : NumberStyle where
  positionalBelow := some 16
  positionalFrom := some (-5)
  wholePoint := true
  notANumber := "null"
  infinity := "null"

/-- The text of a number; a number that is not finite has no text of its own. -/
def number : Number → String
  | .int value => toString value
  | .float value => if value.isFinite then numberStyle.render value else "null"

/-- Two hexadecimal digits, in lower case. -/
def hexPair (code : Nat) : List Char :=
  [Nat.digitChar (code / 16 % 16), Nat.digitChar (code % 16)]

/-- The written form of one character inside a string. -/
def escapeChar (c : Char) : List Char :=
  match c with
  | '"' => ['\\', '"']
  | '\\' => ['\\', '\\']
  | '\n' => ['\\', 'n']
  | '\r' => ['\\', 'r']
  | '\t' => ['\\', 't']
  | c =>
    if c.toNat = 8 then ['\\', 'b']
    else if c.toNat = 12 then ['\\', 'f']
    else if c.toNat < 32 then ['\\', 'u', '0', '0'] ++ hexPair c.toNat
    else [c]

/-- A string between quotes. -/
def quote (text : String) : String :=
  String.ofList ('"' :: (text.toList.flatMap escapeChar ++ ['"']))

mutual

/-- The text of a value without any space. -/
def compact : Value → String
  | .null => "null"
  | .bool true => "true"
  | .bool false => "false"
  | .number value => number value
  | .string text => quote text
  | .list items => "[" ++ String.intercalate "," (compactItems items) ++ "]"
  | .object members => "\x7b" ++ String.intercalate "," (compactMembers members) ++ "\x7d"

/-- The texts of the items of a list. -/
def compactItems : List Value → List String
  | [] => []
  | item :: rest => compact item :: compactItems rest

/-- The texts of the members of an object, each with its name. -/
def compactMembers : List (String × Value) → List String
  | [] => []
  | (key, value) :: rest => (quote key ++ ":" ++ compact value) :: compactMembers rest

end

/-- Two spaces for every level of depth. -/
def margin (depth : Nat) : String :=
  String.ofList (List.replicate (2 * depth) ' ')

/-- Lines between an opening and a closing bracket. -/
def block (opening closing : String) (depth : Nat) (lines : List String) : String :=
  if lines.isEmpty then opening ++ closing
  else
    opening ++ "\n" ++
      String.intercalate ",\n" (lines.map fun line => margin (depth + 1) ++ line) ++
      "\n" ++ margin depth ++ closing

mutual

/-- The indented text of a value that stands at a depth. -/
def indentedAt (depth : Nat) : Value → String
  | .list items => block "[" "]" depth (indentedItems (depth + 1) items)
  | .object members => block "\x7b" "\x7d" depth (indentedMembers (depth + 1) members)
  | value => compact value

/-- The indented texts of the items of a list. -/
def indentedItems (depth : Nat) : List Value → List String
  | [] => []
  | item :: rest => indentedAt depth item :: indentedItems depth rest

/-- The indented texts of the members of an object. -/
def indentedMembers (depth : Nat) : List (String × Value) → List String
  | [] => []
  | (key, value) :: rest =>
    (quote key ++ ": " ++ indentedAt depth value) :: indentedMembers depth rest

end

/-- The indented text of a whole document. -/
def indented (value : Value) : String :=
  indentedAt 0 value

end Scrutiny.Json
