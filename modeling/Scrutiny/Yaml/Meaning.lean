import Scrutiny.Decimal.Text
import Scrutiny.Document
import Scrutiny.Yaml.Node

/-! # What scalars and nodes mean

A plain scalar is null, a truth value, a number or, failing these, a text; a quoted one is a text.
A tag settles which of them it is.
-/

namespace Scrutiny.Yaml

/-- The spellings of null. -/
def isNullWord (text : String) : Bool :=
  ["null", "Null", "NULL", "~"].contains text

/-- The truth value of a word. -/
def bool? (text : String) : Option Bool :=
  if ["true", "True", "TRUE"].contains text then some true
  else if ["false", "False", "FALSE"].contains text then some false
  else none

/-- The base that characters announce with a zero and a letter, and the characters after it. -/
def base? : List Char → Option (Nat × List Char)
  | '0' :: 'x' :: digits => some (16, digits)
  | '0' :: 'o' :: digits => some (8, digits)
  | '0' :: 'b' :: digits => some (2, digits)
  | _ => none

/-- The number that digits of a base make, of which there is at least one. -/
def ofBase? (base : Nat) (digits : List Char) : Option Nat :=
  if digits.isEmpty then none
  else ((digits.mapM Json.hexDigit?).filter (·.all (· < base))).map
    (·.foldl (fun total digit => total * base + digit) 0)

/-- The whole number that characters without sign stand for. Digits after a leading zero do not make
a number. -/
def magnitude? (cs : List Char) : Option Nat :=
  match base? cs with
  | some (base, digits) => ofBase? base digits
  | none => if cs.length > 1 && cs.head? == some '0' then none else ofBase? 10 cs

/-- The whole number that a scalar stands for. -/
def whole? (text : String) : Option Int :=
  match text.toList with
  | '-' :: cs => (magnitude? cs).map fun size => -(size : Int)
  | '+' :: cs => (magnitude? cs).map Int.ofNat
  | cs => (magnitude? cs).map Int.ofNat

/-- The natural number that a scalar stands for where one is wanted. -/
def nat? (text : String) : Option Nat :=
  if text.toList.head? == some '-' then none
  else ((whole? text).map Int.toNat).filter fun size => (size : Int) ≤ Number.maxInt

/-- The spellings of an infinity. -/
def isInfinityWord (cs : List Char) : Bool :=
  [".inf", ".Inf", ".INF"].contains (String.ofList cs)

/-- The floating-point number that a scalar stands for. -/
def float? (text : String) : Option Float :=
  if [".nan", ".NaN", ".NAN"].contains text then some (0.0 / 0.0)
  else
    match text.toList with
    | '-' :: cs => if isInfinityWord cs then some (-1.0 / 0.0) else signed? cs true
    | '+' :: cs => if isInfinityWord cs then some (1.0 / 0.0) else signed? cs false
    | cs => if isInfinityWord cs then some (1.0 / 0.0) else signed? cs false
where
  signed? (cs : List Char) (negative : Bool) : Option Float :=
    if ['+', '-'].any (cs.head? == some ·) then none
    else (Decimal.finiteChars? cs).map fun value => if negative then -value else value

/-- Whether characters are digits after a leading zero, with or without a sign. -/
def isPaddedDigits (text : String) : Bool :=
  let (_, cs) := Decimal.splitSign text.toList
  cs.length > 1 && cs.head? == some '0' && cs.all Char.isDigit

/-- The value of a floating-point number; only finite ones are numbers. -/
def ofFloat (value : Float) : Value :=
  if value.isFinite then .number (.float value) else .null

/-- The value of a whole number. Numbers of more than 64 bits have none. -/
def ofWhole? (whole : Int) : Option Value :=
  if Number.minInt ≤ whole ∧ whole ≤ Number.maxInt then some (.number (.int whole)) else none

/-- Whether a whole number has at most 128 bits, its sign among them. Larger ones are not read as
whole numbers. -/
def isWide (whole : Int) : Bool :=
  -(Int.pow 2 127) ≤ whole && whole < Int.pow 2 128

/-- The value of a plain scalar without tag, where any may stand. -/
def plainValue? (text : String) : Option Value :=
  if text.isEmpty || isNullWord text then some .null
  else
    match bool? text, (whole? text).filter isWide with
    | some value, _ => some (.bool value)
    | none, some whole => ofWhole? whole
    | none, none =>
      match if isPaddedDigits text then none else float? text with
      | some value => some (ofFloat value)
      | none => some (.string text)

/-- Whether a tag is one that the text gives a meaning of its own. -/
def isLocal (tag : Option String) : Bool :=
  tag.any fun tag => tag.toList.head? == some '!'

namespace Scalar

/-- The value of a scalar where any may stand. -/
def value? (scalar : Scalar) : Option Value :=
  match scalar.tag with
  | none => if scalar.plain then plainValue? scalar.text else some (.string scalar.text)
  | some tag =>
    if isLocal scalar.tag then none
    else
      match tag with
      | "tag:yaml.org,2002:bool" => (bool? scalar.text).map .bool
      | "tag:yaml.org,2002:int" => ((whole? scalar.text).filter isWide).bind ofWhole?
      | "tag:yaml.org,2002:float" => (float? scalar.text).map ofFloat
      | "tag:yaml.org,2002:null" => if isNullWord scalar.text then some .null else none
      | _ => some (.string scalar.text)

/-- Whether a scalar says that a part is left out; a tag of null on something else is wrong. -/
def isNull? (scalar : Scalar) : Option Bool :=
  if !scalar.plain then some false
  else
    match scalar.tag with
    | some "tag:yaml.org,2002:null" => if isNullWord scalar.text then some true else none
    | some _ => some false
    | none => some (scalar.text.isEmpty || isNullWord scalar.text)

/-- What a scalar is read as, place by place. Only a plain one is a number where one is wanted. -/
def readings (scalar : Scalar) : Readings :=
  { value := scalar.value?
    text := some scalar.text
    float := if scalar.plain then float? scalar.text else none
    nat := if scalar.plain then nat? scalar.text else none
    isNull := scalar.isNull?
    isEmpty := scalar.plain && scalar.text.isEmpty }

end Scalar

namespace Node

/-- The greatest number of lists and mappings inside each other. -/
def maxDepth : Nat := 128

/-- The node that another stands for, and the numbers that have been followed to it. A number is
not followed again within its own node. -/
def follow? (nodes : List (Nat × Node)) (followed : List Nat) (node : Node) :
    Option (Node × List Nat) :=
  match node with
  | .reference number =>
    if followed.contains number then none
    else (nodes.lookup number).map fun found => (found, number :: followed)
  | node => some (node, followed)

/-- The characters of a node that is the key of a mapping. -/
def key? (nodes : List (Nat × Node)) (node : Node) : Option String :=
  match follow? nodes [] node with
  | some (.scalar found, _) => some found.text
  | _ => none

/-- The document of a node that is inside at most so many lists and mappings. -/
def document (nodes : List (Nat × Node)) : Nat → List Nat → Node → Document
  | 0, followed, node =>
    match follow? nodes followed node with
    | some (.scalar found, _) => .scalar found.readings
    | _ => .unreadable
  | depth + 1, followed, node =>
    match follow? nodes followed node with
    | some (.scalar found, _) => .scalar found.readings
    | some (.list tag items, followed) =>
      .list (isLocal tag) (items.map (document nodes depth followed))
    | some (.mapping tag entries, followed) =>
      let read := entries.mapM fun entry =>
        (key? nodes entry.1).map fun key => (key, document nodes depth followed entry.2)
      match read with
      | some entries => .mapping (isLocal tag) entries
      | none => .unreadable
    | _ => .unreadable

end Node

/-- The document that a text holds, or nothing if the text breaks the rules of the language. -/
def read (text : String) : Option Document :=
  (tree? text).map fun (root, nodes) => root.document nodes Node.maxDepth []

end Scrutiny.Yaml
