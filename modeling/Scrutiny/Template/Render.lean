import Scrutiny.Json.Printer
import Scrutiny.Template.Basic

/-! # Writing templates

A template is written for a value. Names that blocks give to values hide the members of that value;
the innermost name counts. A template may call itself for a value inside the one it is written for.
-/

namespace Scrutiny.Template

/-- Why a template cannot be written for a value. -/
inductive WriteFault where
  /-- A step leads nowhere; the names that were there instead, if names are looked up at all. -/
  | missing (step : Located) (steps : List Located) (available : Option (List String))
  | notIterable (path : Path)
  | unknownTemplate (name : Located)
  | unknownFormatter (name : Located)
  | unprintable
  | outsideLoop
  /-- A formatter failed. -/
  | inFormatter (name : Located) (cause : WriteFault)
  /-- A called template failed. -/
  | inTemplate (name : Located) (cause : WriteFault)

/-- A fault at a place. -/
def WriteFault.located (place : Place) (reason : String) : String :=
  "Encountered rendering error on " ++ place.render ++ ". Reason: " ++ reason

/-- What is said of a template that cannot be written. -/
def WriteFault.message : WriteFault → String
  | missing step steps available =>
    located step.place <|
      "Failed to find value '" ++ step.text ++ "' from path '" ++ Path.render steps ++ "'." ++
        match available with
        | some names =>
          " Available values at this level are " ++
            String.intercalate ", " (names.map fun name => "'" ++ name ++ "'")
        | none => ""
  | notIterable path =>
    located path.lastPlace <|
      "Expected an array for path '" ++ Path.render path.steps ++
        "' but found a non-iterable value."
  | unknownTemplate name =>
    located name.place ("Tried to call an unknown template '" ++ name.text ++ "'")
  | unknownFormatter name =>
    located name.place ("Tried to call an unknown formatter '" ++ name.text ++ "'")
  | unprintable => "Expected a printable value but found array or object."
  | outsideLoop => "Used @index outside of a foreach block."
  | inFormatter name cause =>
    "Call to value formatter \"" ++ name.text ++ "\" on " ++ name.place.render ++
      " failed. Reason: " ++ cause.message
  | inTemplate name cause =>
    "Call to sub-template \"" ++ name.text ++ "\" on " ++ name.place.render ++
      " failed. Reason: " ++ cause.message

/-- A name that a block gives to a value. In a loop it also has a position and a count. -/
structure Layer where
  name : String
  value : Value
  position : Option (Nat × Nat)

/-- The value that a template is written for, and the names around a part, innermost first. -/
structure Surroundings where
  root : Value
  layers : List Layer

/-- The largest position that a step can name. -/
def maxPosition : Nat := 18446744073709551615

/-- The position that a step names, if it is one: digits with an optional plus sign. -/
def position? (step : Located) : Option Nat :=
  let digits := match step.chars with
    | '+' :: rest => rest
    | cs => cs
  if digits.isEmpty || !digits.all Char.isDigit then none
  else
    let position := Nat.ofDigitChars 10 digits 0
    if position ≤ maxPosition then some position else none

/-- The element of a list at a position that a step names. -/
def element? (value : Value) (step : Located) : Option Value :=
  match value, position? step with
  | .list items, some position => items[position]?
  | _, _ => none

/-- One step into a value: an element of a list by its position, a member by its name. -/
def step? (value : Value) (step : Located) : Option Value :=
  match element? value step with
  | some element => some element
  | none => value.member? step.text

/-- The names of the members of an object. -/
def names? : Value → Option (List String)
  | .object members => some (Entries.keys members)
  | _ => none

/-- Follow steps into a value. The whole list of steps serves the message alone. -/
def follow (whole : List Located) (value : Value) : List Located → Except WriteFault Value
  | [] => .ok value
  | step :: rest =>
    match step? value step with
    | some inner => follow whole inner rest
    | none => .error (.missing step whole (names? value))

namespace Surroundings

/-- Look a path up: from the innermost name that it begins with, or from the root. -/
def lookup (around : Surroundings) (path : Path) : Except WriteFault Value :=
  match around.layers.find? fun layer => layer.name == path.first.text with
  | some layer => follow path.rest layer.value path.rest
  | none => follow path.steps around.root path.steps

/-- The position in the innermost loop, and the number of its elements. -/
def loopPosition (around : Surroundings) : Except WriteFault (Nat × Nat) :=
  match around.layers.findSome? Layer.position with
  | some position => .ok position
  | none => .error .outsideLoop

/-- The value of a path or a keyword. -/
def valueOf (around : Surroundings) (path : Path) : Except WriteFault Value :=
  if path.isKeyword then
    match path.first.text with
    | "@root" => .ok around.root
    | "@index" => around.loopPosition.map fun (index, _) => .number (.int index)
    | "@first" => around.loopPosition.map fun (index, _) => .bool (index == 0)
    | _ => around.loopPosition.map fun (index, count) => .bool (index + 1 == count)
  else around.lookup path

/-- The elements of the list that a path leads to. -/
def elements (around : Surroundings) (path : Path) : Except WriteFault (List Value) := do
  let value ←
    if path.first.text == "@root" then .ok around.root
    else if path.isKeyword then .error (.notIterable path)
    else around.lookup path
  match value with
  | .list items => .ok items
  | _ => .error (.notIterable path)

/-- Give a name to a value. -/
def push (around : Surroundings) (name : String) (value : Value)
    (position : Option (Nat × Nat)) : Surroundings :=
  { around with layers := ⟨name, value, position⟩ :: around.layers }

end Surroundings

/-- How a value is written. Lists and objects have no written form. -/
def printed : Value → Except WriteFault String
  | .null => .ok ""
  | .bool true => .ok "true"
  | .bool false => .ok "false"
  | .number value => .ok (Json.number value)
  | .string text => .ok text
  | _ => .error .unprintable

/-- Whether a value counts as true. -/
def holds : Value → Bool
  | .null => false
  | .bool value => value
  | .number (.int value) => value ≠ 0
  | .number (.float value) => value != 0.0
  | .string text => !text.isEmpty
  | .list items => !items.isEmpty
  | .object _ => true

/-- The only formatter that has a name. -/
def plainFormatter : String := "unescaped"

/-- A value written by the formatter of a name. -/
def formattedBy (name : Located) (value : Value) : Except WriteFault String :=
  if name.text == plainFormatter then (printed value).mapError (.inFormatter name)
  else .error (.unknownFormatter name)

mutual

/-- Write a part. `self` names the template and writes it for another value. -/
def writeNode (self : String × (Value → Except WriteFault String)) :
    Node → Surroundings → Except WriteFault String
  | .text chars, _ => .ok (String.ofList chars)
  | .value path, around => do printed (← around.valueOf path)
  | .formatted path formatter, around => do formattedBy formatter (← around.lookup path)
  | .branch path negated segments, around => do
    let value ← around.valueOf path
    writeSegments self segments around (holds value != negated)
  | .scope path name body, around => do
    let value ← around.lookup path
    writeNodes self body (around.push name value none)
  | .each path name body, around => do
    let elements ← around.elements path
    let texts ← elements.zipIdx.mapM fun (element, index) =>
      writeNodes self body (around.push name element (some (index, elements.length)))
    .ok (String.join texts)
  | .call name path, around => do
    let value ← around.lookup path
    if name.text == self.1 then (self.2 value).mapError (.inTemplate name)
    else .error (.unknownTemplate name)

/-- Write parts one after the other. -/
def writeNodes (self : String × (Value → Except WriteFault String)) :
    List Node → Surroundings → Except WriteFault String
  | [], _ => .ok ""
  | node :: rest, around => do
    let first ← writeNode self node around
    let others ← writeNodes self rest around
    .ok (first ++ others)

/-- Write every other segment. -/
def writeSegments (self : String × (Value → Except WriteFault String)) :
    List (List Node) → Surroundings → Bool → Except WriteFault String
  | [], _, _ => .ok ""
  | segment :: rest, around, taken => do
    let first ← if taken then writeNodes self segment around else .ok ""
    let others ← writeSegments self rest around (!taken)
    .ok (first ++ others)

end

/-- Write a template for a value, with a bound on the depth of calls. -/
def writeWithin (name : String) (template : Template) : Nat → Value → Except WriteFault String
  | 0, _ => .ok ""
  | bound + 1, value =>
    writeNodes (name, writeWithin name template bound) template.nodes ⟨value, []⟩

mutual

/-- The height of a value. -/
def height : Value → Nat
  | .list items => heightOfItems items + 1
  | .object members => heightOfMembers members + 1
  | _ => 1

/-- The greatest height among the items of a list. -/
def heightOfItems : List Value → Nat
  | [] => 0
  | item :: rest => max (height item) (heightOfItems rest)

/-- The greatest height among the members of an object. -/
def heightOfMembers : List (String × Value) → Nat
  | [] => 0
  | (_, value) :: rest => max (height value) (heightOfMembers rest)

end

/-- Write the template of a name for a value. A call leads to a value inside the one that the
template is written for, so the height of that value bounds the depth of calls. -/
def write (name : String) (template : Template) (value : Value) : Except WriteFault String :=
  writeWithin name template (height value) value

end Scrutiny.Template
