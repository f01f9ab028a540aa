import Scrutiny.Value

/-! # Documents before they are understood

A document is a tree of scalars, lists and mappings. What a scalar is read as depends on where it
stands: the same characters may be a number where any value may stand and a text where a text is
wanted. So a scalar carries one reading for each kind of place, and readers of structures are built
from the accessors of this module. A reader that fails says only that it does.
-/

namespace Scrutiny

/-- What a scalar is read as, place by place; a reading that is absent fails. -/
structure Readings where
  /-- The reading where any value may stand. -/
  value : Option Value
  text : Option String := none
  float : Option Float := none
  nat : Option Nat := none
  /-- Whether the scalar says that a part is left out, where parts may be. -/
  isNull : Option Bool := some false
  /-- Whether nothing is written at all, which also stands for what is empty. -/
  isEmpty : Bool := false

/-- A document. -/
inductive Document where
  | scalar (readings : Readings)
  /-- A list; one that is marked has no reading where any value may stand. -/
  | list (marked : Bool) (items : List Document)
  /-- A mapping; one that is marked has no reading where any value may stand. -/
  | mapping (marked : Bool) (entries : List (String × Document))
  /-- Something that no reader accepts, and that is in order only where nothing reads it. -/
  | unreadable

instance : Inhabited Document := ⟨.unreadable⟩

namespace Readings

/-- The readings of a value that is not a list or an object. Only strings have a text. -/
def ofValue (value : Value) : Readings :=
  match value with
  | .null => { value := some value, isNull := some true }
  | .string text => { value := some value, text := some text }
  | .number number =>
    { value := some value, float := some number.toFloat,
      nat := match number with
        | .int whole => if 0 ≤ whole then some whole.toNat else none
        | .float _ => none }
  | _ => { value := some value }

end Readings

namespace Document

mutual

/-- The document of a value. -/
def ofValue : Value → Document
  | .list items => .list false (ofItems items)
  | .object members => .mapping false (ofMembers members)
  | value => .scalar (.ofValue value)

/-- The documents of the items of a list. -/
def ofItems : List Value → List Document
  | [] => []
  | item :: rest => ofValue item :: ofItems rest

/-- The documents of the members of an object. -/
def ofMembers : List (String × Value) → List (String × Document)
  | [] => []
  | (key, value) :: rest => (key, ofValue value) :: ofMembers rest

end

mutual

/-- The value of a document; a name that occurs twice keeps its first place and takes its last
value. -/
def value? : Document → Option Value
  | .scalar readings => readings.value
  | .list false items => (items? items).map .list
  | .mapping false entries => (members? entries).map fun found => .object (Entries.collect found)
  | _ => none

/-- The values of the items of a list. -/
def items? : List Document → Option (List Value)
  | [] => some []
  | item :: rest =>
    match value? item, items? rest with
    | some value, some values => some (value :: values)
    | _, _ => none

/-- The values of the entries of a mapping. -/
def members? : List (String × Document) → Option (List (String × Value))
  | [] => some []
  | (key, document) :: rest =>
    match value? document, members? rest with
    | some value, some values => some ((key, value) :: values)
    | _, _ => none

end

/-- A document read as a text. -/
def string? : Document → Option String
  | .scalar readings => readings.text
  | _ => none

/-- A document read as a floating-point number. -/
def float? : Document → Option Float
  | .scalar readings => readings.float
  | _ => none

/-- A document read as a natural number up to a bound. -/
def nat? (bound : Nat) : Document → Option Nat
  | .scalar readings => readings.nat.filter (· ≤ bound)
  | _ => none

/-- A document read as a list. -/
def list? {α : Type} (item : Document → Option α) : Document → Option (List α)
  | .list _ items => items.mapM item
  | .scalar readings => if readings.isEmpty then some [] else none
  | _ => none

/-- A document read as a map from names. -/
def entries? {α : Type} (value : Document → Option α) : Document → Option (Entries α)
  | .mapping _ entries =>
    (entries.mapM fun entry => (value entry.2).map fun read => (entry.1, read)).map
      Entries.collect
  | .scalar readings => if readings.isEmpty then some [] else none
  | _ => none

/-- The fields of a structure by name: each is absent or present once. A list gives them by
position. -/
def fields? (names : List String) : Document → Option (List (Option Document))
  | .mapping _ entries =>
    names.mapM fun name =>
      match entries.filter fun entry => entry.1 == name with
      | [] => some none
      | [(_, document)] => some (some document)
      | _ => none
  | .list _ items =>
    if items.length ≤ names.length then
      some (items.map some ++ List.replicate (names.length - items.length) none)
    else none
  | .scalar readings => if readings.isEmpty then some (names.map fun _ => none) else none
  | .unreadable => none

/-- A field read by a reader, or its default if it is absent. -/
def fieldOr {α : Type} (default : α) (read : Document → Option α) : Option Document → Option α
  | none => some default
  | some document => read document

/-- A part that may be left out by writing null. -/
def optional? {α : Type} (read : Document → Option α) (document : Document) :
    Option (Option α) :=
  match document with
  | .scalar readings =>
    match readings.isNull with
    | some true => some none
    | some false => (read document).map some
    | none => none
  | _ => (read document).map some

end Document

end Scrutiny
