import Scrutiny.ErrorMap
import Scrutiny.Shape

/-! # Entities

An entity has a shape, values for its fields, and the entities nested in it. How entities take
values and what they do around a validation is their conduct, which is the same for all entities of
a tree.
-/

namespace Scrutiny

/-- What a field for nested entities holds. -/
inductive Slot (ε : Type) where
  /-- No entity yet. -/
  | vacant
  | one (child : ε)
  | many (children : List ε)

/-- An entity. Its slots stand in the order of the fields for nested entities of its shape. -/
structure Entity where
  shape : Shape
  values : Entries Value
  slots : List (Slot Entity)

/-- Why a source cannot be written into an entity. -/
inductive BindError where
  /-- The source is no object. -/
  | sourceKind (entity kind : String)
  /-- The entity has no such field. -/
  | unknownField (entity field : String)
  /-- The entity takes no values. -/
  | refusedValue (entity field : String)
  /-- No entity can be made for a field. -/
  | refusedChild (entity field : String)
  | expectedObject (key kind : String)
  | expectedList (key kind : String)
  | expectedElement (key : String) (index : Nat) (kind : String)
  /-- The entity says that it cannot take a value. -/
  | raised (message : String)
  deriving Repr, DecidableEq

/-- What is said of a source that cannot be written. -/
def BindError.message : BindError → String
  | sourceKind entity kind => "cannot populate '" ++ entity ++ "' from " ++ kind
  | unknownField entity field => "entity '" ++ entity ++ "' has no field '" ++ field ++ "'"
  | refusedValue entity field =>
    "entity '" ++ entity ++ "' does not accept a value for '" ++ field ++ "'"
  | refusedChild entity field => "entity '" ++ entity ++ "' cannot hold nested '" ++ field ++ "'"
  | expectedObject key kind => "'" ++ key ++ "' expects an object, got " ++ kind
  | expectedList key kind => "'" ++ key ++ "' expects a list, got " ++ kind
  | expectedElement key index kind =>
    "'" ++ key ++ "' must hold objects, element " ++ toString index ++ " is " ++ kind
  | raised message => message

/-- What a hook leaves: the values of the entity, and why it cannot go on, if it cannot. -/
structure Reaction where
  values : Entries Value
  failure : Option Failure := none

/-- How entities take values and nested entities, and what they do around a validation. A hook reads
and changes the values of its own entity. -/
structure Conduct where
  /-- The value that a field shows. -/
  shows : Entries Value → String → Value
  /-- Whether a field takes a value. -/
  accepts : Shape → String → Value → Except BindError Unit
  /-- Whether entities can be made for a field. -/
  nests : Shape → String → Bool
  /-- Before the rules of an entity. -/
  before : Shape → Scope → Entries Value → Reaction := fun _ _ values => ⟨values, none⟩
  /-- After an entity without errors at it or below it. -/
  complete : Shape → Scope → Entries Value → Reaction := fun _ _ values => ⟨values, none⟩
  /-- After an entity with errors at it or below it. -/
  failed : Shape → ErrorMap → Scope → Entries Value → Reaction :=
    fun _ _ _ values => ⟨values, none⟩

namespace Conduct

/-- The value of a field, null before it is written. -/
def stored (values : Entries Value) (field : String) : Value :=
  (values.get? field).getD .null

/-- Entities that store what they are given in the fields of their shape and do nothing else. -/
def record : Conduct where
  shows := stored
  accepts shape field _ :=
    if shape.hasField field then .ok () else .error (.unknownField shape.name field)
  nests _ _ := true

/-- Entities that show nothing and take nothing. -/
def bare : Conduct where
  shows _ _ := .null
  accepts shape field _ := .error (.refusedValue shape.name field)
  nests _ _ := false

end Conduct

namespace Entity

/-- What a field for nested entities holds at first. -/
def emptySlot : Nesting → Slot Entity
  | .one => .vacant
  | .many => .many []

/-- An entity without values. -/
def fresh (shape : Shape) : Entity :=
  ⟨shape, [], shape.nested.map fun nested => emptySlot nested.nesting⟩

/-- Write a value into a field. -/
def set (conduct : Conduct) (entity : Entity) (field : String) (value : Value) :
    Except BindError Entity := do
  conduct.accepts entity.shape field value
  .ok { entity with values := entity.values.put field value }

/-- The position and the declaration of a field for nested entities. -/
def slotIndex? (entity : Entity) (field : String) : Option (Nat × Nested Shape) :=
  (entity.shape.nested.zipIdx.find? fun entry => entry.1.field == field).map fun (nested, index) =>
    (index, nested)

/-- What a field for nested entities holds. -/
def slot? (entity : Entity) (field : String) : Option (Slot Entity) :=
  (entity.slotIndex? field).bind fun (index, _) => entity.slots[index]?

/-- Replace what a slot holds. -/
def putSlot (entity : Entity) (index : Nat) (slot : Slot Entity) : Entity :=
  { entity with slots := entity.slots.set index slot }

/-- The single entity of a field. -/
def child? (entity : Entity) (field : String) : Option Entity :=
  match entity.slot? field with
  | some (.one child) => some child
  | _ => none

/-- The entities of a list. -/
def children (entity : Entity) (field : String) : List Entity :=
  match entity.slot? field with
  | some (.many children) => children
  | _ => []

/-- Put a fresh entity into a field for a single one. -/
def resetChild? (conduct : Conduct) (entity : Entity) (field : String) : Option Entity :=
  match entity.slotIndex? field with
  | some (index, ⟨_, .one, shape⟩) =>
    if conduct.nests entity.shape field then some (entity.putSlot index (.one (fresh shape)))
    else none
  | _ => none

/-- Put a fresh entity at the end of a list. -/
def pushChild? (conduct : Conduct) (entity : Entity) (field : String) : Option Entity :=
  match entity.slotIndex? field with
  | some (index, ⟨_, .many, shape⟩) =>
    if conduct.nests entity.shape field then
      some (entity.putSlot index (.many (entity.children field ++ [fresh shape])))
    else none
  | _ => none

/-- Empty a list. -/
def clearChildren (entity : Entity) (field : String) : Entity :=
  match entity.slotIndex? field with
  | some (index, ⟨_, .many, _⟩) => entity.putSlot index (.many [])
  | _ => entity

/-- A step from an entity to one nested in it. -/
inductive Step where
  | child (field : String)
  | element (field : String) (index : Nat)
  deriving Repr, DecidableEq

/-- Change the entity that steps lead to. -/
def update? {α : Type} (change : Entity → α × Entity) : List Step → Entity → Option (α × Entity)
  | [], entity => some (change entity)
  | .child field :: rest, entity => do
    let (index, _) ← entity.slotIndex? field
    let child ← entity.child? field
    let (result, child) ← update? change rest child
    some (result, entity.putSlot index (.one child))
  | .element field place :: rest, entity => do
    let (index, _) ← entity.slotIndex? field
    let children := entity.children field
    let child ← children[place]?
    let (result, child) ← update? change rest child
    some (result, entity.putSlot index (.many (children.set place child)))

/-- The values that entities nested in this one can look at. -/
def snapshot (conduct : Conduct) (entity : Entity) : Snapshot where
  entity := entity.shape.name
  values := entity.shape.visibleFields.map fun field => (field, conduct.shows entity.values field)

end Entity

end Scrutiny
