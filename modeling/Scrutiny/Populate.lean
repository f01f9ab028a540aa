import Scrutiny.Converter
import Scrutiny.Entity

/-! # Populating entities

The members of an object are copied into the fields of an entity. A field is written only if its
value changes. Nested entities are made anew for the members that hold them; a list is emptied
first. The first failure ends the copying and leaves what has been copied.
-/

namespace Scrutiny

/-- What happens while an entity is populated. -/
inductive CopyEvent where
  | noted (note : Converter.Note)
  /-- A value is written into a field of an entity. -/
  | wrote (entity field : String) (value : Value)

/-- What copying leaves: a result, the events, and why it has ended early, if it has. -/
structure Copied (α : Type) where
  result : α
  events : List CopyEvent
  failure : Option BindError

namespace Copied

/-- Put events before those of a copy. -/
def after {α : Type} (events : List CopyEvent) (copied : Copied α) : Copied α :=
  { copied with events := events ++ copied.events }

/-- Change the result of a copy. -/
def map {α β : Type} (f : α → β) (copied : Copied α) : Copied β :=
  ⟨f copied.result, copied.events, copied.failure⟩

end Copied

/-- What does not change while an entity is populated. -/
structure Copying where
  conduct : Conduct
  converter : Converter

/-- A level of a source: its members, its path, and the members of the level above. -/
structure Level where
  source : Entries Value
  path : String
  parent : Option (Entries Value)

namespace Copying

/-- Copy into several fields. -/
def fillFields (copying : Copying) (shape : Shape) (level : Level) :
    List String → Entries Value → Copied (Entries Value)
  | [], values => ⟨values, [], none⟩
  | field :: rest, values =>
    let previous := copying.conduct.shows values field
    let binding : Binding :=
      ⟨field, level.source, level.path, level.parent, level.source.get? field, previous⟩
    let value := copying.converter.convert binding
    let notes := (copying.converter.notesOfConvert binding).map CopyEvent.noted
    if value.same previous then (fillFields copying shape level rest values).after notes
    else
      match copying.conduct.accepts shape field value with
      | .error error => ⟨values, notes, some error⟩
      | .ok () =>
        (fillFields copying shape level rest (values.put field value)).after
          (notes ++ [.wrote shape.name field value])

/-- Copy the items of a list into fresh entities. `fill` copies the members of one; a refusal says
why no entity can be made. -/
def fillElements (fill : Level → Copied Entity) (refusal : Option BindError)
    (source : Entries Value) (key : String) : Nat → List Value → Copied (List Entity)
  | _, [] => ⟨[], [], none⟩
  | index, .object members :: rest =>
    match refusal with
    | some refusal => ⟨[], [], some refusal⟩
    | none =>
      let first := fill ⟨members, Path.elementKey key index, some source⟩
      match first.failure with
      | some failure => ⟨[first.result], first.events, some failure⟩
      | none =>
        ((fillElements fill refusal source key (index + 1) rest).map (first.result :: ·)).after
          first.events
  | index, other :: _ => ⟨[], [], some (.expectedElement key index other.kind)⟩

mutual

/-- Copy a level of a source into an entity of a shape. -/
def fill (copying : Copying) :
    Shape → Entries Value → List (Slot Entity) → Level → Copied Entity
  | ⟨name, fields, labels, rules, nested⟩, values, slots, level =>
    let shape : Shape := ⟨name, fields, labels, rules, nested⟩
    let scalars := copying.fillFields shape level fields values
    match scalars.failure with
    | some failure => ⟨⟨shape, scalars.result, slots⟩, scalars.events, some failure⟩
    | none =>
      ((fillSlots copying name (copying.conduct.nests shape) nested slots level).map fun slots =>
        ⟨shape, scalars.result, slots⟩).after scalars.events

/-- Copy into several fields for nested entities. -/
def fillSlots (copying : Copying) (entity : String) (nests : String → Bool) :
    List (Nested Shape) → List (Slot Entity) → Level → Copied (List (Slot Entity))
  | nested :: others, slot :: slots, level =>
    let first := fillSlot copying entity nests nested slot level
    match first.failure with
    | some failure => ⟨first.result :: slots, first.events, some failure⟩
    | none =>
      ((fillSlots copying entity nests others slots level).map (first.result :: ·)).after
        first.events
  | _, slots, _ => ⟨slots, [], none⟩

/-- Copy into a field for nested entities. -/
def fillSlot (copying : Copying) (entity : String) (nests : String → Bool) :
    Nested Shape → Slot Entity → Level → Copied (Slot Entity)
  | ⟨field, nesting, shape⟩, slot, level =>
    let notes := (copying.converter.notesOfEnters level.parent level.path field).map CopyEvent.noted
    let key := Path.fieldKey level.path field
    if !copying.converter.enters level.path field then ⟨slot, notes, none⟩
    else
      match level.source.get? field, nesting with
      | none, _ => ⟨slot, notes, none⟩
      | some .null, _ => ⟨slot, notes, none⟩
      | some (.object members), .one =>
        if nests field then
          ((fill copying shape [] (Entity.fresh shape).slots ⟨members, key, some level.source⟩).map
            Slot.one).after notes
        else ⟨slot, notes, some (.refusedChild entity field)⟩
      | some other, .one => ⟨slot, notes, some (.expectedObject key other.kind)⟩
      | some (.list items), .many =>
        let element := fill copying shape [] (Entity.fresh shape).slots
        let refusal := if nests field then none else some (.refusedChild entity field)
        ((fillElements element refusal level.source key 0 items).map Slot.many).after notes
      | some other, .many => ⟨slot, notes, some (.expectedList key other.kind)⟩

end

end Copying

/-- Copy an object into an entity. -/
def populate (conduct : Conduct) (converter : Converter) (entity : Entity) (source : Value) :
    Copied Entity :=
  match source with
  | .object members =>
    Copying.fill ⟨conduct, converter⟩ entity.shape entity.values entity.slots ⟨members, "", none⟩
  | other => ⟨entity, [], some (.sourceKind entity.shape.name other.kind)⟩

end Scrutiny
