import Scrutiny.Populate

/-! # Exporting entities

An entity is copied into an object: the fields of its shape in order, then the nested entities. An
entity can also be copied into another entity, by way of an object.
-/

namespace Scrutiny

/-- An object, and the notes taken while it was made. -/
structure Exported where
  members : Entries Value
  notes : List Converter.Note

namespace Exporting

/-- Export several fields. -/
def exportFields (converter : Converter) (level : Level) :
    List String → Exported
  | [] => ⟨[], []⟩
  | field :: rest =>
    let others := exportFields converter level rest
    let notes := converter.notesOfEnters level.parent level.path field
    if converter.enters level.path field then
      let binding : Binding :=
        ⟨field, level.source, level.path, level.parent, some ((level.source.get? field).getD .null),
          .null⟩
      ⟨(field, converter.convert binding) :: others.members,
        notes ++ converter.notesOfConvert binding ++ others.notes⟩
    else ⟨others.members, notes ++ others.notes⟩

mutual

/-- Export an entity at a path, below an entity with the given values. -/
def exportAt (conduct : Conduct) (converter : Converter) :
    Entity → String → Option (Entries Value) → Exported
  | ⟨shape, values, slots⟩, path, parent =>
    let raw := shape.fields.map fun field => (field, conduct.shows values field)
    let scalars := exportFields converter ⟨raw, path, parent⟩ shape.fields
    let nested := exportSlots conduct converter shape.nested slots ⟨raw, path, parent⟩
    ⟨scalars.members ++ nested.members, scalars.notes ++ nested.notes⟩

/-- Export several fields for nested entities. -/
def exportSlots (conduct : Conduct) (converter : Converter) :
    List (Nested Shape) → List (Slot Entity) → Level → Exported
  | ⟨field, _, _⟩ :: others, slot :: slots, level =>
    let rest := exportSlots conduct converter others slots level
    let notes := converter.notesOfEnters level.parent level.path field
    if converter.enters level.path field then
      let (value, inner) :=
        exportSlot conduct converter slot (Path.fieldKey level.path field) level.source
      ⟨(field, value) :: rest.members, notes ++ inner ++ rest.notes⟩
    else ⟨rest.members, notes ++ rest.notes⟩
  | _, _, _ => ⟨[], []⟩

/-- Export what a field for nested entities holds. -/
def exportSlot (conduct : Conduct) (converter : Converter) :
    Slot Entity → String → Entries Value → Value × List Converter.Note
  | .vacant, _, _ => (.null, [])
  | .one child, key, raw =>
    let exported := exportAt conduct converter child key (some raw)
    (.object exported.members, exported.notes)
  | .many children, key, raw =>
    let (items, notes) := exportElements conduct converter children key 0 raw
    (.list items, notes)

/-- Export the elements of a list from a position on. -/
def exportElements (conduct : Conduct) (converter : Converter) :
    List Entity → String → Nat → Entries Value → List Value × List Converter.Note
  | [], _, _, _ => ([], [])
  | child :: children, key, index, raw =>
    let first := exportAt conduct converter child (Path.elementKey key index) (some raw)
    let (items, notes) := exportElements conduct converter children key (index + 1) raw
    (.object first.members :: items, first.notes ++ notes)

end

end Exporting

/-- Copy an entity into an object. -/
def exportEntity (conduct : Conduct) (converter : Converter) (entity : Entity) : Exported :=
  Exporting.exportAt conduct converter entity "" none

/-- The object of an entity, everything copied as it is. -/
def Entity.toValue (conduct : Conduct) (entity : Entity) : Value :=
  .object (exportEntity conduct .plain entity).members

/-- Copy an entity into a record, field by field as the record declares them. -/
def inject (conduct : Conduct) (converter : Converter) (entity record : Entity) : Copied Entity :=
  populate .record converter record (entity.toValue conduct)

end Scrutiny
