import Scrutiny.Populate

/-! # Records

A record keeps the records nested in it under the names of their fields, single ones in one map and
lists in another. Whoever fills a record goes by these names: a fresh record is put under the name
of a field and is then filled where it stands. Seen through the fields of its shape a record is an
entity.
-/

namespace Scrutiny

/-- An entity as it is kept. -/
structure Record where
  shape : Shape
  values : Entries Value
  /-- The single records of fields. -/
  one : List (String × Record)
  /-- The lists of records of fields. -/
  many : List (String × List Record)

namespace Record

/-- A record without values. -/
def fresh (shape : Shape) : Record :=
  ⟨shape, [], [], []⟩

/-- The value of a field. -/
def get (record : Record) (field : String) : Value :=
  (record.values.get? field).getD .null

/-- Write a value into a field. -/
def set (record : Record) (field : String) (value : Value) : Except BindError Record :=
  if record.shape.hasField field then
    .ok { record with values := record.values.put field value }
  else .error (.unknownField record.shape.name field)

/-- The single record of a field. -/
def child? (record : Record) (field : String) : Option Record :=
  Entries.get? record.one field

/-- The records of a list. -/
def children (record : Record) (field : String) : List Record :=
  (Entries.get? record.many field).getD []

/-- The shape that is declared for the records of a field. -/
def declared? (record : Record) (field : String) (nesting : Nesting) : Option Shape :=
  ((record.shape.nested? field).filter (·.nesting = nesting)).map Nested.shape

/-- Put a record into a field for a single one. -/
def putChild (record : Record) (field : String) (child : Record) : Record :=
  { record with one := Entries.put record.one field child }

/-- Replace the records of a list. -/
def putChildren (record : Record) (field : String) (children : List Record) : Record :=
  { record with many := Entries.put record.many field children }

/-- Put a fresh record into a field for a single one. -/
def resetChild? (record : Record) (field : String) : Option (Record × Record) := do
  let shape ← record.declared? field .one
  let changed := record.putChild field (fresh shape)
  let child ← changed.child? field
  some (child, changed)

/-- Put a fresh record at the end of a list. -/
def pushChild? (record : Record) (field : String) : Option (Record × Record) := do
  let shape ← record.declared? field .many
  let changed := record.putChildren field (record.children field ++ [fresh shape])
  let child ← (changed.children field).getLast?
  some (child, changed)

/-- Empty a list. -/
def clearChildren (record : Record) (field : String) : Record :=
  if Entries.has record.many field then record.putChildren field [] else record

/-- Put a record in the place of the last one of a list. -/
def putLast (record : Record) (field : String) (child : Record) : Record :=
  record.putChildren field ((record.children field).dropLast ++ [child])

/-- Change the record that steps lead to. -/
def update? {α : Type} (change : Record → α × Record) : List Entity.Step → Record →
    Option (α × Record)
  | [], record => some (change record)
  | .child field :: rest, record => do
    let child ← record.child? field
    let (result, child) ← update? change rest child
    some (result, record.putChild field child)
  | .element field place :: rest, record => do
    let child ← (record.children field)[place]?
    let (result, child) ← update? change rest child
    some (result, record.putChildren field ((record.children field).set place child))

/-- Copy into several fields. -/
def fillFields (converter : Converter) (level : Level) : List String → Record → Copied Record
  | [], record => ⟨record, [], none⟩
  | field :: rest, record =>
    let previous := record.get field
    let binding : Binding :=
      ⟨field, level.source, level.path, level.parent, level.source.get? field, previous⟩
    let value := converter.convert binding
    let notes := (converter.notesOfConvert binding).map CopyEvent.noted
    if value.same previous then (fillFields converter level rest record).after notes
    else
      match record.set field value with
      | .error error => ⟨record, notes, some error⟩
      | .ok changed =>
        (fillFields converter level rest changed).after
          (notes ++ [.wrote record.shape.name field value])

/-- Copy the items of a list into fresh records at the end of the list of a field. -/
def fillItems (fill : Record → Level → Copied Record) (field : String) (source : Entries Value)
    (key : String) : Nat → List Value → Record → Copied Record
  | _, [], record => ⟨record, [], none⟩
  | index, .object members :: rest, record =>
    match record.pushChild? field with
    | none => ⟨record, [], some (.refusedChild record.shape.name field)⟩
    | some (child, changed) =>
      let first := fill child ⟨members, Path.elementKey key index, some source⟩
      let filled := changed.putLast field first.result
      match first.failure with
      | some failure => ⟨filled, first.events, some failure⟩
      | none => (fillItems fill field source key (index + 1) rest filled).after first.events
  | index, other :: _, record => ⟨record, [], some (.expectedElement key index other.kind)⟩

mutual

/-- Copy a level of a source into a record of a shape. -/
def fill (converter : Converter) : Shape → Record → Level → Copied Record
  | ⟨_, fields, _, _, nested⟩, record, level =>
    let scalars := record.fillFields converter level fields
    match scalars.failure with
    | some _ => scalars
    | none => (fillNested converter nested scalars.result level).after scalars.events

/-- Copy into several fields for nested records. -/
def fillNested (converter : Converter) :
    List (Nested Shape) → Record → Level → Copied Record
  | [], record, _ => ⟨record, [], none⟩
  | nested :: others, record, level =>
    let first := fillField converter nested record level
    match first.failure with
    | some _ => first
    | none => (fillNested converter others first.result level).after first.events

/-- Copy into a field for nested records. -/
def fillField (converter : Converter) : Nested Shape → Record → Level → Copied Record
  | ⟨field, nesting, shape⟩, record, level =>
    let notes := (converter.notesOfEnters level.parent level.path field).map CopyEvent.noted
    let key := Path.fieldKey level.path field
    if !converter.enters level.path field then ⟨record, notes, none⟩
    else
      match level.source.get? field, nesting with
      | none, _ => ⟨record, notes, none⟩
      | some .null, _ => ⟨record, notes, none⟩
      | some (.object members), .one =>
        match record.resetChild? field with
        | none => ⟨record, notes, some (.refusedChild record.shape.name field)⟩
        | some (child, changed) =>
          ((fill converter shape child ⟨members, key, some level.source⟩).map
            (changed.putChild field)).after notes
      | some other, .one => ⟨record, notes, some (.expectedObject key other.kind)⟩
      | some (.list items), .many =>
        (fillItems (fill converter shape) field level.source key 0 items
          (record.clearChildren field)).after notes
      | some other, .many => ⟨record, notes, some (.expectedList key other.kind)⟩

end

/-- Copy an object into a record. -/
def populate (converter : Converter) (record : Record) (source : Value) : Copied Record :=
  match source with
  | .object members => fill converter record.shape record ⟨members, "", none⟩
  | other => ⟨record, [], some (.sourceKind record.shape.name other.kind)⟩

end Record

end Scrutiny
