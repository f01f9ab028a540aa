import Scrutiny.Proofs.Record.Fitting

/-! # Filtering on the way out and on the way in

The layers that leave fields out take a field whole if they enter it, and otherwise leave it alone.
So it makes no difference at which end of a copy they stand: an object made with them and copied as
it is gives what the whole object copied with them gives, write by write (`inject_filters`).
-/

namespace Scrutiny

namespace Converter

/-- A converter made of layers that leave fields out. -/
inductive Filters : Converter → Prop
  | plain : Filters .plain
  | excluding {fields : List String} {inner : Converter} :
      Filters inner → Filters (.excluding fields inner)
  | including {fields : List String} {inner : Converter} :
      Filters inner → Filters (.including fields inner)

namespace Filters

variable {converter : Converter} (filters : converter.Filters)

include filters

/-- What is in the source is taken for a field that is entered, and nothing for the others. -/
theorem convert_eq (binding : Binding) : converter.convert binding =
    if converter.enters binding.path binding.field then binding.candidate.getD binding.previous
    else binding.previous := by
  induction filters with
  | plain => rfl
  | @excluding fields inner _ ih =>
    by_cases left : fields.contains binding.field
    · simp only [convert, enters, left, ↓reduceIte, Bool.not_true, Bool.false_and,
        Bool.false_eq_true]
    · simp only [convert, enters, left, ↓reduceIte, Bool.not_false, Bool.true_and,
        Bool.false_eq_true, ih]
  | @including fields inner _ ih =>
    by_cases admitted : admits fields binding.path binding.field
    · simp only [convert, enters, admitted, ↓reduceIte, Bool.true_and, ih]
    · simp only [convert, enters, admitted, ↓reduceIte, Bool.false_and, Bool.false_eq_true]

/-- Layers that leave fields out tell nothing of what they convert. -/
theorem notesOfConvert_eq (binding : Binding) : converter.notesOfConvert binding = [] := by
  induction filters with
  | plain => rfl
  | excluding _ ih => simp only [notesOfConvert, ih, ite_self]
  | including _ ih => simp only [notesOfConvert, ih, ite_self]

theorem notesOfEnters_eq (parent : Option (Entries Value)) (path field : String) :
    converter.notesOfEnters parent path field = [] := by
  induction filters with
  | plain => rfl
  | excluding _ ih => simp only [notesOfEnters, ih, ite_self]
  | including _ ih => simp only [notesOfEnters, ih, ite_self]

end Filters

end Converter

/-- What an entity has to show at a path, before anything is left out there. -/
def Entity.offers (converter : Converter) (path : String) (entity : Entity) : Entries Value :=
  let raw := entity.shape.fields.map fun field => (field, Conduct.stored entity.values field)
  raw ++ (entity.shape.nested.zip entity.slots).map fun (decl, slot) =>
    let key := Path.fieldKey path decl.field
    (decl.field, (Exporting.exportSlot .record converter slot key raw).1)

namespace Exporting

variable {converter : Converter} (filters : converter.Filters)

include filters

/-- The fields that an export shows are those that the layers enter. -/
theorem exportFields_filters (values : Entries Value) (path : String)
    (parent : Option (Entries Value)) (fields shown : List String)
    (known : ∀ field ∈ shown, field ∈ fields) :
    (exportFields converter
        ⟨fields.map fun field => (field, Conduct.stored values field), path, parent⟩
        shown).members =
      (shown.map fun field => (field, Conduct.stored values field)).filter
        fun entry => converter.enters path entry.1 := by
  induction shown with
  | nil => rfl
  | cons first rest ih =>
    have here := Entries.get?_map (Conduct.stored values) (known first List.mem_cons_self)
    have later := ih fun field member => known field (List.mem_cons_of_mem _ member)
    rw [exportFields, List.map_cons]
    cases enters : converter.enters path first with
    | false => simp [enters, later]
    | true => simp [enters, later, here, filters.convert_eq]

omit filters in
/-- What is nested is exported where the layers enter it. -/
theorem exportSlots_filters (nested : List (Nested Shape)) (slots : List (Slot Entity))
    (level : Level) : (exportSlots .record converter nested slots level).members =
      ((nested.zip slots).map fun (decl, slot) => (decl.field, (exportSlot .record converter slot
        (Path.fieldKey level.path decl.field) level.source).1)).filter
        fun entry => converter.enters level.path entry.1 := by
  induction nested generalizing slots with
  | nil => rw [exportSlots] <;> simp
  | cons decl others ih =>
    cases slots with
    | nil => rw [exportSlots] <;> simp
    | cons slot slots =>
      obtain ⟨field, nesting, shape⟩ := decl
      cases enters : converter.enters level.path field with
      | false => simp [exportSlots, enters, ih]
      | true => simp [exportSlots, enters, ih]

/-- An object has of what an entity offers what the converter enters. -/
theorem exportAt_filters (entity : Entity) (path : String) (parent : Option (Entries Value)) :
    (exportAt .record converter entity path parent).members =
      (entity.offers converter path).filter fun entry => converter.enters path entry.1 := by
  obtain ⟨shape, values, slots⟩ := entity
  have scalars := exportFields_filters filters values path parent shape.fields shape.fields
    fun _ member => member
  rw [Entity.offers, List.filter_append, ← scalars]
  exact congrArg (_ ++ ·) (exportSlots_filters _ _ _)

end Exporting

namespace Entity

variable {shape : Shape} {slots : List (Slot Entity)} (converter : Converter) (path : String)
  (values : Entries Value)

/-- What an entity offers stands under its declared fields, in order. -/
theorem keys_offers (length : slots.length = shape.nested.length) :
    (offers converter path ⟨shape, values, slots⟩).keys =
      shape.fields ++ shape.nested.map Nested.field := by
  have named : (shape.nested.zip slots).map (fun pair => pair.1.field) =
      shape.nested.map Nested.field := by
    have firsts := congrArg (List.map Nested.field)
      (List.map_fst_zip (Nat.le_of_eq length.symm))
    rwa [List.map_map] at firsts
  simp only [offers, Entries.keys, List.map_append, List.map_map, Function.comp_def, List.map_id',
    named]

/-- What an entity offers is found under its name. -/
theorem get?_of_mem_offers (built : shape.Built) (length : slots.length = shape.nested.length)
    {entry : String × Value} (listed : entry ∈ offers converter path ⟨shape, values, slots⟩) :
    (offers converter path ⟨shape, values, slots⟩).get? entry.1 = some entry.2 := by
  refine Entries.get?_of_mem ?_ listed
  rw [keys_offers converter path values length]
  exact built.nodup_names

/-- A field for values is offered with what it shows. -/
theorem field_mem_offers {field : String} (declared : field ∈ shape.fields) :
    (field, Conduct.stored values field) ∈ offers converter path ⟨shape, values, slots⟩ :=
  List.mem_append_left _ (List.mem_map.mpr ⟨field, declared, rfl⟩)

/-- A field for nested entities is offered with the export of its slot. -/
theorem nested_mem_offers {decl : Nested Shape} {slot : Slot Entity}
    (paired : (decl, slot) ∈ shape.nested.zip slots) :
    (decl.field, (Exporting.exportSlot .record converter slot (Path.fieldKey path decl.field)
      (shape.fields.map fun field => (field, Conduct.stored values field))).1) ∈
        offers converter path ⟨shape, values, slots⟩ :=
  List.mem_append_right _ (List.mem_map.mpr ⟨(decl, slot), paired, rfl⟩)

end Entity

/-- Two levels at one path whose sources are made of one entity, with a filter and as it is. -/
structure Level.Twins (converter : Converter) (narrow wide : Level) (entity : Entity) : Prop where
  path : narrow.path = wide.path
  narrow : ∃ parent, narrow.source =
    (Exporting.exportAt .record converter entity wide.path parent).members
  wide : ∃ parent, wide.source = (Exporting.exportAt .record .plain entity wide.path parent).members

/-- The two exports of an entity are twins. -/
theorem Level.Twins.of_exportAt (converter : Converter) (entity : Entity) (path : String)
    (parent first second : Option (Entries Value)) : Level.Twins converter
      ⟨(Exporting.exportAt .record converter entity path parent).members, path, first⟩
      ⟨(Exporting.exportAt .record .plain entity path parent).members, path, second⟩ entity :=
  ⟨rfl, ⟨parent, rfl⟩, ⟨parent, rfl⟩⟩

/-- What two such levels have under a field for nested entities, by what the field holds. -/
structure Level.Shows (converter : Converter) (narrow wide : Level) (raw : Entries Value)
    (decl : Nested Shape) (slot : Slot Entity) : Prop where
  narrow : narrow.source.get? decl.field =
    if converter.enters wide.path decl.field then some (Exporting.exportSlot .record converter slot
      (Path.fieldKey wide.path decl.field) raw).1
    else none
  wide : wide.source.get? decl.field = some (Exporting.exportSlot .record .plain slot
    (Path.fieldKey wide.path decl.field) raw).1

namespace Level.Twins

variable {converter : Converter} (filters : converter.Filters) {shape : Shape}
  {slots : List (Slot Entity)} {values : Entries Value} {narrow wide : Level}
  (twins : Level.Twins converter narrow wide ⟨shape, values, slots⟩) (built : shape.Built)
  (length : slots.length = shape.nested.length)

include filters twins built length

/-- The filtered export has what is offered where the layers enter. -/
theorem narrow_get? {entry : String × Value}
    (listed : entry ∈ Entity.offers converter wide.path ⟨shape, values, slots⟩) :
    narrow.source.get? entry.1 =
      if converter.enters wide.path entry.1 then some entry.2 else none := by
  obtain ⟨parent, made⟩ := twins.narrow
  rw [made, Exporting.exportAt_filters filters, Entries.get?_filter_eq,
    Entity.get?_of_mem_offers converter wide.path values built length listed]

omit filters in
theorem wide_get? {entry : String × Value}
    (listed : entry ∈ Entity.offers .plain wide.path ⟨shape, values, slots⟩) :
    wide.source.get? entry.1 = some entry.2 := by
  obtain ⟨parent, made⟩ := twins.wide
  rw [made, Exporting.exportAt_filters .plain, Entries.get?_filter_eq,
    Entity.get?_of_mem_offers .plain wide.path values built length listed]
  rfl

/-- A field for values stands in the filtered export as in the whole one, or not at all. -/
theorem fields (field : String) (declared : field ∈ shape.fields) : narrow.source.get? field =
    if converter.enters wide.path field then wide.source.get? field else none := by
  have here := twins.narrow_get? filters built length
    (Entity.field_mem_offers converter wide.path values declared)
  have there := twins.wide_get? built length
    (Entity.field_mem_offers .plain wide.path values declared)
  rw [here, there]

theorem nested : List.Forall₂ (Level.Shows converter narrow wide
    (shape.fields.map fun field => (field, Conduct.stored values field))) shape.nested slots :=
  List.forall₂_iff_zip.mpr ⟨length.symm, fun paired =>
    ⟨twins.narrow_get? filters built length
        (Entity.nested_mem_offers converter wide.path values paired),
      twins.wide_get? built length (Entity.nested_mem_offers .plain wide.path values paired)⟩⟩

end Level.Twins

namespace Copying

variable {converter : Converter}

/-- Fields take from a filtered source what they take from the whole one through the filter. -/
theorem fillFields_filters (filters : converter.Filters) {shape : Shape} {narrow wide : Level}
    {fields : List String}
    (same : ∀ field ∈ fields, narrow.source.get? field =
      if converter.enters wide.path field then wide.source.get? field else none)
    (values : Entries Value) :
    fillFields ⟨.record, .plain⟩ shape narrow fields values =
      fillFields ⟨.record, converter⟩ shape wide fields values := by
  induction fields generalizing values with
  | nil => rfl
  | cons first rest ih =>
    have later := ih fun field member => same field (List.mem_cons_of_mem _ member)
    have here := same first List.mem_cons_self
    have asked (previous : Value) :
        Converter.plain.convert (narrow.binding first previous) =
          converter.convert (wide.binding first previous) := by
      rw [filters.convert_eq, Converter.convert]
      simp only [Level.binding, here]
      by_cases enters : converter.enters wide.path first <;>
        simp only [enters, ↓reduceIte, Bool.false_eq_true, Option.getD_none]
    simp only [Level.binding] at asked
    simp only [fillFields, asked, later, Converter.notesOfConvert, filters.notesOfConvert_eq]

mutual

/-- An entity takes the same from what the filter lets through of another as it takes from the
whole of it through the filter. -/
theorem fill_twins (filters : converter.Filters) : ∀ {entity : Entity} {shape : Shape},
    Entity.Conforms shape entity → shape.Built → ∀ {narrow wide : Level},
    Level.Twins converter narrow wide entity →
    ∀ (values : Entries Value) (slots : List (Slot Entity)),
    fill ⟨.record, .plain⟩ shape values slots narrow =
      fill ⟨.record, converter⟩ shape values slots wide
  | ⟨shape, _, _⟩, _, .mk fits _, built, narrow, wide, twins, values, slots => by
    have length := fits.length_eq.symm
    have fields : fillFields _ shape _ shape.fields values = _ :=
      fillFields_filters filters (twins.fields filters built length) values
    have others := fillSlots_shows filters shape.name fits built.nested
      (twins.nested filters built length) twins.path slots
    obtain ⟨goes, _⟩ := fillFields_built converter wide built values
    rw [fill_eq converter goes, fill_eq .plain (fields ▸ goes), fields, others]

/-- Fields are filled alike from the two exports of slots. -/
theorem fillSlots_shows (filters : converter.Filters) (name : String) :
    ∀ {inner : List (Slot Entity)} {nested : List (Nested Shape)},
    List.Forall₂ (Slot.Fits Entity.Conforms) nested inner → (∀ decl ∈ nested, decl.shape.Built) →
    ∀ {raw : Entries Value} {narrow wide : Level},
    List.Forall₂ (Level.Shows converter narrow wide raw) nested inner → narrow.path = wide.path →
    ∀ slots : List (Slot Entity),
    fillSlots ⟨.record, .plain⟩ name (fun _ => true) nested slots narrow =
      fillSlots ⟨.record, converter⟩ name (fun _ => true) nested slots wide
  | [], [], _, _, _, _, _, _, _, _ => by simp [fillSlots]
  | _ :: _, _ :: _, _, _, _, _, _, _, _, [] => by simp [fillSlots]
  | _ :: _, decl :: _, fits, built, _, narrow, wide, shows, path, old :: rest => by
    obtain ⟨fit, others⟩ := List.forall₂_cons.mp fits
    obtain ⟨shown, further⟩ := List.forall₂_cons.mp shows
    have first := fillSlot_shows filters name fit (built decl List.mem_cons_self) shown path old
    have later := fillSlots_shows filters name others
      (fun other member => built other (List.mem_cons_of_mem _ member)) further path rest
    simp only [fillSlots, first, later]

/-- A field is filled alike from the two exports of a slot. -/
theorem fillSlot_shows (filters : converter.Filters) (name : String) :
    ∀ {inner : Slot Entity} {decl : Nested Shape}, Slot.Fits Entity.Conforms decl inner →
    decl.shape.Built → ∀ {raw : Entries Value} {narrow wide : Level},
    Level.Shows converter narrow wide raw decl inner → narrow.path = wide.path →
    ∀ slot : Slot Entity,
    fillSlot ⟨.record, .plain⟩ name (fun _ => true) decl slot narrow =
      fillSlot ⟨.record, converter⟩ name (fun _ => true) decl slot wide
  | _, ⟨field, _, shape⟩, fit, built, raw, narrow, wide, ⟨shown, whole⟩, path, slot => by
    have quiet := filters.notesOfEnters_eq wide.parent wide.path field
    cases enters : converter.enters wide.path field with
    | false =>
      simp only [enters, Bool.false_eq_true, ↓reduceIte] at shown
      simp only [fillSlot, Converter.enters, Converter.notesOfEnters, quiet, enters, shown]
      rfl
    | true =>
      simp only [enters, ↓reduceIte] at shown
      simp only [fillSlot, Converter.enters, Converter.notesOfEnters, quiet, enters, shown, whole,
        path]
      cases fit with
      | vacant => rfl
      | @one _ _ child conforms =>
        have twins := Level.Twins.of_exportAt converter child (Path.fieldKey wide.path field)
          (some raw) (some narrow.source) (some wide.source)
        exact congrArg (Copied.map Slot.one) (fill_twins filters conforms built twins [] _)
      | many all =>
        exact congrArg (Copied.map Slot.many)
          (fillElements_exportElements filters all built _ 0 raw narrow.source wide.source)

/-- A list is filled alike from the two exports of its elements. -/
theorem fillElements_exportElements (filters : converter.Filters) : ∀ {children : List Entity}
    {shape : Shape}, (∀ child ∈ children, Entity.Conforms shape child) → shape.Built →
    ∀ (key : String) (index : Nat) (raw first second : Entries Value),
    fillElements (fill ⟨.record, .plain⟩ shape [] (Entity.fresh shape).slots) none first key index
        (Exporting.exportElements .record converter children key index raw).1 =
      fillElements (fill ⟨.record, converter⟩ shape [] (Entity.fresh shape).slots) none second key
        index (Exporting.exportElements .record .plain children key index raw).1
  | [], _, _, _, _, _, _, _, _ => by simp [Exporting.exportElements, fillElements]
  | child :: _, shape, all, built, key, index, raw, first, second => by
    have twins := Level.Twins.of_exportAt converter child (Path.elementKey key index) (some raw)
      (some first) (some second)
    have own := fill_twins filters (all child List.mem_cons_self) built twins []
      (Entity.fresh shape).slots
    have later := fillElements_exportElements filters
      (fun other member => all other (List.mem_cons_of_mem _ member)) built key (index + 1) raw
      first second
    simp only [Exporting.exportElements, fillElements, own, later]

end

end Copying

/-- **Filtering on the way out and on the way in.** A record of a built shape, whatever changes have
led to it, is exported with layers that leave fields out, and the object is copied as it is into a
fresh record of the shape. This goes through, and it leaves the same record, by the same writes, as
copying the record into a fresh one with these layers. -/
theorem inject_filters {shape : Shape} {record : Entity} (built : shape.Built)
    (reachable : Entity.Reachable shape record) {converter : Converter}
    (filters : converter.Filters) :
    let exported := exportEntity .record converter record
    let copied := populate .record .plain (Entity.fresh shape) (.object exported.members)
    copied.failure = none ∧
      inject .record converter record (Entity.fresh shape) = copied := by
  intro exported copied
  have conforms := reachable.conforms
  have twins := Level.Twins.of_exportAt converter record "" none none none
  have same : inject .record converter record (Entity.fresh shape) = copied :=
    (Copying.fill_twins filters conforms built twins [] _).symm
  have mirrors := Exporting.mirrors_exportAt conforms built "" none
  have goes := (populate_object_iff built .fresh).mpr (conforms.accepts converter mirrors "")
  exact ⟨same ▸ goes, same⟩

/-- The lines of the order are copied without their quantities, and its number is left out. -/
theorem inject_filters_filledOrder :
    let converter : Converter := .excluding ["qty"] (.including ["lines"] .plain)
    let record := Entity.filledOrder
    let exported := exportEntity .record converter record
    let copied := populate .record .plain (Entity.fresh Entity.orderShape)
      (.object exported.members)
    Entity.orderShape.Built ∧ Entity.Reachable Entity.orderShape record ∧ converter.Filters ∧
      exported.members = [("lines", .list [.object [], .object []])] ∧
      copied.failure = none ∧
      (inject .record converter record (Entity.fresh Entity.orderShape)).result =
        ⟨Entity.orderShape, [], [.vacant, .many
          [Entity.fresh Entity.lineShape, Entity.fresh Entity.lineShape]]⟩ := by
  intro converter record exported copied
  have built := Entity.orderShape_built
  have reachable := Entity.filledOrder_reachable
  have filters : converter.Filters := .excluding (.including .plain)
  obtain ⟨done, same⟩ := inject_filters built reachable filters
  refine ⟨built, reachable, filters, rfl, done, ?_⟩
  rw [same]
  rfl

end Scrutiny
