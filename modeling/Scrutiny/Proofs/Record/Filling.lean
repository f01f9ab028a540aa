import Scrutiny.Proofs.Record.RoundTrip

/-! # What copying makes of a record

The fields of a record take what the converter gives for them. Then its fields for nested entities
are gone through in order, and the objects and lists that the source has there are copied into fresh
entities. So a copy either goes through everything (`Entity.Filled`) or stops at one place with a
failure (`Entity.Stopped`): what comes before that place has been copied, what comes after it is as
it was, and the fresh entities around it are left half-made. Nothing is taken back
(`populate_filled`, `populate_stopped`).
-/

namespace Scrutiny

/-- What a field has once a value is written into it. A value that is the same as the one before is
not written. -/
def Value.writtenOver (value previous : Value) : Value :=
  if value.same previous then previous else value

theorem Value.writtenOver_self (value : Value) : value.writtenOver value = value :=
  ite_self value

/-- A field that is written shows the value, unless it had the same one. -/
theorem Conduct.stored_write_self (values : Entries Value) (field : String) (value : Value) :
    stored (write values field value) field = value.writtenOver (stored values field) := by
  unfold write Value.writtenOver
  split
  · rfl
  · exact stored_put_self values field value

namespace Copying

variable {shape : Shape}

/-- The fields of a record take what the converter gives, and nothing else changes. -/
structure Takes (converter : Converter) (level : Level) (fields : List String)
    (before after : Entries Value) : Prop where
  field : ∀ field ∈ fields, Conduct.stored after field =
    (converter.convert (level.binding field (Conduct.stored before field))).writtenOver
      (Conduct.stored before field)
  other : ∀ name, name ∉ fields → after.get? name = before.get? name

/-- The fields of a record take what the converter gives for them. -/
theorem fillFields_takes (converter : Converter) (level : Level) {fields : List String}
    (known : ∀ field ∈ fields, shape.hasField field) (distinct : fields.Nodup)
    (values : Entries Value) :
    let copied := fillFields ⟨.record, converter⟩ shape level fields values
    copied.failure = none ∧ Takes converter level fields values copied.result := by
  induction fields generalizing values with
  | nil => exact ⟨rfl, ⟨fun _ member => absurd member List.not_mem_nil, fun _ _ => rfl⟩⟩
  | cons first rest ih =>
    obtain ⟨apart, distinct⟩ := List.nodup_cons.mp distinct
    obtain ⟨events, step⟩ := fillFields_cons converter level
      (known first List.mem_cons_self) rest values
    obtain ⟨done, taken, others⟩ := ih
      (fun field member => known field (List.mem_cons_of_mem _ member)) distinct
      (Conduct.write values first _)
    rw [step]
    refine ⟨done, ⟨fun field member => ?_, fun name absent => ?_⟩⟩
    · rcases List.mem_cons.mp member with rfl | later
      · exact (Conduct.stored_congr (others field apart)).trans
          (Conduct.stored_write_self values field _)
      · have different : field ≠ first := fun same => apart (same ▸ later)
        have before := taken field later
        rwa [Conduct.stored_congr (Conduct.get?_write_of_ne values _ different)] at before
    · obtain ⟨different, further⟩ := not_or.mp (mt List.mem_cons.mpr absent)
      exact (others name further).trans (Conduct.get?_write_of_ne values _ different)

/-- The fields of a shape that is built take what the converter gives for them. -/
theorem fillFields_built (converter : Converter) (level : Level) (built : shape.Built)
    (values : Entries Value) :
    let copied := fillFields ⟨.record, converter⟩ shape level shape.fields values
    copied.failure = none ∧ Takes converter level shape.fields values copied.result := by
  have known (field : String) (member : field ∈ shape.fields) : shape.hasField field := by
    simp [Shape.hasField, member]
  exact fillFields_takes converter level known built.nodup_fields values

/-- Once its fields have been filled, a record goes on with its fields for nested entities. -/
theorem fill_eq (converter : Converter) {shape : Shape} {values : Entries Value} {level : Level}
    (goes : (fillFields ⟨.record, converter⟩ shape level shape.fields values).failure = none)
    (slots : List (Slot Entity)) :
    let scalars := fillFields ⟨.record, converter⟩ shape level shape.fields values
    fill ⟨.record, converter⟩ shape values slots level =
      ((fillSlots ⟨.record, converter⟩ shape.name (fun _ => true) shape.nested slots level).map
        fun slots => ⟨shape, scalars.result, slots⟩).after scalars.events := by
  cases shape
  simp only [fill, goes]
  rfl

end Copying

mutual

/-- Copying a level of a source into a record makes another record of it. Its fields take what the
converter gives, and then its fields for nested entities are filled in order. -/
inductive Entity.Filled (converter : Converter) : Level → Entity → Entity → Prop
  | mk {level : Level} {shape : Shape} {values written : Entries Value}
      {slots filled : List (Slot Entity)} :
      Copying.Takes converter level shape.fields values written →
      SlotsFilled converter level shape.nested slots filled →
      Entity.Filled converter level ⟨shape, values, slots⟩ ⟨shape, written, filled⟩

inductive SlotsFilled (converter : Converter) :
    Level → List (Nested Shape) → List (Slot Entity) → List (Slot Entity) → Prop
  | nil {level : Level} : SlotsFilled converter level [] [] []
  | cons {level : Level} {nested : Nested Shape} {others : List (Nested Shape)}
      {slot filled : Slot Entity} {slots rest : List (Slot Entity)} :
      SlotFilled converter level nested slot filled →
      SlotsFilled converter level others slots rest →
      SlotsFilled converter level (nested :: others) (slot :: slots) (filled :: rest)

/-- A field for nested entities stays as it is if the converter does not enter it and if the source
has nothing or null there. Otherwise fresh entities are made for the objects of the source. -/
inductive SlotFilled (converter : Converter) :
    Level → Nested Shape → Slot Entity → Slot Entity → Prop
  | passed {level : Level} {nested : Nested Shape} {slot : Slot Entity} :
      converter.enters level.path nested.field = false →
      SlotFilled converter level nested slot slot
  | absent {level : Level} {nested : Nested Shape} {slot : Slot Entity} :
      Conduct.stored level.source nested.field = .null → SlotFilled converter level nested slot slot
  | one {level : Level} {field : String} {shape : Shape} {slot : Slot Entity}
      {members : Entries Value} {child : Entity} :
      converter.enters level.path field → level.source.get? field = some (.object members) →
      Entity.Filled converter ⟨members, Path.fieldKey level.path field, some level.source⟩
        (Entity.fresh shape) child →
      SlotFilled converter level ⟨field, .one, shape⟩ slot (.one child)
  | many {level : Level} {field : String} {shape : Shape} {slot : Slot Entity}
      {items : List Value} {children : List Entity} :
      converter.enters level.path field → level.source.get? field = some (.list items) →
      ElementsFilled converter level.source (Path.fieldKey level.path field) shape 0 items
        children →
      SlotFilled converter level ⟨field, .many, shape⟩ slot (.many children)

/-- The items of a list from a position on are objects, and a fresh entity is made for each. -/
inductive ElementsFilled (converter : Converter) :
    Entries Value → String → Shape → Nat → List Value → List Entity → Prop
  | nil {source : Entries Value} {key : String} {shape : Shape} {index : Nat} :
      ElementsFilled converter source key shape index [] []
  | cons {source : Entries Value} {key : String} {shape : Shape} {index : Nat}
      {members : Entries Value} {items : List Value} {child : Entity} {children : List Entity} :
      Entity.Filled converter ⟨members, Path.elementKey key index, some source⟩
        (Entity.fresh shape) child →
      ElementsFilled converter source key shape (index + 1) items children →
      ElementsFilled converter source key shape index (.object members :: items) (child :: children)

end

mutual

/-- Copying a level of a source into a record fails and leaves another record. Its fields have taken
what the converter gives. -/
inductive Entity.Stopped (converter : Converter) : Level → Entity → BindError → Entity → Prop
  | mk {level : Level} {shape : Shape} {values written : Entries Value}
      {slots left : List (Slot Entity)} {error : BindError} :
      Copying.Takes converter level shape.fields values written →
      SlotsStopped converter level shape.nested slots error left →
      Entity.Stopped converter level ⟨shape, values, slots⟩ error ⟨shape, written, left⟩

/-- The fields for nested entities are filled up to the one at fault, and stay as they are after
it. -/
inductive SlotsStopped (converter : Converter) :
    Level → List (Nested Shape) → List (Slot Entity) → BindError → List (Slot Entity) → Prop
  | here {level : Level} {nested : Nested Shape} {others : List (Nested Shape)}
      {slot left : Slot Entity} {slots : List (Slot Entity)} {error : BindError} :
      SlotStopped converter level nested slot error left →
      SlotsStopped converter level (nested :: others) (slot :: slots) error (left :: slots)
  | later {level : Level} {nested : Nested Shape} {others : List (Nested Shape)}
      {slot filled : Slot Entity} {slots left : List (Slot Entity)} {error : BindError} :
      SlotFilled converter level nested slot filled →
      SlotsStopped converter level others slots error left →
      SlotsStopped converter level (nested :: others) (slot :: slots) error (filled :: left)

/-- The field at fault stays as it is if the source has something of the wrong kind there. Otherwise
it holds what has been made of the object or of the list. -/
inductive SlotStopped (converter : Converter) :
    Level → Nested Shape → Slot Entity → BindError → Slot Entity → Prop
  | object {level : Level} {field : String} {shape : Shape} {slot : Slot Entity} {value : Value} :
      converter.enters level.path field → level.source.get? field = some value → value ≠ .null →
      (∀ members, value ≠ .object members) →
      SlotStopped converter level ⟨field, .one, shape⟩ slot
        (.expectedObject (Path.fieldKey level.path field) value.kind) slot
  | list {level : Level} {field : String} {shape : Shape} {slot : Slot Entity} {value : Value} :
      converter.enters level.path field → level.source.get? field = some value → value ≠ .null →
      (∀ items, value ≠ .list items) →
      SlotStopped converter level ⟨field, .many, shape⟩ slot
        (.expectedList (Path.fieldKey level.path field) value.kind) slot
  | one {level : Level} {field : String} {shape : Shape} {slot : Slot Entity}
      {members : Entries Value} {child : Entity} {error : BindError} :
      converter.enters level.path field → level.source.get? field = some (.object members) →
      Entity.Stopped converter ⟨members, Path.fieldKey level.path field, some level.source⟩
        (Entity.fresh shape) error child →
      SlotStopped converter level ⟨field, .one, shape⟩ slot error (.one child)
  | many {level : Level} {field : String} {shape : Shape} {slot : Slot Entity}
      {items : List Value} {children : List Entity} {error : BindError} :
      converter.enters level.path field → level.source.get? field = some (.list items) →
      ElementsStopped converter level.source (Path.fieldKey level.path field) shape 0 items error
        children →
      SlotStopped converter level ⟨field, .many, shape⟩ slot error (.many children)

/-- The list ends with the item at fault. There is an element for it only if it is an object. -/
inductive ElementsStopped (converter : Converter) :
    Entries Value → String → Shape → Nat → List Value → BindError → List Entity → Prop
  | kind {source : Entries Value} {key : String} {shape : Shape} {index : Nat} {item : Value}
      {items : List Value} :
      (∀ members, item ≠ .object members) →
      ElementsStopped converter source key shape index (item :: items)
        (.expectedElement key index item.kind) []
  | inside {source : Entries Value} {key : String} {shape : Shape} {index : Nat}
      {members : Entries Value} {items : List Value} {child : Entity} {error : BindError} :
      Entity.Stopped converter ⟨members, Path.elementKey key index, some source⟩
        (Entity.fresh shape) error child →
      ElementsStopped converter source key shape index (.object members :: items) error [child]
  | later {source : Entries Value} {key : String} {shape : Shape} {index : Nat}
      {members : Entries Value} {items : List Value} {child : Entity} {children : List Entity}
      {error : BindError} :
      Entity.Filled converter ⟨members, Path.elementKey key index, some source⟩
        (Entity.fresh shape) child →
      ElementsStopped converter source key shape (index + 1) items error children →
      ElementsStopped converter source key shape index (.object members :: items) error
        (child :: children)

end

namespace Copying

variable (converter : Converter)

/-- How a copy ends: it goes through, or it stops with a failure. -/
inductive Ends {α : Type} (filled : α → Prop) (stopped : BindError → α → Prop) : Copied α → Prop
  | filled {result : α} {events : List CopyEvent} :
      filled result → Ends filled stopped ⟨result, events, none⟩
  | stopped {result : α} {events : List CopyEvent} {error : BindError} :
      stopped error result → Ends filled stopped ⟨result, events, some error⟩

namespace Ends

variable {α β : Type} {filled : α → Prop} {stopped : BindError → α → Prop}

theorem done {copied : Copied α} (ends : Ends filled stopped copied)
    (goes : copied.failure = none) : filled copied.result := by
  cases ends with
  | filled done => exact done
  | stopped => exact absurd goes (by simp)

theorem left {copied : Copied α} (ends : Ends filled stopped copied) {error : BindError}
    (fails : copied.failure = some error) : stopped error copied.result := by
  cases ends with
  | filled => exact absurd fails (by simp)
  | stopped left => exact Option.some.inj fails ▸ left

/-- An end is one still when the result is changed and events are added. -/
theorem map_after {finished : β → Prop} {broken : BindError → β → Prop} {copied : Copied α}
    (ends : Ends filled stopped copied) (f : α → β) (events : List CopyEvent)
    (fine : ∀ {result}, filled result → finished (f result))
    (fault : ∀ {error result}, stopped error result → broken error (f result)) :
    Ends finished broken ((copied.map f).after events) := by
  cases ends with
  | filled done => exact .filled (fine done)
  | stopped left => exact .stopped (fault left)

end Ends

/-- A list of elements is filled or stops at one of them. -/
theorem fillElements_ends {shape : Shape} {fill : Level → Copied Entity}
    (each : ∀ level, Ends (Entity.Filled converter level (Entity.fresh shape))
      (Entity.Stopped converter level (Entity.fresh shape)) (fill level))
    (source : Entries Value) (key : String) (index : Nat) (items : List Value) :
    Ends (ElementsFilled converter source key shape index items)
      (ElementsStopped converter source key shape index items)
      (fillElements fill none source key index items) := by
  induction items generalizing index with
  | nil => exact .filled .nil
  | cons item rest ih =>
    by_cases object : ∃ members, item = .object members
    · obtain ⟨members, rfl⟩ := object
      have own := each ⟨members, Path.elementKey key index, some source⟩
      simp only [fillElements]
      split
      · next failure fails => exact .stopped (.inside (own.left fails))
      · next goes =>
        have first := own.done goes
        exact (ih (index + 1)).map_after _ _ (.cons first) (.later first)
    · have different (members : Entries Value) : item ≠ .object members :=
        fun same => object ⟨members, same⟩
      rw [fillElements]
      · exact .stopped (.kind different)
      · exact different

mutual

/-- A copy goes through or stops at one place. -/
theorem fill_ends : ∀ (shape : Shape) (values : Entries Value) (slots : List (Slot Entity))
    (level : Level), shape.Built → slots.length = shape.nested.length →
    Ends (Entity.Filled converter level ⟨shape, values, slots⟩)
      (Entity.Stopped converter level ⟨shape, values, slots⟩)
      (fill ⟨.record, converter⟩ shape values slots level)
  | ⟨name, fields, labels, rules, nested⟩, values, slots, level, built, length => by
    obtain ⟨done, takes⟩ := fillFields_built converter level built values
    have own := fillSlots_ends name nested slots level built.nested length
    simp only [fill, done]
    exact own.map_after _ _ (fun filled => .mk takes filled) (fun left => .mk takes left)

/-- A copy into fields goes through or stops in one of them. -/
theorem fillSlots_ends (name : String) : ∀ (nested : List (Nested Shape))
    (slots : List (Slot Entity)) (level : Level), (∀ decl ∈ nested, decl.shape.Built) →
    slots.length = nested.length →
    Ends (SlotsFilled converter level nested slots) (SlotsStopped converter level nested slots)
      (fillSlots ⟨.record, converter⟩ name (fun _ => true) nested slots level)
  | [], [], level, _, _ => by
    rw [fillSlots]
    · exact .filled .nil
    · simp
  | nested :: others, slot :: slots, level, built, length => by
    have own := fillSlot_ends name nested slot level (built nested List.mem_cons_self)
    have rest := fillSlots_ends name others slots level
      (fun decl member => built decl (List.mem_cons_of_mem _ member)) (Nat.succ.inj length)
    rw [fillSlots]
    split
    · next failure goes => exact .stopped (.here (own.left goes))
    · next goes => exact rest.map_after _ _ (.cons (own.done goes)) (.later (own.done goes))

/-- A copy into a field goes through or stops in it. -/
theorem fillSlot_ends (name : String) : ∀ (nested : Nested Shape) (slot : Slot Entity)
    (level : Level), nested.shape.Built →
    Ends (SlotFilled converter level nested slot) (SlotStopped converter level nested slot)
      (fillSlot ⟨.record, converter⟩ name (fun _ => true) nested slot level)
  | ⟨field, nesting, shape⟩, slot, level, built => by
    have made (level : Level) : Ends (Entity.Filled converter level (Entity.fresh shape))
        (Entity.Stopped converter level (Entity.fresh shape))
        (fill ⟨.record, converter⟩ shape [] (Entity.fresh shape).slots level) :=
      fill_ends shape [] _ level built (by simp)
    cases enters : converter.enters level.path field with
    | false =>
      simp only [fillSlot, enters]
      exact .filled (.passed enters)
    | true =>
      simp only [fillSlot, enters, Bool.not_true, Bool.false_eq_true, ↓reduceIte]
      split
      · next absent => exact .filled (.absent (by simp [Conduct.stored, absent]))
      · next null => exact .filled (.absent (by simp [Conduct.stored, null]))
      · next members held => exact (made _).map_after _ _ (.one enters held) (.one enters held)
      · next other null object held =>
        exact .stopped (.object enters held (by simpa using null) (by simpa using object))
      · next items held =>
        exact (fillElements_ends converter made _ _ _ _).map_after _ _ (.many enters held)
          (.many enters held)
      · next other null object held =>
        exact .stopped (.list enters held (by simpa using null) (by simpa using object))

end

variable (name : String) (level : Level)

/-- Whether a copy into a field fails does not depend on what was there. -/
theorem failure_fillSlot (nested : Nested Shape) (slot other : Slot Entity) :
    (fillSlot ⟨.record, converter⟩ name (fun _ => true) nested slot level).failure =
      (fillSlot ⟨.record, converter⟩ name (fun _ => true) nested other level).failure := by
  obtain ⟨field, nesting, shape⟩ := nested
  simp only [fillSlot]
  split
  · rfl
  · split <;> rfl

/-- Whether a copy into fields fails does not depend on what was there. -/
theorem failure_fillSlots {nested : List (Nested Shape)} {slots others : List (Slot Entity)}
    (length : slots.length = nested.length) (further : others.length = nested.length) :
    (fillSlots ⟨.record, converter⟩ name (fun _ => true) nested slots level).failure =
      (fillSlots ⟨.record, converter⟩ name (fun _ => true) nested others level).failure := by
  induction nested generalizing slots others with
  | nil => rw [List.eq_nil_of_length_eq_zero length, List.eq_nil_of_length_eq_zero further]
  | cons decl rest ih =>
    obtain ⟨slot, slots, rfl⟩ := List.exists_cons_of_length_eq_add_one length
    obtain ⟨other, others, rfl⟩ := List.exists_cons_of_length_eq_add_one further
    have later := ih (Nat.succ.inj length) (Nat.succ.inj further)
    have first := failure_fillSlot converter name level decl slot other
    cases goes : (fillSlot ⟨.record, converter⟩ name (fun _ => true) decl other level).failure with
    | none =>
      simp only [fillSlots, first, goes]
      exact later
    | some failure => simp only [fillSlots, first, goes]

/-- Whether a copy fails does not depend on the record. -/
theorem failure_fill {shape : Shape} (built : shape.Built) (values others : Entries Value)
    {slots further : List (Slot Entity)} (length : slots.length = shape.nested.length)
    (fits : further.length = shape.nested.length) :
    (fill ⟨.record, converter⟩ shape values slots level).failure =
      (fill ⟨.record, converter⟩ shape others further level).failure := by
  obtain ⟨goes, _⟩ := fillFields_built converter level built values
  obtain ⟨also, _⟩ := fillFields_built converter level built others
  cases shape
  simp only [fill, goes, also]
  exact failure_fillSlots converter _ level length fits

end Copying

/-- Whether copying into a record of a built shape fails, and how, depends on the source only, not
on what the record has. -/
theorem Entity.Conforms.failure_populate {shape : Shape} {record other : Entity}
    (conforms : Entity.Conforms shape record) (further : Entity.Conforms shape other)
    (built : shape.Built) (converter : Converter) (source : Value) :
    (Scrutiny.populate .record converter record source).failure =
      (Scrutiny.populate .record converter other source).failure := by
  cases conforms with
  | @mk _ values slots fits =>
    cases further with
    | @mk _ others further also =>
      cases source with
      | object members =>
        exact Copying.failure_fill converter _ built values others fits.length_eq.symm
          also.length_eq.symm
      | _ => rfl

/-- Copying an object into a record goes through, or it stops at one place. -/
theorem Entity.Conforms.populate_ends {shape : Shape} {record : Entity}
    (conforms : Entity.Conforms shape record) (built : shape.Built) (converter : Converter)
    (members : Entries Value) :
    Copying.Ends (Entity.Filled converter ⟨members, "", none⟩ record)
      (Entity.Stopped converter ⟨members, "", none⟩ record)
      (Scrutiny.populate .record converter record (.object members)) := by
  cases conforms with
  | @mk _ values slots fits =>
    exact Copying.fill_ends converter shape values slots ⟨members, "", none⟩ built
      fits.length_eq.symm

section Populating

variable {shape : Shape} {record : Entity} (built : shape.Built)
  (reachable : Entity.Reachable shape record) {converter : Converter}

include built reachable

/-- A copy of an object into a record goes through or stops at one place. -/
theorem populate_ends (members : Entries Value) :
    Copying.Ends (Entity.Filled converter ⟨members, "", none⟩ record)
      (Entity.Stopped converter ⟨members, "", none⟩ record)
      (populate .record converter record (.object members)) :=
  reachable.conforms.populate_ends built converter members

/-- What a copy that goes through leaves. -/
theorem populate_filled {members : Entries Value}
    (done : (populate .record converter record (.object members)).failure = none) :
    Entity.Filled converter ⟨members, "", none⟩ record
      (populate .record converter record (.object members)).result :=
  (populate_ends built reachable members).done done

end Populating

/-- **What a failing copy leaves.** A record of a built shape, whatever changes have led to it,
stays as it is if what is copied into it is no object. If the copying of an object fails, the
declared fields have taken what the converter gives, the fields for nested entities are filled up to
the one at fault, and those after it and all other values are as before. The field at fault holds
what it held if the source has something of the wrong kind there, and otherwise the fresh entities
made so far, the last of which is left in the same way. -/
theorem populate_stopped {shape : Shape} {record : Entity} (built : shape.Built)
    (reachable : Entity.Reachable shape record) {converter : Converter} {source : Value}
    {error : BindError} (failed : (populate .record converter record source).failure = some error) :
    let left := (populate .record converter record source).result
    (∃ members, source = .object members ∧
        Entity.Stopped converter ⟨members, "", none⟩ record error left) ∨
      (∀ members, source ≠ .object members) ∧
        error = .sourceKind shape.name source.kind ∧ left = record := by
  intro left
  cases source with
  | object members =>
    exact .inl ⟨members, rfl, (populate_ends built reachable members).left failed⟩
  | _ =>
    refine .inr ⟨fun _ => by simp, ?_, rfl⟩
    rw [← reachable.conforms.shape_eq]
    exact (Option.some.inj failed).symm

/-- The lines of the filled order are made anew up to the one that is no object. -/
theorem populate_stopped_filledOrder :
    let record := Entity.filledOrder
    let document := [("lines", Value.list [.object [("qty", .string "3")], .null])]
    let copied := populate .record .plain record (.object document)
    Entity.orderShape.Built ∧ Entity.Reachable Entity.orderShape record ∧
      copied.failure = some (.expectedElement "lines" 1 "null") ∧
      Entity.Stopped .plain ⟨document, "", none⟩ record (.expectedElement "lines" 1 "null")
        copied.result ∧
      copied.result = ⟨Entity.orderShape, [("id", .string "7")],
        [.vacant, .many [⟨Entity.lineShape, [("qty", .string "3")], []⟩]]⟩ := by
  intro record document copied
  have built := Entity.orderShape_built
  have reachable := Entity.filledOrder_reachable
  have failed : copied.failure = some (.expectedElement "lines" 1 "null") := rfl
  refine ⟨built, reachable, failed, ?_, rfl⟩
  rcases populate_stopped built reachable failed with ⟨members, same, stopped⟩ | ⟨other, _⟩
  · obtain rfl := Value.object.inj same
    exact stopped
  · exact absurd rfl (other document)

/-- An order whose gift is no object is refused after its number has been written. -/
theorem populate_stopped_changes :
    let order := Entity.fresh Entity.orderShape
    let source := Value.object [("id", .string "7"), ("gift", .bool true)]
    let copied := populate .record .plain order source
    Entity.orderShape.Built ∧ Entity.Reachable Entity.orderShape order ∧
      copied.failure = some (.expectedObject "gift" "a boolean") ∧
      Conduct.stored order.values "id" = .null ∧
      Conduct.stored copied.result.values "id" = .string "7" ∧ ¬ copied.result.Agrees order := by
  intro order source copied
  have before : Conduct.stored order.values "id" = .null := rfl
  have after : Conduct.stored copied.result.values "id" = .string "7" := rfl
  refine ⟨Entity.orderShape_built, .fresh, rfl, before, after, fun agrees => ?_⟩
  have same := agrees.values "id" List.mem_cons_self
  rw [after, before] at same
  exact absurd same (by simp)

end Scrutiny
