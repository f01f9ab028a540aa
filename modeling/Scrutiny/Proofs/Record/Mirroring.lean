import Scrutiny.Proofs.Record.Conforming

/-! # Records that mirror documents

A record mirrors an object if every field of its shape has the value of the member of its name, and
every field for nested entities holds records that mirror what stands there. A member that is
missing counts as null, and null stands for no record or for no elements. Copying a document into a
fresh record, if nothing keeps it from ending, leaves a record that mirrors the document
(`populate_mirrors`).
-/

namespace Scrutiny

/-- A field for nested entities holds what a document has in its place. -/
inductive Slot.Mirrors (mirrors : Entity → Entries Value → Prop) : Slot Entity → Value → Prop
  | vacant : Mirrors mirrors .vacant .null
  | empty : Mirrors mirrors (.many []) .null
  | one {child : Entity} {members : Entries Value} :
      mirrors child members → Mirrors mirrors (.one child) (.object members)
  | many {children : List Entity} {items : List (Entries Value)} :
      List.Forall₂ mirrors children items →
        Mirrors mirrors (.many children) (.list (items.map Value.object))

/-- An entity has the values and the nested entities that an object has. -/
inductive Entity.Mirrors : Entity → Entries Value → Prop
  | mk {shape : Shape} {values members : Entries Value} {slots : List (Slot Entity)} :
      (∀ field ∈ shape.fields, Conduct.stored values field = Conduct.stored members field) →
      List.Forall₂ (Slot.Mirrors Mirrors) slots
        (shape.nested.map fun nested => Conduct.stored members nested.field) →
      Mirrors ⟨shape, values, slots⟩ members

namespace Conduct

theorem stored_put_self (values : Entries Value) (field : String) (value : Value) :
    stored (values.put field value) field = value := by
  rw [stored, Entries.get?_put_self, Option.getD_some]

/-- What is shown under a field depends on what is found there. -/
theorem stored_congr {values others : Entries Value} {field : String}
    (same : values.get? field = others.get? field) : stored values field = stored others field := by
  rw [stored, same, stored]

/-- A member that is not null is there. -/
theorem get?_of_stored {values : Entries Value} {field : String} {value : Value}
    (held : stored values field = value) (present : value ≠ .null) :
    values.get? field = some value := by
  cases found : values.get? field with
  | none =>
    rw [stored, found] at held
    exact absurd held.symm present
  | some other =>
    rw [stored, found] at held
    exact congrArg some held

/-- Write a value into a field, unless it is the same as the one that is there. -/
def write (values : Entries Value) (field : String) (value : Value) : Entries Value :=
  if value.same (stored values field) then values else values.put field value

theorem get?_write_of_ne (values : Entries Value) {field other : String} (value : Value)
    (different : other ≠ field) : (write values field value).get? other = values.get? other := by
  unfold write
  split
  · rfl
  · exact Entries.get?_put_of_ne values value different

end Conduct

theorem Value.eq_null_of_same {value : Value} (same : value.same .null) : value = .null := by
  cases value <;> simp_all [Value.same]

/-- What a converter is asked about a field at a level of a source. -/
def Level.binding (level : Level) (field : String) (previous : Value) : Binding :=
  ⟨field, level.source, level.path, level.parent, level.source.get? field, previous⟩

namespace Copying

variable {level : Level}

/-- A record takes what the converter gives for a field, and goes on with the fields that follow. -/
theorem fillFields_cons (converter : Converter) (level : Level) {shape : Shape} {field : String}
    (known : shape.hasField field) (rest : List String) (values : Entries Value) :
    ∃ events, fillFields ⟨.record, converter⟩ shape level (field :: rest) values =
      (fillFields ⟨.record, converter⟩ shape level rest (Conduct.write values field
        (converter.convert (level.binding field (Conduct.stored values field))))).after events := by
  let value := converter.convert (level.binding field (Conduct.stored values field))
  let notes := (converter.notesOfConvert
    (level.binding field (Conduct.stored values field))).map CopyEvent.noted
  have accepted : Conduct.record.accepts shape field value = .ok () := if_pos known
  by_cases kept : value.same (Conduct.stored values field)
  · have same : Conduct.write values field value = values := if_pos kept
    have passed : fillFields ⟨.record, converter⟩ shape level (field :: rest) values =
        (fillFields ⟨.record, converter⟩ shape level rest values).after notes := if_pos kept
    exact ⟨notes, by rw [passed, same]⟩
  · have wrote : Conduct.write values field value = values.put field value := if_neg kept
    have passed : fillFields ⟨.record, converter⟩ shape level (field :: rest) values =
        (fillFields ⟨.record, converter⟩ shape level rest (values.put field value)).after
          (notes ++ [.wrote shape.name field value]) := by
      refine (if_neg kept).trans ?_
      split
      · next refused => exact absurd (accepted.symm.trans refused) (by simp)
      · rfl
    exact ⟨_, by rw [passed, wrote]⟩

/-- Whatever has a value has that of the source. -/
def Drawn (source values : Entries Value) : Prop :=
  ∀ field, Conduct.stored values field = .null ∨
    Conduct.stored values field = Conduct.stored source field

namespace Drawn

variable {source values : Entries Value} (drawn : Drawn source values)

include drawn

/-- What is copied into a field is what the source has there. -/
theorem candidate (field : String) :
    (source.get? field).getD (Conduct.stored values field) = Conduct.stored source field := by
  cases found : source.get? field with
  | some value => simp only [Conduct.stored, found, Option.getD_some]
  | none =>
    have absent : Conduct.stored source field = .null := by rw [Conduct.stored, found]; rfl
    rw [Option.getD_none, absent]
    exact (drawn field).elim id fun same => same.trans absent

/-- What is written from a source is what the source has. -/
theorem stored_write (field : String) : Conduct.stored (Conduct.write values field
    (Conduct.stored source field)) field = Conduct.stored source field := by
  unfold Conduct.write
  split
  · next kept =>
    rcases drawn field with null | same
    · rw [null] at kept ⊢
      exact (Value.eq_null_of_same kept).symm
    · exact same
  · exact Conduct.stored_put_self values field _

/-- Writing from a source keeps what is drawn from it. -/
theorem write (field : String) :
    Drawn source (Conduct.write values field (Conduct.stored source field)) := by
  intro other
  by_cases same : other = field
  · rw [same]
    exact .inr (drawn.stored_write field)
  · rw [Conduct.stored_congr (Conduct.get?_write_of_ne values _ same)]
    exact drawn other

end Drawn

/-- Copying into the fields of a shape does not fail. Afterwards they have the values of the source,
and so has what had them before. -/
theorem fillFields_drawn {shape : Shape} {fields : List String} {values : Entries Value}
    (known : ∀ field ∈ fields, shape.hasField field) (drawn : Drawn level.source values) :
    let copied := fillFields ⟨.record, .plain⟩ shape level fields values
    copied.failure = none ∧
      ∀ field, field ∈ fields ∨ Conduct.stored values field = Conduct.stored level.source field →
        Conduct.stored copied.result field = Conduct.stored level.source field := by
  induction fields generalizing values with
  | nil => exact ⟨rfl, fun field held => held.resolve_left List.not_mem_nil⟩
  | cons first rest ih =>
    obtain ⟨events, step⟩ := fillFields_cons .plain level
      (known first List.mem_cons_self) rest values
    have value : Converter.plain.convert (level.binding first (Conduct.stored values first)) =
        Conduct.stored level.source first := drawn.candidate first
    obtain ⟨done, held⟩ := ih (fun field member => known field (List.mem_cons_of_mem _ member))
      (drawn.write first)
    rw [step, value]
    refine ⟨done, fun field wanted => held field ?_⟩
    by_cases same : field = first
    · subst same
      exact .inr (drawn.stored_write field)
    · rw [Conduct.stored_congr (Conduct.get?_write_of_ne values _ same)]
      exact wanted.imp_left fun member => (List.mem_cons.mp member).resolve_left same

/-- The fields of a shape in a record that was fresh have the values of the source. -/
theorem fillFields_fresh (shape : Shape) (level : Level) :
    let copied := fillFields ⟨.record, .plain⟩ shape level shape.fields []
    copied.failure = none ∧ ∀ field ∈ shape.fields,
      Conduct.stored copied.result field = Conduct.stored level.source field := by
  have known (field : String) (member : field ∈ shape.fields) : shape.hasField field := by
    simp [Shape.hasField, member]
  have empty : Drawn level.source [] := fun _ => .inl rfl
  obtain ⟨done, held⟩ := fillFields_drawn known empty
  exact ⟨done, fun field member => held field (.inl member)⟩

/-- If nothing keeps the copying of a list from ending, its items are objects that the elements
mirror. -/
theorem fillElements_mirror {fill : Level → Copied Entity}
    (each : ∀ level, (fill level).failure = none → (fill level).result.Mirrors level.source)
    {refusal : Option BindError} {source : Entries Value} {key : String} {index : Nat}
    {items : List Value}
    (done : (fillElements fill refusal source key index items).failure = none) :
    ∃ inner : List (Entries Value), items = inner.map Value.object ∧
      List.Forall₂ Entity.Mirrors (fillElements fill refusal source key index items).result
        inner := by
  fun_induction fillElements fill refusal source key index items with
  | case1 => exact ⟨[], rfl, .nil⟩
  | case2 => exact absurd done (by simp)
  | case3 => exact absurd done (by simp)
  | case4 index members rest allowed first goes ih =>
    subst allowed
    obtain ⟨inner, rfl, mirror⟩ := ih done
    exact ⟨members :: inner, rfl, .cons (each _ goes) mirror⟩
  | case5 => exact absurd done (by simp)

mutual

/-- A fresh record into which a level of a source has been copied mirrors it. -/
theorem fill_mirrors : ∀ (shape : Shape) (level : Level),
    let copied := fill ⟨.record, .plain⟩ shape [] (Entity.fresh shape).slots level
    copied.failure = none → copied.result.Mirrors level.source
  | ⟨name, fields, labels, rules, nested⟩, level => by
    obtain ⟨done, held⟩ := fillFields_fresh ⟨name, fields, labels, rules, nested⟩ level
    simp only [Entity.fresh, fill, done]
    intro ended
    exact .mk held (fillSlots_mirror name _ nested level ended)

/-- Copying into empty slots leaves slots that mirror the source, field by field. -/
theorem fillSlots_mirror (entity : String) (nests : String → Bool) :
    ∀ (nested : List (Nested Shape)) (level : Level),
    let copied := fillSlots ⟨.record, .plain⟩ entity nests nested
      (nested.map fun nested => Entity.emptySlot nested.nesting) level
    copied.failure = none →
      List.Forall₂ (Slot.Mirrors Entity.Mirrors) copied.result
        (nested.map fun nested => Conduct.stored level.source nested.field)
  | [], level => by
    intro copied ended
    simp only [copied, List.map_nil, fillSlots]
    exact .nil
  | nested :: others, level => by
    intro copied ended
    have first := fillSlot_mirrors entity nests nested level
    have rest := fillSlots_mirror entity nests others level
    simp only [copied, List.map_cons, fillSlots] at ended ⊢
    cases goes : (fillSlot ⟨.record, .plain⟩ entity nests nested
        (Entity.emptySlot nested.nesting) level).failure with
    | some failure => simp [goes] at ended
    | none =>
      simp only [goes] at ended ⊢
      exact .cons (first goes) (rest ended)

/-- Copying into an empty slot leaves one that mirrors the source. -/
theorem fillSlot_mirrors (entity : String) (nests : String → Bool) :
    ∀ (nested : Nested Shape) (level : Level),
    let copied := fillSlot ⟨.record, .plain⟩ entity nests nested
      (Entity.emptySlot nested.nesting) level
    copied.failure = none →
      Slot.Mirrors Entity.Mirrors copied.result (Conduct.stored level.source nested.field)
  | ⟨field, nesting, shape⟩, level => by
    intro copied ended
    have made := fill_mirrors shape
    have stored {value : Value} (found : level.source.get? field = some value) :
        Conduct.stored level.source field = value := by rw [Conduct.stored, found]; rfl
    simp only [copied, fillSlot, Converter.enters, Bool.not_true, Bool.false_eq_true,
      ↓reduceIte] at ended ⊢
    cases found : level.source.get? field with
    | none =>
      rw [Conduct.stored, found]
      cases nesting with
      | one => exact .vacant
      | many => exact .empty
    | some value =>
      rw [stored found]
      simp only [found] at ended ⊢
      cases nesting with
      | one =>
        cases value with
        | null => exact .vacant
        | object members =>
          dsimp only at ended ⊢
          split at ended
          · next allowed =>
            rw [if_pos allowed]
            exact .one (made _ ended)
          · exact absurd ended (by simp)
        | _ => exact absurd ended (by simp)
      | many =>
        cases value with
        | null => exact .empty
        | list items =>
          obtain ⟨inner, rfl, mirror⟩ := fillElements_mirror made ended
          exact .many mirror
        | _ => exact absurd ended (by simp)

end

end Copying

/-- A fresh record into which a document has been copied mirrors the document. -/
theorem populate_mirrors {shape : Shape} {document : Value}
    (bound : (populate .record .plain (Entity.fresh shape) document).failure = none) :
    ∃ members, document = .object members ∧
      (populate .record .plain (Entity.fresh shape) document).result.Mirrors members := by
  cases document with
  | object members => exact ⟨members, rfl, Copying.fill_mirrors shape ⟨members, "", none⟩ bound⟩
  | _ => exact absurd bound (by simp [populate])

end Scrutiny
