import Scrutiny.Proofs.Record.Filling

/-! # Copying twice

Copying the same source a second time changes nothing. The layers that leave fields out and those
that take values from elsewhere use the value before in one way only, to keep it
(`Converter.Stock.steady`), so a field that has taken a value takes it again. What is nested is made
anew for the objects and lists of the source and is otherwise left alone, whatever was there before.
-/

namespace Scrutiny

/-- A converter made of layers that leave fields out and layers that take values from elsewhere. -/
inductive Converter.Stock : Converter → Prop
  | plain : Stock .plain
  | excluding {fields : List String} {inner : Converter} :
      Stock inner → Stock (.excluding fields inner)
  | including {fields : List String} {inner : Converter} :
      Stock inner → Stock (.including fields inner)
  | sourcing {origins : Entries Origin} {inner : Converter} :
      Stock inner → Stock (.sourcing origins inner)

/-- What a converter gives for a field is the value before, whatever it is, or it does not depend on
the value before. -/
inductive Converter.Steady (converter : Converter) (binding : Binding) : Prop
  | keeps : (∀ previous, converter.convert { binding with previous } = previous) →
      Steady converter binding
  | gives (value : Value) : (∀ previous, converter.convert { binding with previous } = value) →
      Steady converter binding

/-- A layer that leaves a binding to the layer inside it, as it is or changed but for the value
before, is as steady there. -/
theorem Converter.Steady.of_inner {converter inner : Converter} {binding inside : Binding}
    (steady : inner.Steady inside) (left : ∀ previous,
      converter.convert { binding with previous } = inner.convert { inside with previous }) :
    converter.Steady binding := by
  rcases steady with keeps | ⟨value, gives⟩
  · exact .keeps fun previous => (left previous).trans (keeps previous)
  · exact .gives value fun previous => (left previous).trans (gives previous)

/-- Any stack of such layers is steady. -/
theorem Converter.Stock.steady {converter : Converter} (stock : converter.Stock)
    (binding : Binding) : converter.Steady binding := by
  induction stock generalizing binding with
  | plain =>
    cases found : binding.candidate with
    | none => exact .keeps fun previous => by rw [convert, found, Option.getD_none]
    | some value => exact .gives value fun previous => by rw [convert, found, Option.getD_some]
  | @excluding fields inner _ ih =>
    by_cases left : fields.contains binding.field
    · exact .keeps fun previous => if_pos left
    · exact (ih binding).of_inner fun previous => if_neg left
  | @including fields inner _ ih =>
    by_cases admitted : admits fields binding.path binding.field
    · exact (ih binding).of_inner fun previous => if_pos admitted
    · exact .keeps fun previous => if_neg admitted
  | @sourcing origins inner _ ih =>
    cases found : origins.get? binding.field with
    | none => exact (ih binding).of_inner fun previous => by rw [convert, found]
    | some origin =>
      cases origin with
      | renamed key =>
        exact (ih (rename binding key)).of_inner fun previous => by
          simp only [convert, found, rename]
      | derived compute =>
        cases computed : compute binding.source with
        | none =>
          exact .keeps fun previous => by simp only [convert, found, computed, Option.getD_none]
        | some value =>
          exact .gives value fun previous => by
            simp only [convert, found, computed, Option.getD_some]

/-- A field that has taken a value takes it again. -/
theorem Converter.Steady.writtenOver {converter : Converter} {binding : Binding}
    (steady : converter.Steady binding) (previous : Value) :
    let taken := (converter.convert { binding with previous }).writtenOver previous
    (converter.convert { binding with previous := taken }).writtenOver taken = taken := by
  intro taken
  rcases steady with keeps | ⟨value, gives⟩
  · rw [keeps, Value.writtenOver_self]
  · have settles : value.writtenOver (value.writtenOver previous) = value.writtenOver previous := by
      by_cases same : value.same previous
      · have kept : value.writtenOver previous = previous := if_pos same
        rw [kept, kept]
      · have wrote : value.writtenOver previous = value := if_neg same
        rw [wrote, Value.writtenOver_self]
    simp only [taken, gives, settles]

/-- Writing what changes nothing leaves the values as they are, and their order as well. -/
theorem Conduct.write_of_writtenOver {values : Entries Value} {field : String} {value : Value}
    (settled : value.writtenOver (stored values field) = stored values field) :
    write values field value = values := by
  unfold write
  split
  · rfl
  · next different =>
    have same : value = stored values field := (if_neg different).symm.trans settled
    refine Entries.put_of_get? (get?_of_stored same.symm ?_)
    rintro rfl
    exact different (same ▸ rfl)

namespace Copying

section Fields

variable {converter : Converter} {level : Level} {shape : Shape}

/-- Fields that have settled stay as they are. -/
theorem fillFields_of_settled {fields : List String} {values : Entries Value}
    (known : ∀ field ∈ fields, shape.hasField field)
    (settled : ∀ field ∈ fields, Conduct.write values field
      (converter.convert (level.binding field (Conduct.stored values field))) = values) :
    let copied := fillFields ⟨.record, converter⟩ shape level fields values
    copied.result = values ∧ copied.failure = none := by
  induction fields with
  | nil => exact ⟨rfl, rfl⟩
  | cons first rest ih =>
    obtain ⟨events, step⟩ := fillFields_cons converter level
      (known first List.mem_cons_self) rest values
    rw [step, settled first List.mem_cons_self]
    exact ih (fun field member => known field (List.mem_cons_of_mem _ member))
      fun field member => settled field (List.mem_cons_of_mem _ member)

/-- Fields that have taken their values take them again. -/
theorem fillFields_settles (stock : converter.Stock) (level : Level) (built : shape.Built)
    (values : Entries Value) :
    let first := fillFields ⟨.record, converter⟩ shape level shape.fields values
    let second := fillFields ⟨.record, converter⟩ shape level shape.fields first.result
    second.result = first.result ∧ second.failure = none := by
  intro first second
  obtain ⟨_, takes⟩ := fillFields_built converter level built values
  refine fillFields_of_settled (fun field member => by simp [Shape.hasField, member])
    fun field member => Conduct.write_of_writtenOver ?_
  have taken : Conduct.stored first.result field = _ := takes.field field member
  rw [taken]
  exact (stock.steady (level.binding field .null)).writtenOver _

end Fields

section Slots

variable (converter : Converter) (name : String) (level : Level)

/-- A field for nested entities is left as it is, or what it is filled with does not depend on what
it held. -/
theorem fillSlot_keeps_or_gives (nested : Nested Shape) :
    (∃ events failure, ∀ slot,
      fillSlot ⟨.record, converter⟩ name (fun _ => true) nested slot level =
        ⟨slot, events, failure⟩) ∨
      ∃ copied, ∀ slot,
        fillSlot ⟨.record, converter⟩ name (fun _ => true) nested slot level = copied := by
  obtain ⟨field, nesting, shape⟩ := nested
  cases enters : converter.enters level.path field with
  | false => exact .inl ⟨_, _, fun slot => by simp only [fillSlot, enters]; rfl⟩
  | true =>
    cases found : level.source.get? field with
    | none => exact .inl ⟨_, _, fun slot => by simp only [fillSlot, enters, found]; rfl⟩
    | some value =>
      cases nesting with
      | one =>
        cases value with
        | object members =>
          exact .inr ⟨_, fun slot => by simp only [fillSlot, enters, found]; rfl⟩
        | _ => exact .inl ⟨_, _, fun slot => by simp only [fillSlot, enters, found]; rfl⟩
      | many =>
        cases value with
        | list items => exact .inr ⟨_, fun slot => by simp only [fillSlot, enters, found]; rfl⟩
        | _ => exact .inl ⟨_, _, fun slot => by simp only [fillSlot, enters, found]; rfl⟩

/-- A field that has been filled is filled to the same again. -/
theorem fillSlot_fillSlot (nested : Nested Shape) (slot : Slot Entity) :
    let first := fillSlot ⟨.record, converter⟩ name (fun _ => true) nested slot level
    fillSlot ⟨.record, converter⟩ name (fun _ => true) nested first.result level = first := by
  intro first
  rcases fillSlot_keeps_or_gives converter name level nested with ⟨events, failure, keeps⟩ |
    ⟨copied, gives⟩
  · simp only [first, keeps]
  · simp only [first, gives]

/-- Fields that have been filled are filled to the same again. -/
theorem fillSlots_fillSlots (nested : List (Nested Shape)) (slots : List (Slot Entity)) :
    let first := fillSlots ⟨.record, converter⟩ name (fun _ => true) nested slots level
    fillSlots ⟨.record, converter⟩ name (fun _ => true) nested first.result level = first := by
  induction nested generalizing slots with
  | nil => simp [fillSlots]
  | cons decl others ih =>
    cases slots with
    | nil => simp [fillSlots]
    | cons slot slots =>
      have again := fillSlot_fillSlot converter name level decl slot
      have later := ih slots
      cases goes : (fillSlot ⟨.record, converter⟩ name (fun _ => true) decl slot level).failure with
      | some failure => simp only [fillSlots, goes, again]
      | none => simp only [fillSlots, goes, again, Copied.after, Copied.map, later]

end Slots

/-- Filling an entity a second time leaves it as the first time has left it. -/
theorem fill_fill {converter : Converter} (stock : converter.Stock) {shape : Shape}
    (built : shape.Built) (values : Entries Value) (slots : List (Slot Entity)) (level : Level) :
    let first := fill ⟨.record, converter⟩ shape values slots level
    let again := first.result
    let second := fill ⟨.record, converter⟩ again.shape again.values again.slots level
    second.failure = first.failure ∧ second.result = again := by
  intro first again second
  obtain ⟨goes, _⟩ := fillFields_built converter level built values
  obtain ⟨settled, done⟩ := fillFields_settles stock level built values
  have once := fill_eq converter goes slots
  have nested := fillSlots_fillSlots converter shape.name level shape.nested slots
  generalize fillFields ⟨.record, converter⟩ shape level shape.fields values = scalars
    at settled done once
  generalize fillSlots ⟨.record, converter⟩ shape.name (fun _ => true) shape.nested slots level =
    filled at nested once
  have left : again = ⟨shape, scalars.result, filled.result⟩ := congrArg Copied.result once
  have twice := fill_eq converter done filled.result
  simp only [settled, nested] at twice
  have second_eq : second = fill ⟨.record, converter⟩ shape scalars.result filled.result level := by
    simp only [second, left]
  rw [second_eq, twice, left]
  exact ⟨(congrArg Copied.failure once).symm, rfl⟩

end Copying

/-- **Copying twice.** Copying into a record of a built shape, whatever changes have led to it, and
then copying the same source with the same converter again leaves the record as it is after the
first time, with all its values and all that is nested in it. The second copy goes through if the
first does; it fails in the same way if that fails. -/
theorem populate_populate {shape : Shape} {record : Entity} (built : shape.Built)
    (reachable : Entity.Reachable shape record) {converter : Converter} (stock : converter.Stock)
    (source : Value) :
    let first := populate .record converter record source
    let second := populate .record converter first.result source
    second.failure = first.failure ∧ second.result = first.result := by
  intro first second
  cases source with
  | object members =>
    rw [← reachable.conforms.shape_eq] at built
    exact (Copying.fill_fill stock built record.values record.slots ⟨members, "", none⟩)
  | _ => exact ⟨rfl, rfl⟩

/-- The lines of the order are made anew by both copies, and its number is taken from elsewhere. -/
theorem populate_populate_filledOrder :
    let converter : Converter :=
      .excluding ["gift"] (.sourcing [("id", .renamed "number")] .plain)
    let source := Value.object [("id", .null), ("number", .string "8"), ("gift", .bool true),
      ("lines", .list [.object [("qty", .string "3")]])]
    let first := populate .record converter Entity.filledOrder source
    let second := populate .record converter first.result source
    Entity.orderShape.Built ∧ Entity.Reachable Entity.orderShape Entity.filledOrder ∧
      converter.Stock ∧ first.failure = none ∧ second.failure = none ∧
      second.result = first.result ∧
      first.result = ⟨Entity.orderShape, [("id", .string "8")],
        [.vacant, .many [⟨Entity.lineShape, [("qty", .string "3")], []⟩]]⟩ := by
  intro converter source first second
  have built := Entity.orderShape_built
  have reachable := Entity.filledOrder_reachable
  have stock : converter.Stock := .excluding (.sourcing .plain)
  have done : first.failure = none := rfl
  obtain ⟨same, settled⟩ := populate_populate built reachable stock source
  exact ⟨built, reachable, stock, done, same.trans done, settled, rfl⟩

end Scrutiny
