import Scrutiny.Proofs.Record.Storing

/-! # Changing records

Copying goes by the names of the fields in a record and by the places of the slots in an entity, and
makes fresh records and entities on the way. It leaves a record that shows the entity which it
leaves, with the same events and the same failure (`Record.fill_shows`). So does every other change,
at any depth. The records of a built shape that changes lead to show the entities that the same
changes lead to, and these are all such entities (`Record.Reachable.shows`,
`Entity.Reachable.shown`).
-/

namespace Scrutiny

/-- Two copies leave what is related, with the same events and the same failure. -/
structure Copied.Agrees {α β : Type} (related : α → β → Prop) (left : Copied α) (right : Copied β) :
    Prop where
  result : related left.result right.result
  events : left.events = right.events
  failure : left.failure = right.failure

namespace Copied.Agrees

variable {α β γ δ : Type} {related : α → β → Prop} {left : Copied α} {right : Copied β}

/-- Copies agree still with the same events before both. -/
theorem after (agrees : Agrees related left right) (events : List CopyEvent) :
    Agrees related (left.after events) (right.after events) :=
  ⟨agrees.result, congrArg (events ++ ·) agrees.events, agrees.failure⟩

/-- Copies agree still when both results are changed alike. -/
theorem map (agrees : Agrees related left right) {other : γ → δ → Prop} {f : α → γ} {g : β → δ}
    (keeps : ∀ a b, related a b → other (f a) (g b)) : Agrees other (left.map f) (right.map g) :=
  ⟨keeps _ _ agrees.result, agrees.events, agrees.failure⟩

end Copied.Agrees

namespace Record

variable {converter : Converter}

/-- The fields of a record are filled as the values of its shape are. -/
theorem fillFields_eq (level : Level) (fields : List String) (record : Record) :
    record.fillFields converter level fields =
      (Copying.fillFields ⟨.record, converter⟩ record.shape level fields record.values).map
        fun values => { record with values := values } := by
  induction fields generalizing record with
  | nil =>
    cases record
    rfl
  | cons field rest ih =>
    unfold Record.fillFields Copying.fillFields
    have shown : Conduct.record.shows record.values field = record.get field := rfl
    simp only [shown]
    split
    · rw [ih]
      rfl
    · unfold Record.set Conduct.record
      by_cases known : record.shape.hasField field = true
      · simp only [known, ↓reduceIte]
        rw [ih]
        rfl
      · simp only [known, Bool.false_eq_true, ↓reduceIte]
        cases record
        rfl

/-- The copy of items into fresh records at the end of a list is that into a list of fresh
entities. -/
theorem fillItems_shows {shape : Shape} {fill : Record → Level → Copied Record}
    {fillOther : Level → Copied Entity}
    (fills : ∀ level, (fill (fresh shape) level).Agrees Shows (fillOther level))
    (field : String) (source : Entries Value) (key : String) (index : Nat) (items : List Value)
    (record : Record) (declared : record.declared? field .many = some shape) {done : List Entity}
    (before : List.Forall₂ Shows (record.children field) done) :
    (fillItems fill field source key index items record).Agrees
      (fun changed inners => Beside [field] record changed ∧
        List.Forall₂ Shows (changed.children field) (done ++ inners))
      (Copying.fillElements fillOther none source key index items) := by
  induction items generalizing index record done with
  | nil =>
    rw [fillItems, Copying.fillElements]
    exact ⟨⟨.refl _ _, by rwa [List.append_nil]⟩, rfl, rfl⟩
  | cons item rest ih =>
    cases item with
    | object members =>
      have first := fills ⟨members, Path.elementKey key index, some source⟩
      have grown := List.rel_append before (.cons first.result .nil)
      have beside := putChildren_beside (declares_of_declared? declared)
      rw [fillItems, pushChild?_eq, declared, Option.map_some, Copying.fillElements]
      simp only [putLast_putChildren, first.failure]
      cases stopped : (fillOther ⟨members, Path.elementKey key index, some source⟩).failure with
      | some error =>
        refine ⟨⟨beside _, ?_⟩, first.events, rfl⟩
        rw [children_putChildren]
        exact grown
      | none =>
        have further := ih (index + 1) (record.putChildren field (record.children field ++
          [(fill (fresh shape) ⟨members, Path.elementKey key index, some source⟩).result]))
          declared (by rw [children_putChildren]; exact grown)
        rw [first.events]
        have grows := further.result.2
        rw [List.append_assoc, List.singleton_append] at grows
        exact ⟨⟨(beside _).trans further.result.1, grows⟩, congrArg (_ ++ ·) further.events,
          further.failure⟩
    | _ =>
      have ends : List.Forall₂ Shows (record.children field) (done ++ []) := by
        rwa [List.append_nil]
      exact ⟨⟨.refl _ _, ends⟩, rfl, rfl⟩

mutual

/-- Copying into a record is copying into the entity that it shows. -/
theorem fill_shows : ∀ (shape : Shape) (record : Record) (entity : Entity) (level : Level),
    shape.Built → record.shape = shape → record.Shows entity →
    (fill converter shape record level).Agrees Shows
      (Copying.fill ⟨.record, converter⟩ shape entity.values entity.slots level)
  | ⟨name, fields, labels, rules, nested⟩, record, entity, level, built, own, shows => by
    obtain ⟨_, values, one, many⟩ := record
    obtain rfl := own
    cases shows with
    | mk known held =>
      rw [fill, Copying.fill, fillFields_eq]
      generalize Copying.fillFields ⟨.record, converter⟩ ⟨name, fields, labels, rules, nested⟩ level
        fields values = scalars
      obtain ⟨values, events, failure⟩ := scalars
      cases failure with
      | some error => exact ⟨.mk ⟨known.one, known.many⟩ held, rfl, rfl⟩
      | none =>
        have distinct : (nested.map Nested.field).Nodup := built.nodup_nested
        have inner := fillNested_shows nested
          ⟨⟨name, fields, labels, rules, nested⟩, values, one, many⟩ _ level built.nested distinct
          (fun decl listed => nested?_of_mem distinct listed) held
        have seen := inner.result.1.shows ⟨known.one, known.many⟩ inner.result.2
        exact ⟨seen, congrArg (events ++ ·) inner.events, inner.failure⟩

/-- What is nested is filled alike, field by field. -/
theorem fillNested_shows : ∀ (nested : List (Nested Shape)) (record : Record)
    (slots : List (Slot Entity)) (level : Level), (∀ decl ∈ nested, decl.shape.Built) →
    (nested.map Nested.field).Nodup →
    (∀ decl ∈ nested, record.shape.nested? decl.field = some decl) →
    List.Forall₂ (Slot.Relates Shows) (nested.map record.held) slots →
    (fillNested converter nested record level).Agrees
      (fun changed slots => Beside (nested.map Nested.field) record changed ∧
        List.Forall₂ (Slot.Relates Shows) (nested.map changed.held) slots)
      (Copying.fillSlots ⟨.record, converter⟩ record.shape.name (fun _ => true) nested slots level)
  | [], record, slots, level, _, _, _, shown => by
    cases shown
    exact ⟨⟨.refl _ _, .nil⟩, rfl, rfl⟩
  | decl :: others, record, slots, level, built, distinct, declared, shown => by
    obtain ⟨made, inner⟩ := List.forall_mem_cons.mp built
    obtain ⟨apart, distinct⟩ := List.nodup_cons.mp distinct
    obtain ⟨own, below⟩ := List.forall_mem_cons.mp declared
    cases shown with
    | @cons _ slot _ slots here rest =>
      have first := fillField_shows decl record slot level made own here
      have alone : ∀ other ∈ others, other.field ∉ [decl.field] := fun other listed member =>
        apart (List.mem_map.mpr ⟨other, listed, List.mem_singleton.mp member⟩)
      rw [fillNested, Copying.fillSlots, first.failure]
      cases stopped : (Copying.fillSlot ⟨.record, converter⟩ record.shape.name (fun _ => true) decl
        slot level).failure with
      | some error =>
        refine ⟨⟨first.result.1.mono (by simp), .cons first.result.2 ?_⟩, first.events,
          first.failure.trans stopped⟩
        rwa [first.result.1.map_held alone]
      | none =>
        have further := fillNested_shows others (fillField converter decl record level).result slots
          level inner distinct (by rwa [first.result.1.shape])
          (by rwa [first.result.1.map_held alone])
        rw [first.result.1.shape] at further
        -- The fields after this one have other names, so they leave what it holds.
        have here := first.result.2
        rw [← further.result.1.held_eq apart] at here
        have one : [decl.field] ⊆ (decl :: others).map Nested.field := by simp
        have rest : others.map Nested.field ⊆ (decl :: others).map Nested.field := by simp
        have beside := (first.result.1.mono one).trans (further.result.1.mono rest)
        exact ⟨⟨beside, .cons here further.result.2⟩,
          congrArg₂ (· ++ ·) first.events further.events, further.failure⟩

/-- A field is filled alike, and nothing else in the record is changed. -/
theorem fillField_shows : ∀ (nested : Nested Shape) (record : Record) (slot : Slot Entity)
    (level : Level), nested.shape.Built → record.shape.nested? nested.field = some nested →
    Slot.Relates Shows (record.held nested) slot →
    (fillField converter nested record level).Agrees
      (fun changed slot => Beside [nested.field] record changed ∧
        Slot.Relates Shows (changed.held nested) slot)
      (Copying.fillSlot ⟨.record, converter⟩ record.shape.name (fun _ => true) nested slot level)
  | ⟨field, nesting, shape⟩, record, slot, level, built, declared, shown => by
    have inside (level : Level) :=
      fill_shows shape (fresh shape) (Entity.fresh shape) level built rfl (shows_fresh shape)
    have kept : record.declared? field nesting = some shape :=
      (declared?_of_nested? declared).trans (if_pos rfl)
    cases enters : converter.enters level.path field with
    | false =>
      simp only [fillField, Copying.fillSlot, enters, Bool.not_false, ↓reduceIte]
      exact ⟨⟨.refl _ _, shown⟩, rfl, rfl⟩
    | true =>
      simp only [fillField, Copying.fillSlot, enters, Bool.not_true, Bool.false_eq_true, ↓reduceIte]
      cases found : level.source.get? field with
      | none => exact ⟨⟨.refl _ _, shown⟩, rfl, rfl⟩
      | some given =>
        cases nesting with
        | one =>
          cases given with
          | object members =>
            have child := inside ⟨members, Path.fieldKey level.path field, some level.source⟩
            have beside := putChild_beside (declares_of_declared? kept)
            simp only [resetChild?_eq, kept, Option.map_some]
            refine (child.map fun made inner seen => ?_).after _
            rw [putChild_putChild]
            refine ⟨beside made, ?_⟩
            simp only [held, child?_putChild]
            exact .one seen
          | _ => exact ⟨⟨.refl _ _, shown⟩, rfl, rfl⟩
        | many =>
          cases given with
          | list items =>
            have beside := clearChildren_beside (declares_of_declared? kept)
            have emptied : (record.clearChildren field).declared? field .many = some shape := by
              rw [declared?, beside.shape]
              exact kept
            have items := fillItems_shows inside field level.source (Path.fieldKey level.path field)
              0 items _ emptied (by rw [children_clearChildren]; exact .nil)
            exact ⟨⟨beside.trans items.result.1, .many items.result.2⟩,
              congrArg (_ ++ ·) items.events, items.failure⟩
          | _ => exact ⟨⟨.refl _ _, shown⟩, rfl, rfl⟩

end

/-- Copying an object into a record is copying it into the entity that the record shows. -/
theorem Shows.populate {record : Record} {entity : Entity} (shows : record.Shows entity)
    (built : record.shape.Built) (converter : Converter) (source : Value) :
    (record.populate converter source).Agrees Shows
      (Scrutiny.populate .record converter entity source) := by
  have own := shows.shape_eq
  unfold Record.populate Scrutiny.populate
  cases source with
  | object members =>
    simp only [own]
    exact fill_shows record.shape record entity _ built rfl shows
  | _ => exact ⟨shows, rfl, by simp only [own]⟩

end Record

/-- What a change leaves of a record, which stays as it is if it refuses the change. -/
def Edit.applyRecord : Edit → Record → Record
  | set field value, record => (record.set field value).toOption.getD record
  | resetChild field, record => ((record.resetChild? field).map Prod.snd).getD record
  | pushChild field, record => ((record.pushChild? field).map Prod.snd).getD record
  | clearChildren field, record => record.clearChildren field
  | populate converter source, record => (record.populate converter source).result

/-- The records of a shape that changes lead to, each made at the root or at any depth. -/
inductive Record.Reachable (shape : Shape) : Record → Prop
  | fresh : Reachable shape (Record.fresh shape)
  | edit {record changed : Record} (steps : List Entity.Step) (change : Edit) :
      Reachable shape record →
        record.update? (fun inner => ((), change.applyRecord inner)) steps = some ((), changed) →
          Reachable shape changed

namespace Record.Shows

/-- A refused change leaves the record and the entity alone. -/
theorem getD {record : Record} {entity : Entity} (shows : record.Shows entity)
    {made : Option (Record × Record)} {changed : Option Entity}
    (related : Option.Rel (fun made changed => made.2.Shows changed) made changed) :
    ((made.map Prod.snd).getD record).Shows (changed.getD entity) := by
  cases related with
  | none => exact shows
  | some seen => exact seen

/-- Every edit of a record is that of the entity it shows. -/
theorem edit {record : Record} {entity : Entity} (shows : record.Shows entity)
    (built : record.shape.Built) (change : Edit) :
    (change.applyRecord record).Shows (change.apply entity) := by
  have distinct := built.nodup_nested
  cases change with
  | set field value =>
    rcases shows.set field value with ⟨error, one, two⟩ | ⟨changed, other, one, two, seen⟩
    · simpa [Edit.applyRecord, Edit.apply, one, two, Except.toOption] using shows
    · simpa [Edit.applyRecord, Edit.apply, one, two, Except.toOption] using seen
  | resetChild field => exact shows.getD (shows.resetChild? distinct field)
  | pushChild field => exact shows.getD (shows.pushChild? distinct field)
  | clearChildren field => exact shows.clearChildren distinct field
  | populate converter source => exact (shows.populate built converter source).result

/-- A change at the end of some steps keeps what a record shows, if it does so there. -/
theorem update? {α : Type} {change : Record → α × Record} {other : Entity → α × Entity}
    (keeps : ∀ {record : Record} {entity : Entity}, record.shape.Built → record.Shows entity →
      (change record).1 = (other entity).1 ∧ (change record).2.Shows (other entity).2) :
    ∀ (steps : List Entity.Step) {record : Record} {entity : Entity} {shape : Shape},
      shape.Built → entity.Conforms shape → record.Shows entity →
      Option.Rel (fun made seen => made.1 = seen.1 ∧ made.2.Shows seen.2)
        (record.update? change steps) (entity.update? other steps)
  | [], record, entity, shape, built, conforms, shows => by
    obtain rfl : record.shape = shape := shows.shape_eq.symm.trans conforms.shape_eq
    exact .some (keeps built shows)
  | .child field :: rest, record, entity, shape, built, conforms, shows => by
    obtain rfl : record.shape = shape := shows.shape_eq.symm.trans conforms.shape_eq
    have distinct := built.nodup_nested
    have held := shows.child? distinct field
    rw [Record.update?, Entity.update?]
    generalize kept : record.child? field = made, seen : entity.child? field = other at held
    cases held with
    | none => cases entity.slotIndex? field <;> exact .none
    | @some child inner related =>
      obtain ⟨index, nested, place, _⟩ := Entity.slot?_eq_some (Entity.child?_eq_some seen)
      obtain ⟨listed, rfl, _⟩ := shows.slot place
      obtain ⟨kind, fine⟩ := conforms.child place seen
      have below := update? keeps rest (built.nested nested listed) fine related
      rw [place]
      simp only [Option.bind_eq_bind, Option.bind_some]
      refine rel_bind below fun made changed both => .some ⟨both.1, ?_⟩
      have beside := putChild_beside ⟨nested, listed, rfl, kind⟩ made.2
      refine shows.putSlot distinct place beside ?_
      simp only [held, kind, child?_putChild]
      exact .one both.2
  | .element field position :: rest, record, entity, shape, built, conforms, shows => by
    obtain rfl : record.shape = shape := shows.shape_eq.symm.trans conforms.shape_eq
    have distinct := built.nodup_nested
    have all := shows.children distinct field
    have held := rel_getElem? all position
    simp only [Record.update?, Entity.update?, Option.bind_eq_bind]
    generalize kept : (record.children field)[position]? = made,
      seen : (entity.children field)[position]? = other at held
    cases held with
    | none => cases entity.slotIndex? field <;> exact .none
    | @some child inner related =>
      have member := List.mem_of_getElem? seen
      have filled := (entity.children_eq field).resolve_left (List.ne_nil_of_mem member)
      obtain ⟨index, nested, place, _⟩ := Entity.slot?_eq_some filled
      obtain ⟨listed, rfl, _⟩ := shows.slot place
      obtain ⟨kind, fine⟩ := conforms.element place inner member
      have below := update? keeps rest (built.nested nested listed) fine related
      rw [place]
      simp only [Option.bind_some]
      refine rel_bind below fun made changed both => .some ⟨both.1, ?_⟩
      have beside := putChildren_beside ⟨nested, listed, rfl, kind⟩
        ((record.children nested.field).set position made.2)
      refine shows.putSlot distinct place beside ?_
      simp only [held, kind, children_putChildren]
      exact .many (forall₂_set_set all position both.2)

end Record.Shows

/-- A change at some depth of a record is that change of the entity which it shows. -/
theorem Record.Shows.edit_at {shape : Shape} (built : shape.Built) {record : Record}
    {entity : Entity} (conforms : entity.Conforms shape) (shows : record.Shows entity)
    (steps : List Entity.Step) (change : Edit) :
    Option.Rel (fun made seen => made.1 = seen.1 ∧ made.2.Shows seen.2)
      (record.update? (fun inner => ((), change.applyRecord inner)) steps)
      (entity.update? (fun inner => ((), change.apply inner)) steps) :=
  update? (fun built shows => ⟨rfl, shows.edit built change⟩) steps built conforms shows

/-- Each record that can be made shows an entity that can be made. -/
theorem Record.Reachable.shows {shape : Shape} (built : shape.Built) {record : Record}
    (reachable : Record.Reachable shape record) :
    ∃ entity, Entity.Reachable shape entity ∧ record.Shows entity := by
  induction reachable with
  | fresh => exact ⟨_, .fresh, shows_fresh shape⟩
  | @edit record changed steps change _ done ih =>
    obtain ⟨entity, made, shows⟩ := ih
    have both := shows.edit_at built made.conforms steps change
    rw [done] at both
    generalize reached : entity.update? (fun inner => ((), change.apply inner)) steps = other
      at both
    cases both with
    | some seen => exact ⟨_, made.edit steps change reached, seen.2⟩

/-- Each entity that can be made is shown by a record that can be made. -/
theorem Entity.Reachable.shown {shape : Shape} (built : shape.Built) {entity : Entity}
    (reachable : Entity.Reachable shape entity) :
    ∃ record, Record.Reachable shape record ∧ record.Shows entity := by
  induction reachable with
  | fresh => exact ⟨_, .fresh, Record.shows_fresh shape⟩
  | @edit entity changed steps change reached done ih =>
    obtain ⟨record, made, shows⟩ := ih
    have both := shows.edit_at built reached.conforms steps change
    rw [done] at both
    generalize kept : record.update? (fun inner => ((), change.applyRecord inner)) steps = other
      at both
    cases both with
    | some seen => exact ⟨_, made.edit steps change kept, seen.2⟩

end Scrutiny
