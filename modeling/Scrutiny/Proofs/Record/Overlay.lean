import Scrutiny.Proofs.Record.Filling

/-! # Documents laid over records

Copying a document into a record lays the document over the object of the record: fields and lists
that the document has nothing for are kept, and what is nested is made anew from what the document
has there (`populate_overlay`). Injecting a record into another is copying its object. There a
single entity that is missing stands as null, which keeps what was before. So the other record
becomes a copy of the first but for the single entities that it has and the first has not
(`inject_overlay`).
-/

namespace Scrutiny

mutual

/-- The members of the object of a record: its fields, and then what is nested in it. -/
def Entity.members : Entity → Entries Value
  | ⟨shape, values, slots⟩ =>
    (shape.fields.map fun field => (field, Conduct.stored values field)) ++
      slotsMembers shape.nested slots

def slotsMembers : List (Nested Shape) → List (Slot Entity) → Entries Value
  | nested :: others, slot :: slots => (nested.field, slotValue slot) :: slotsMembers others slots
  | _, _ => []

def slotValue : Slot Entity → Value
  | .vacant => .null
  | .one child => .object child.members
  | .many children => .list (childrenValues children)

def childrenValues : List Entity → List Value
  | [] => []
  | child :: children => .object child.members :: childrenValues children

end

namespace Exporting

mutual

/-- The object of a record does not depend on where the record stands. -/
theorem exportAt_plain : ∀ (entity : Entity) (path : String) (parent : Option (Entries Value)),
    (exportAt .record .plain entity path parent).members = entity.members
  | ⟨shape, values, slots⟩, path, parent => by
    have fields := exportFields_plain values path parent shape.fields shape.fields
      fun _ member => member
    have nested := exportSlots_plain shape.nested slots
    rw [exportAt, Entity.members]
    exact congrArg₂ (· ++ ·) fields (nested _)

/-- An export without conversions has the members for what is nested. -/
theorem exportSlots_plain : ∀ (nested : List (Nested Shape)) (slots : List (Slot Entity))
    (level : Level), (exportSlots .record .plain nested slots level).members =
      slotsMembers nested slots
  | ⟨field, nesting, shape⟩ :: others, slot :: slots, level => by
    rw [slotsMembers, ← exportSlots_plain others slots level,
      ← exportSlot_plain slot (Path.fieldKey level.path field) level.source, exportSlots]
    rfl
  | [], _, _ => by simp only [exportSlots, slotsMembers]
  | _ :: _, [], _ => by simp only [exportSlots, slotsMembers]

/-- An export without conversions has the value of each field for nested entities. -/
theorem exportSlot_plain : ∀ (slot : Slot Entity) (key : String) (raw : Entries Value),
    (exportSlot .record .plain slot key raw).1 = slotValue slot
  | .vacant, _, _ => by rw [exportSlot, slotValue]
  | .one child, key, raw => by
    rw [slotValue, ← exportAt_plain child key (some raw), exportSlot]
  | .many children, key, raw => by
    rw [slotValue, ← exportElements_plain children key 0 raw, exportSlot]

/-- An export without conversions has the values of the elements of a list. -/
theorem exportElements_plain : ∀ (children : List Entity) (key : String) (index : Nat)
    (raw : Entries Value),
    (exportElements .record .plain children key index raw).1 = childrenValues children
  | [], _, _, _ => by rw [exportElements, childrenValues]
  | child :: children, key, index, raw => by
    rw [childrenValues, ← exportElements_plain children key (index + 1) raw,
      ← exportAt_plain child (Path.elementKey key index) (some raw), exportElements]

end

end Exporting

/-- What a field for nested entities shows if nothing is nested there. -/
def Nesting.nothing : Nesting → Value
  | .one => .null
  | .many => .list []

mutual

/-- An object of a shape with a document laid over it. A field has the value of the document where
the document has a member of its name. A field for nested entities that the document has an object
or a list for has the objects there, each laid over an empty one. All else is kept, and what the
shape does not declare is left out. -/
def Shape.overlay : Shape → Entries Value → Entries Value → Entries Value
  | ⟨_, fields, _, _, nested⟩, before, document =>
    (fields.map fun field =>
        (field, (document.get? field).getD (Conduct.stored before field))) ++
      overlayAll nested before document

def overlayAll : List (Nested Shape) → Entries Value → Entries Value → Entries Value
  | [], _, _ => []
  | nested :: others, before, document =>
    (nested.field, overlayNested nested ((before.get? nested.field).getD nested.nesting.nothing)
      (Conduct.stored document nested.field)) :: overlayAll others before document

def overlayNested : Nested Shape → Value → Value → Value
  | ⟨_, .one, shape⟩, _, .object document => .object (shape.overlay [] document)
  | ⟨_, .many, shape⟩, _, .list items =>
    .list (items.map fun
      | .object document => .object (shape.overlay [] document)
      | item => item)
  | _, kept, _ => kept

end

/-- Two objects have the same members in the same order. Only the value of a field may be written in
another way that makes it the same value. -/
def Shape.SameMembers (shape : Shape) (members others : Entries Value) : Prop :=
  List.Forall₂ (fun member other => member = other ∨
    member.1 = other.1 ∧ member.1 ∈ shape.fields ∧ member.2.same other.2) members others

/-- An overlay takes each field from the document where it is there, and what is nested from both.
-/
theorem Shape.overlay_eq (shape : Shape) (before document : Entries Value) :
    shape.overlay before document = (shape.fields.map fun field =>
        (field, (document.get? field).getD (Conduct.stored before field))) ++
      overlayAll shape.nested before document := by
  cases shape
  rw [Shape.overlay]

/-- Null in the document keeps what was nested. -/
theorem overlayNested_null (nested : Nested Shape) (kept : Value) :
    overlayNested nested kept .null = kept := by
  obtain ⟨field, nesting, shape⟩ := nested
  cases nesting <;> rfl

section Names

variable {nested : List (Nested Shape)} {slots : List (Slot Entity)}

/-- The members for what is nested stand under the declared names, in order. -/
theorem keys_slotsMembers (length : slots.length = nested.length) :
    (slotsMembers nested slots).keys = nested.map Nested.field := by
  induction nested generalizing slots with
  | nil => cases slots <;> rfl
  | cons nested others ih =>
    cases slots with
    | nil => exact absurd length (by simp)
    | cons slot slots =>
      rw [slotsMembers]
      exact congrArg (nested.field :: ·) (ih (Nat.succ.inj length))

/-- Each declared field has a member with what its slot shows. -/
theorem mem_slotsMembers {decl : Nested Shape} {slot : Slot Entity}
    (paired : (decl, slot) ∈ nested.zip slots) :
    (decl.field, slotValue slot) ∈ slotsMembers nested slots := by
  induction nested generalizing slots with
  | nil => exact absurd paired (by simp)
  | cons nested others ih =>
    cases slots with
    | nil => exact absurd paired (by simp)
    | cons first slots =>
      rw [slotsMembers]
      rcases List.mem_cons.mp paired with same | later
      · obtain ⟨rfl, rfl⟩ := Prod.mk.inj same
        exact List.mem_cons_self
      · exact List.mem_cons_of_mem _ (ih later)

end Names

namespace Entity

variable {shape : Shape} {slots : List (Slot Entity)}

/-- A shape that is built gives different names to all members. -/
theorem nodup_members (built : shape.Built) (length : slots.length = shape.nested.length)
    (values : Entries Value) : (Entity.members ⟨shape, values, slots⟩).keys.Nodup := by
  have named : Entries.keys (shape.fields.map fun field =>
      (field, Conduct.stored values field)) = shape.fields := by
    rw [Entries.keys, List.map_map]
    exact List.map_id _
  rw [Entity.members, Entries.keys, List.map_append]
  refine Eq.subst ?_ built.nodup_names
  exact congrArg₂ (· ++ ·) named.symm (keys_slotsMembers length).symm

/-- The member of a field for values is what the field shows. -/
theorem get?_members_field (built : shape.Built) (length : slots.length = shape.nested.length)
    (values : Entries Value) {field : String} (declared : field ∈ shape.fields) :
    (Entity.members ⟨shape, values, slots⟩).get? field = some (Conduct.stored values field) := by
  have listed : (field, Conduct.stored values field) ∈ Entity.members ⟨shape, values, slots⟩ := by
    rw [Entity.members]
    exact List.mem_append_left _ (List.mem_map.mpr ⟨field, declared, rfl⟩)
  exact Entries.get?_of_mem (nodup_members built length values) listed

/-- The member of a field for nested entities is what its slot shows. -/
theorem get?_members (built : shape.Built) (length : slots.length = shape.nested.length)
    (values : Entries Value) :
    List.Forall₂ (fun decl slot =>
        (Entity.members ⟨shape, values, slots⟩).get? decl.field = some (slotValue slot))
      shape.nested slots := by
  refine List.forall₂_iff_zip.mpr ⟨length.symm, fun paired => ?_⟩
  have listed := List.mem_append_right (shape.fields.map fun field =>
    (field, Conduct.stored values field)) (mem_slotsMembers paired)
  rw [← Entity.members] at listed
  exact Entries.get?_of_mem (nodup_members built length values) listed

end Entity

namespace Copying

mutual

/-- The object of a record that mirrors a document is the document laid over an empty object. -/
theorem members_of_mirrors : ∀ {entity : Entity} {shape : Shape} {document : Entries Value},
    Entity.Conforms shape entity → entity.Mirrors document →
    entity.members = shape.overlay [] document
  | ⟨shape, values, slots⟩, _, document, .mk fits _, .mk held mirror => by
    rw [Entity.members, Shape.overlay_eq, slotsMembers_of_mirror fits mirror]
    refine congrArg (· ++ _) (List.map_congr_left fun field member => ?_)
    rw [held field member]
    rfl

/-- Where slots mirror a document, they show the overlay over nothing. -/
theorem slotsMembers_of_mirror : ∀ {slots : List (Slot Entity)} {nested : List (Nested Shape)}
    {document : Entries Value}, List.Forall₂ (Slot.Fits Entity.Conforms) nested slots →
    List.Forall₂ (Slot.Mirrors Entity.Mirrors) slots
      (nested.map fun decl => Conduct.stored document decl.field) →
    slotsMembers nested slots = overlayAll nested [] document
  | [], [], _, _, _ => by rw [slotsMembers, overlayAll]; simp
  | slot :: slots, nested :: others, document, fits, mirror => by
    obtain ⟨fit, rest⟩ := List.forall₂_cons.mp fits
    obtain ⟨first, mirrors⟩ := List.forall₂_cons.mp mirror
    rw [slotsMembers, overlayAll, slotsMembers_of_mirror rest mirrors,
      slotValue_of_mirrors fit first]
    rfl

/-- Where a slot mirrors a value, it shows the overlay over nothing. -/
theorem slotValue_of_mirrors : ∀ {slot : Slot Entity} {nested : Nested Shape} {value : Value},
    Slot.Fits Entity.Conforms nested slot → Slot.Mirrors Entity.Mirrors slot value →
    slotValue slot = overlayNested nested nested.nesting.nothing value
  | _, _, _, .vacant, .vacant => rfl
  | _, _, _, .many _, .empty => rfl
  | .one _, _, _, .one conforms, .one mirrors => by
    rw [slotValue, members_of_mirrors conforms mirrors]
    rfl
  | .many _, _, _, .many all, .many mirror => by
    rw [slotValue, childrenValues_of_mirror all mirror, overlayNested, List.map_map]
    rfl

/-- Where elements mirror documents, each shows the overlay over nothing. -/
theorem childrenValues_of_mirror : ∀ {children : List Entity} {shape : Shape}
    {items : List (Entries Value)}, (∀ child ∈ children, Entity.Conforms shape child) →
    List.Forall₂ Entity.Mirrors children items →
    childrenValues children = items.map fun document => .object (shape.overlay [] document)
  | [], _, [], _, _ => rfl
  | child :: children, shape, document :: items, all, mirror => by
    obtain ⟨first, rest⟩ := List.forall₂_cons.mp mirror
    rw [childrenValues, members_of_mirrors (all child List.mem_cons_self) first,
      childrenValues_of_mirror (fun other member => all other (List.mem_cons_of_mem _ member)) rest]
    rfl

end

section Laying

variable {name : String} {level : Level}

/-- What a field shows after copying is what the source has there laid over what it showed. -/
theorem slotValue_fillSlot {nested : Nested Shape} {slot : Slot Entity}
    (done : (fillSlot ⟨.record, .plain⟩ name (fun _ => true) nested slot level).failure = none) :
    slotValue (fillSlot ⟨.record, .plain⟩ name (fun _ => true) nested slot level).result =
      overlayNested nested (slotValue slot) (Conduct.stored level.source nested.field) := by
  obtain ⟨field, nesting, shape⟩ := nested
  have conforms (level : Level) := fill_conforms .plain shape [] _ level (.fresh shape)
  generalize held : Conduct.stored level.source field = value
  by_cases absent : value = .null
  · subst absent
    rw [fillSlot_of_null slot held, overlayNested_null]
  have found := Conduct.get?_of_stored held absent
  cases nesting with
  | one =>
    cases value with
    | null => exact absurd rfl absent
    | object members =>
      rw [fillSlot_object slot held] at done ⊢
      have made := members_of_mirrors (conforms _) (fill_mirrors shape _ done)
      exact congrArg Value.object made
    | _ => exact absurd done (by simp [fillSlot, Converter.enters, found])
  | many =>
    cases value with
    | null => exact absurd rfl absent
    | list items =>
      rw [fillSlot_list slot held] at done ⊢
      obtain ⟨inner, rfl, mirror⟩ := fillElements_mirror (fill_mirrors shape) done
      have made := childrenValues_of_mirror (forall_mem_fillElements conforms _ _ _ _ _) mirror
      refine congrArg Value.list (made.trans ?_)
      rw [List.map_map]
      rfl
    | _ => exact absurd done (by simp [fillSlot, Converter.enters, found])

/-- Copying into the slots leaves in each the overlay over what it showed. -/
theorem slotsMembers_fillSlots {before : Entries Value} {nested : List (Nested Shape)}
    {slots : List (Slot Entity)}
    (shown : List.Forall₂ (fun decl slot => before.get? decl.field = some (slotValue slot))
      nested slots)
    (done : (fillSlots ⟨.record, .plain⟩ name (fun _ => true) nested slots level).failure = none) :
    slotsMembers nested
        (fillSlots ⟨.record, .plain⟩ name (fun _ => true) nested slots level).result =
      overlayAll nested before level.source := by
  induction shown with
  | nil => rw [fillSlots, slotsMembers, overlayAll] <;> simp
  | @cons decl slot others slots held _ ih =>
    rw [fillSlots] at done ⊢
    cases goes : (fillSlot ⟨.record, .plain⟩ name (fun _ => true) decl slot level).failure with
    | some failure => exact absurd done (by simp [goes])
    | none =>
      simp only [goes] at done ⊢
      rw [overlayAll, held, Option.getD_some, ← slotValue_fillSlot goes, ← ih done]
      rfl

/-- A copy that goes through leaves a record with the members of the overlay. -/
theorem fill_overlay {shape : Shape} {values : Entries Value} {slots : List (Slot Entity)}
    (built : shape.Built) (length : slots.length = shape.nested.length)
    (done : (fill ⟨.record, .plain⟩ shape values slots level).failure = none) :
    shape.SameMembers (shape.overlay (Entity.members ⟨shape, values, slots⟩) level.source)
      (fill ⟨.record, .plain⟩ shape values slots level).result.members := by
  obtain ⟨goes, takes⟩ := fillFields_built .plain level built values
  have shown := Entity.get?_members built length values
  have kept {field : String} (declared : field ∈ shape.fields) :=
    Entity.get?_members_field built length values declared
  generalize Entity.members ⟨shape, values, slots⟩ = before at shown kept
  obtain ⟨name, fields, labels, rules, nested⟩ := shape
  simp only [fill, goes] at done ⊢
  have laid := slotsMembers_fillSlots shown done
  change Shape.SameMembers _ _ (Entity.members ⟨_, _, _⟩)
  rw [Shape.overlay_eq, ← laid, Entity.members]
  refine List.rel_append ?_ (List.forall₂_same.mpr fun _ _ => .inl rfl)
  refine List.forall₂_map_left_iff.mpr (List.forall₂_map_right_iff.mpr
    (List.forall₂_same.mpr fun field declared => ?_))
  have taken := takes.field field declared
  -- What the field takes may be the same as the value before, which then stays as it was written.
  have value : Converter.plain.convert (level.binding field (Conduct.stored values field)) =
      (level.source.get? field).getD (Conduct.stored before field) := by
    rw [Conduct.stored, Conduct.stored, kept declared]
    rfl
  rw [value, Value.writtenOver] at taken
  split at taken
  · next same => exact .inr ⟨rfl, declared, taken ▸ same⟩
  · exact .inl (Prod.ext rfl taken.symm)

end Laying

end Copying

/-- An export without conversions has the members of the entity. -/
theorem members_exportEntity (entity : Entity) :
    (exportEntity .record .plain entity).members = entity.members :=
  Exporting.exportAt_plain entity "" none

/-- **Populating is overlaying.** If a document can be copied into a record of a built shape,
whatever changes have led to the record, then the record is exported afterwards to the document laid
over the object it was exported to before. -/
theorem populate_overlay {shape : Shape} {record : Entity} (built : shape.Built)
    (reachable : Entity.Reachable shape record) {document : Entries Value}
    (bound : (populate .record .plain record (.object document)).failure = none) :
    shape.SameMembers
      (shape.overlay (exportEntity .record .plain record).members document)
      (exportEntity .record .plain
        (populate .record .plain record (.object document)).result).members := by
  rw [members_exportEntity, members_exportEntity]
  cases reachable.conforms with
  | mk fits => exact Copying.fill_overlay built fits.length_eq.symm bound

/-- The number of the filled order is kept, its gift and its lines are made anew. -/
theorem populate_overlay_filledOrder :
    let record := Entity.filledOrder
    let document := [("lines", Value.list [.object [("note", .bool true)]]), ("rest", .bool true),
      ("gift", .object [("qty", .string "one")])]
    let copied := populate .record .plain record (.object document)
    Entity.orderShape.Built ∧ Entity.Reachable Entity.orderShape record ∧ copied.failure = none ∧
      Entity.orderShape.SameMembers
        [("id", .string "7"), ("gift", .object [("qty", .string "one")]),
          ("lines", .list [.object [("qty", .null)]])]
        (exportEntity .record .plain copied.result).members := by
  intro record document copied
  have built := Entity.orderShape_built
  have reachable := Entity.filledOrder_reachable
  have bound : copied.failure = none := rfl
  exact ⟨built, reachable, bound, populate_overlay built reachable bound⟩

/-- A value, or another one if it is null. -/
def Value.orKept : Value → Value → Value
  | .null, kept => kept
  | value, _ => value

/-- An object of a shape in which the fields for nested entities that hold null are those of another
object. -/
def Shape.completed (shape : Shape) (given before : Entries Value) : Entries Value :=
  (shape.fields.map fun field => (field, Conduct.stored given field)) ++
    shape.nested.map fun decl =>
      (decl.field, (Conduct.stored given decl.field).orKept (Conduct.stored before decl.field))

/-- A value that is there is not replaced by what was kept. -/
theorem Value.orKept_of_ne {value : Value} (present : value ≠ .null) (kept : Value) :
    value.orKept kept = value := by
  cases value with
  | null => exact absurd rfl present
  | _ => rfl

/-- The members of slots are read off the object that shows them. -/
theorem slotsMembers_eq_map {before : Entries Value} {nested : List (Nested Shape)}
    {slots : List (Slot Entity)} (shown : List.Forall₂ (fun decl slot =>
      before.get? decl.field = some (slotValue slot)) nested slots) :
    slotsMembers nested slots =
      nested.map fun decl => (decl.field, Conduct.stored before decl.field) := by
  induction shown with
  | nil => rfl
  | cons held _ ih =>
    rw [slotsMembers, List.map_cons, ih, Conduct.stored, held]
    rfl

/-- A field that the first document has nothing for is completed by what was before. -/
theorem Shape.mem_completed {shape : Shape} {given : Entries Value} (before : Entries Value)
    {decl : Nested Shape} (listed : decl ∈ shape.nested)
    (missing : Conduct.stored given decl.field = .null) :
    (decl.field, Conduct.stored before decl.field) ∈ shape.completed given before := by
  refine List.mem_append_right _ (List.mem_map.mpr ⟨decl, listed, ?_⟩)
  rw [missing]
  rfl

/-- The overlay of what is nested goes field by field. -/
theorem overlayAll_eq_map (nested : List (Nested Shape)) (before document : Entries Value) :
    overlayAll nested before document = nested.map fun decl =>
      (decl.field, overlayNested decl ((before.get? decl.field).getD decl.nesting.nothing)
        (Conduct.stored document decl.field)) := by
  induction nested with
  | nil => rw [overlayAll, List.map_nil]
  | cons decl others ih => rw [overlayAll, List.map_cons, ih]

namespace Entity.Conforms

variable {shape : Shape} {entity other : Entity}

/-- Each declared field of a record that conforms has a slot, and a member that shows it. -/
theorem exists_slot (conforms : Conforms shape entity) (built : shape.Built) {decl : Nested Shape}
    (listed : decl ∈ shape.nested) :
    ∃ slot, Slot.Fits Conforms decl slot ∧
      entity.members.get? decl.field = some (slotValue slot) := by
  cases conforms with
  | @mk _ values slots fits =>
    obtain ⟨index, one⟩ := List.mem_iff_getElem?.mp listed
    have bound : index < slots.length :=
      fits.length_eq ▸ (List.getElem?_eq_some_iff.mp one).1
    have held := List.getElem?_eq_getElem bound
    have shown := get?_members built fits.length_eq.symm values
    exact ⟨slots[index], forall₂_getElem? fits one held, forall₂_getElem? shown one held⟩

/-- Each field for values of such a record has a member. -/
theorem exists_field (conforms : Conforms shape entity) (built : shape.Built) {field : String}
    (declared : field ∈ shape.fields) : ∃ value, entity.members.get? field = some value := by
  cases conforms with
  | mk fits => exact ⟨_, get?_members_field built fits.length_eq.symm _ declared⟩

/-- The members of such a record have different names. -/
theorem nodup_members (conforms : Conforms shape entity) (built : shape.Built) :
    entity.members.keys.Nodup := by
  cases conforms with
  | mk fits => exact Entity.nodup_members built fits.length_eq.symm _

/-- Completing the object of a record changes nothing if what it lacks is null in the other object
too. -/
theorem completed_members (conforms : Conforms shape entity) (built : shape.Built)
    {before : Entries Value} (lacking : ∀ decl ∈ shape.nested,
      Conduct.stored entity.members decl.field = .null → Conduct.stored before decl.field = .null) :
    shape.completed entity.members before = entity.members := by
  cases conforms with
  | @mk _ values slots fits =>
    have shown := get?_members built fits.length_eq.symm values
    have kept {field : String} (declared : field ∈ shape.fields) :=
      get?_members_field built fits.length_eq.symm values declared
    conv_rhs => rw [Entity.members, slotsMembers_eq_map shown]
    refine congrArg₂ (· ++ ·) (List.map_congr_left fun field declared => ?_)
      (List.map_congr_left fun decl listed => congrArg (Prod.mk _) ?_)
    · rw [Conduct.stored, kept declared]
      rfl
    · by_cases missing : Conduct.stored (Entity.members ⟨shape, values, slots⟩) decl.field = .null
      · rw [missing]
        exact lacking decl listed missing
      · exact Value.orKept_of_ne missing _

/-- What a record holds in a field stays as it is when its object is laid over another, but for a
single entity that is missing. -/
theorem overlayNested_slotValue {decl : Nested Shape} {slot : Slot Entity}
    (fits : Slot.Fits Conforms decl slot) (built : decl.shape.Built) (kept : Value) :
    overlayNested decl kept (slotValue slot) = (slotValue slot).orKept kept := by
  have mirrors := Exporting.mirrors_exportSlot fits built "" []
  rw [Exporting.exportSlot_plain] at mirrors
  have same := Copying.slotValue_of_mirrors fits mirrors
  cases fits with
  | vacant => exact overlayNested_null _ kept
  | one => exact same.symm
  | many => exact same.symm

/-- Laid over another record of the same shape, the object of a record is completed by that one. -/
theorem overlay_members (conforms : Conforms shape entity) (further : Conforms shape other)
    (built : shape.Built) :
    shape.overlay other.members entity.members = shape.completed entity.members other.members := by
  rw [Shape.overlay_eq, Shape.completed, overlayAll_eq_map]
  refine congrArg₂ (· ++ ·) (List.map_congr_left fun field declared => ?_)
    (List.map_congr_left fun decl listed => ?_)
  · obtain ⟨value, held⟩ := conforms.exists_field built declared
    rw [Conduct.stored, Conduct.stored, held]
    rfl
  · obtain ⟨slot, fits, held⟩ := conforms.exists_slot built listed
    obtain ⟨kept, _, before⟩ := further.exists_slot built listed
    rw [Conduct.stored, Conduct.stored, held, before]
    exact congrArg (Prod.mk decl.field) (overlayNested_slotValue fits (built.nested decl listed) _)

end Entity.Conforms

namespace Shape.SameMembers

variable {shape : Shape} {members others : Entries Value}

/-- Only the values of fields may be written in another way. -/
theorem mem (same : shape.SameMembers members others) {member : String × Value}
    (listed : member ∈ members) (apart : member.1 ∉ shape.fields) : member ∈ others := by
  obtain ⟨index, held⟩ := List.mem_iff_getElem?.mp listed
  have bound : index < others.length :=
    same.length_eq ▸ (List.getElem?_eq_some_iff.mp held).1
  rcases forall₂_getElem? same held (List.getElem?_eq_getElem bound) with equal | ⟨_, declared, _⟩
  · exact equal ▸ List.getElem_mem bound
  · exact absurd declared apart

/-- What is nested stands alike in two objects with the same members as a third. -/
theorem value_eq {further : Entries Value} (same : shape.SameMembers members others)
    (also : shape.SameMembers further others) (distinct : others.keys.Nodup) {name : String}
    {value other : Value} (apart : name ∉ shape.fields) (one : (name, value) ∈ members)
    (two : (name, other) ∈ further) : value = other := by
  have held := Entries.get?_of_mem distinct (same.mem one apart)
  exact Option.some.inj (held.symm.trans (Entries.get?_of_mem distinct (also.mem two apart)))

end Shape.SameMembers

namespace Entity.Conforms

variable {shape : Shape} {record other : Entity} (conforms : Conforms shape record)
  (built : shape.Built)

include conforms built

/-- Injecting a record into one of the same shape never fails. -/
theorem inject_goes (further : Conforms shape other) :
    (inject .record .plain record other).failure = none := by
  have mirrors := Exporting.mirrors_exportAt conforms built "" none
  obtain ⟨goes, _⟩ := Copying.fill_agrees shape
    ⟨(exportEntity .record .plain record).members, "", none⟩ conforms mirrors
  rw [inject, further.failure_populate (Conforms.fresh shape) built]
  exact goes

/-- The completed object of a record is the same as its object if and only if what the record lacks
is null in the other object too. -/
theorem sameMembers_iff {before after : Entries Value} (distinct : after.keys.Nodup)
    (laid : shape.SameMembers (shape.completed record.members before) after) :
    shape.SameMembers record.members after ↔ ∀ decl ∈ shape.nested,
      Conduct.stored record.members decl.field = .null →
        Conduct.stored before decl.field = .null := by
  constructor
  · intro same decl listed missing
    have beside : decl.field ∉ shape.fields :=
      fun declared => built.apart declared (List.mem_map_of_mem listed)
    obtain ⟨slot, _, held⟩ := conforms.exists_slot built listed
    have null : (decl.field, Value.null) ∈ record.members := by
      rw [← missing, Conduct.stored, held]
      exact Entries.mem_of_get? held
    have completed := Shape.mem_completed before listed missing
    exact (same.value_eq laid distinct beside null completed).symm
  · intro lacking
    exact conforms.completed_members built lacking ▸ laid

end Entity.Conforms

/-- **Injecting copies all but missing entities.** A record of a built shape can be injected into
any other one, whatever changes have led to either. Afterwards the other is exported to the object
of the first, except that a field for a single entity that holds none in the first has what it had
before. So it is a copy of the first if and only if all those fields held none before as well. -/
theorem inject_overlay {shape : Shape} {record other : Entity} (built : shape.Built)
    (reachable : Entity.Reachable shape record) (further : Entity.Reachable shape other) :
    let given := (exportEntity .record .plain record).members
    let before := (exportEntity .record .plain other).members
    let injected := inject .record .plain record other
    let after := (exportEntity .record .plain injected.result).members
    injected.failure = none ∧ shape.SameMembers (shape.completed given before) after ∧
      (shape.SameMembers given after ↔ ∀ decl ∈ shape.nested,
        Conduct.stored given decl.field = .null → Conduct.stored before decl.field = .null) := by
  have conforms := reachable.conforms
  have fits := further.conforms
  have done := conforms.inject_goes built fits
  have changed : Entity.Conforms shape (inject .record .plain record other).result :=
    fits.populate .plain _
  have laid : shape.SameMembers (shape.completed record.members other.members)
      (inject .record .plain record other).result.members := by
    rw [← conforms.overlay_members fits built, ← members_exportEntity record]
    cases fits with
    | mk fits => exact Copying.fill_overlay built fits.length_eq.symm done
  intro given before injected after
  rw [show given = record.members from members_exportEntity record,
    show before = other.members from members_exportEntity other,
    show after = injected.result.members from members_exportEntity injected.result]
  exact ⟨done, laid, conforms.sameMembers_iff built (changed.nodup_members built) laid⟩

namespace Entity

/-- An order with a gift. -/
def giftOrder : Entity :=
  ⟨orderShape, [], [.one ⟨lineShape, [("qty", .string "one")], []⟩, .many []]⟩

/-- The order with a gift can be made by the operations of a record. -/
theorem giftOrder_reachable : Reachable orderShape giftOrder :=
  Reachable.fresh.edit []
    (.populate .plain (.object [("gift", .object [("qty", .string "one")])])) rfl

end Entity

/-- The order with a gift becomes a copy of itself where the filled order has none. -/
theorem inject_overlay_filledOrder :
    let record := Entity.filledOrder
    let other := Entity.giftOrder
    let injected := inject .record .plain record other
    Entity.orderShape.Built ∧ Entity.Reachable Entity.orderShape record ∧
      Entity.Reachable Entity.orderShape other ∧ injected.failure = none ∧
      Entity.orderShape.SameMembers
        [("id", .string "7"), ("gift", .object [("qty", .string "one")]),
          ("lines", .list [.object [("qty", .string "two")], .object [("qty", .null)]])]
        (exportEntity .record .plain injected.result).members := by
  intro record other injected
  have built := Entity.orderShape_built
  have reachable := Entity.filledOrder_reachable
  have further := Entity.giftOrder_reachable
  obtain ⟨done, laid, _⟩ := inject_overlay built reachable further
  exact ⟨built, reachable, further, done, laid⟩

/-- An order that is injected into one with a gift does not take the gift away. -/
theorem inject_keeps_child :
    let record := Entity.fresh Entity.orderShape
    let injected := inject .record .plain record Entity.giftOrder
    Entity.orderShape.Built ∧ Entity.Reachable Entity.orderShape record ∧
      Entity.Reachable Entity.orderShape Entity.giftOrder ∧ injected.failure = none ∧
      record.toValue .record = .object [("id", .null), ("gift", .null), ("lines", .list [])] ∧
      injected.result.toValue .record = .object
        [("id", .null), ("gift", .object [("qty", .string "one")]), ("lines", .list [])] ∧
      (injected.result.toValue .record).same (record.toValue .record) = false := by
  intro record injected
  refine ⟨Entity.orderShape_built, .fresh, Entity.giftOrder_reachable, rfl, rfl, rfl, ?_⟩
  rfl

end Scrutiny
