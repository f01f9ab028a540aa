import Scrutiny.Proofs.Record.Overlay

/-! # What a copy spares

A converter that excludes some names spares the fields of these names: in a record they are as they
were before the copy, values and nested entities alike. A single entity under another field is kept
whole if the source has nothing there. If the source has an object, a fresh entity takes its place,
so what the old one had under the names is lost; the fresh one, and everything in it, is without
them (`populate_spares`).
-/

namespace Scrutiny

/-- The entities that a slot holds have a property. -/
inductive Slot.All (property : Entity → Prop) : Slot Entity → Prop
  | vacant : All property .vacant
  | one {child : Entity} : property child → All property (.one child)
  | many {children : List Entity} :
      (∀ child ∈ children, property child) → All property (.many children)

/-- What a field for nested entities holds is nothing if the field has one of some names. -/
def Slot.LacksAt (names : List String) (nested : Nested Shape) (slot : Slot Entity) : Prop :=
  nested.field ∈ names → slot = Entity.emptySlot nested.nesting

/-- An entity has nothing in the fields of some names, and neither has any entity nested in it. -/
inductive Entity.Lacks (names : List String) : Entity → Prop
  | mk {shape : Shape} {values : Entries Value} {slots : List (Slot Entity)} :
      (∀ name ∈ names, Conduct.stored values name = .null) →
      List.Forall₂ (Slot.LacksAt names) shape.nested slots →
      (∀ slot ∈ slots, Slot.All (Lacks names) slot) → Lacks names ⟨shape, values, slots⟩

/-- An empty slot holds nothing that could fail to have a property. -/
theorem Slot.all_empty (property : Entity → Prop) (nesting : Nesting) :
    Slot.All property (Entity.emptySlot nesting) := by
  cases nesting with
  | one => exact .vacant
  | many => exact .many fun _ member => absurd member List.not_mem_nil

theorem Entity.fresh_lacks (names : List String) (shape : Shape) :
    (Entity.fresh shape).Lacks names := by
  have empty (nested : Nested Shape) :
      Slot.LacksAt names nested (Entity.emptySlot nested.nesting) := fun _ => rfl
  refine .mk (fun _ _ => rfl) ?_ fun slot member => ?_
  · exact List.forall₂_map_right_iff.mpr (List.forall₂_same.mpr fun nested _ => empty nested)
  · obtain ⟨nested, _, rfl⟩ := List.mem_map.mp member
    exact Slot.all_empty _ _

namespace Converter

variable {names : List String} (inner : Converter)

theorem convert_excluded {binding : Binding} (excluded : binding.field ∈ names) :
    (excluding names inner).convert binding = binding.previous :=
  if_pos (List.contains_iff_mem.mpr excluded)

theorem enters_excluded (path : String) {field : String} (excluded : field ∈ names) :
    (excluding names inner).enters path field = false := by
  simp [enters, excluded]

end Converter

section Passing

variable {converter : Converter} {level : Level}

/-- A field keeps its value if the converter gives the value before. -/
theorem Copying.Takes.stored_eq {fields : List String} {before after : Entries Value}
    (takes : Takes converter level fields before after) {name : String}
    (same : ∀ previous, converter.convert (level.binding name previous) = previous) :
    Conduct.stored after name = Conduct.stored before name := by
  by_cases declared : name ∈ fields
  · rw [takes.field name declared, same, Value.writtenOver_self]
  · exact Conduct.stored_congr (takes.other name declared)

/-- A field for nested entities holds what it held if the converter does not enter it. -/
theorem SlotFilled.eq_of_passed {nested : Nested Shape} {slot filled : Slot Entity}
    (fills : SlotFilled converter level nested slot filled)
    (passed : converter.enters level.path nested.field = false) : filled = slot := by
  cases fills with
  | passed => rfl
  | absent => rfl
  | one enters => exact absurd (passed.symm.trans enters) (by simp)
  | many enters => exact absurd (passed.symm.trans enters) (by simp)

theorem SlotsFilled.getElem? : ∀ {nested : List (Nested Shape)} {slots filled : List (Slot Entity)},
    SlotsFilled converter level nested slots filled → ∀ {index : Nat} {decl : Nested Shape},
      nested[index]? = some decl → ∃ slot left, slots[index]? = some slot ∧
        filled[index]? = some left ∧ SlotFilled converter level decl slot left
  | _, _, _, .nil, _, _, declared => absurd declared (by simp)
  | _, _, _, .cons fills rest, index, decl, declared => by
    cases index with
    | zero =>
      obtain rfl := Option.some.inj declared
      exact ⟨_, _, rfl, rfl, fills⟩
    | succ index => exact rest.getElem? declared

/-- The slot of a field is the one at its position. -/
theorem Entity.slot?_eq_getElem? {entity : Entity} {field : String} {index : Nat}
    {nested : Nested Shape} (place : entity.slotIndex? field = some (index, nested)) :
    entity.slot? field = entity.slots[index]? := by
  rw [Entity.slot?, place]
  rfl

/-- A slot with a single entity is the single entity of its field. -/
theorem Entity.child?_of_slot? {entity child : Entity} {field : String}
    (held : entity.slot? field = some (.one child)) : entity.child? field = some child := by
  rw [Entity.child?, held]

namespace Entity.Filled

variable {entity after : Entity} (filled : Entity.Filled converter level entity after)

include filled

theorem shape_eq : after.shape = entity.shape := by
  cases filled
  rfl

/-- Filling leaves the positions of fields as they are. -/
theorem slotIndex?_eq (field : String) : after.slotIndex? field = entity.slotIndex? field := by
  cases filled
  rfl

/-- What a declared field holds after a copy is made from what it held before. -/
theorem slot? {field : String} {index : Nat} {nested : Nested Shape}
    (place : entity.slotIndex? field = some (index, nested)) :
    ∃ slot left, entity.slot? field = some slot ∧ after.slot? field = some left ∧
      SlotFilled converter level nested slot left := by
  have also := (filled.slotIndex?_eq field).trans place
  obtain ⟨declared, _⟩ := slotIndex?_eq_some place
  rw [slot?_eq_getElem? place, slot?_eq_getElem? also]
  cases filled with
  | mk _ fills => exact fills.getElem? declared

/-- The fields take what the converter gives for them. -/
theorem takes : Copying.Takes converter level entity.shape.fields entity.values after.values := by
  cases filled with
  | mk takes _ => exact takes

/-- What a field holds that the converter does not enter is as it was. -/
theorem slot?_eq_of_passed {name : String} (passed : converter.enters level.path name = false) :
    after.slot? name = entity.slot? name := by
  cases place : entity.slotIndex? name with
  | none =>
    have also := (filled.slotIndex?_eq name).trans place
    rw [Entity.slot?, also, Entity.slot?, place]
    rfl
  | some found =>
    obtain ⟨index, nested⟩ := found
    obtain ⟨slot, left, before, later, fills⟩ := filled.slot? place
    rw [before, later, fills.eq_of_passed ((slotIndex?_eq_some place).2 ▸ passed)]

/-- A field that the converter does not change is as it was, its value and what it holds. -/
theorem keeps {name : String}
    (same : ∀ previous, converter.convert (level.binding name previous) = previous)
    (passed : converter.enters level.path name = false) :
    Conduct.stored after.values name = Conduct.stored entity.values name ∧
      after.slot? name = entity.slot? name :=
  ⟨filled.takes.stored_eq same, filled.slot?_eq_of_passed passed⟩

end Entity.Filled

end Passing

section Excluding

variable {names : List String}

/-- Slots that lack the names lack them when they have been filled. -/
theorem SlotsFilled.empty : ∀ {level : Level} {nested : List (Nested Shape)}
    {slots filled : List (Slot Entity)},
    SlotsFilled (.excluding names .plain) level nested slots filled →
    List.Forall₂ (Slot.LacksAt names) nested slots → List.Forall₂ (Slot.LacksAt names) nested filled
  | _, _, _, _, .nil, _ => .nil
  | _, _, _, _, .cons fills rest, .cons first others =>
    .cons (fun excluded =>
        (fills.eq_of_passed (Converter.enters_excluded .plain _ excluded)).trans (first excluded))
      (rest.empty others)

mutual

/-- An entity without some fields is without them after a copy that excludes their names. -/
theorem Entity.Filled.lacks : ∀ {level : Level} {entity after : Entity},
    Entity.Filled (.excluding names .plain) level entity after → entity.Lacks names →
      after.Lacks names
  | _, _, _, .mk takes fills, .mk null empty all =>
    have kept name excluded :=
      (takes.stored_eq fun _ => Converter.convert_excluded .plain excluded).trans
        (null name excluded)
    .mk kept (fills.empty empty) (fills.lacks all)

/-- What slots hold lacks the names when they have been filled. -/
theorem SlotsFilled.lacks : ∀ {level : Level} {nested : List (Nested Shape)}
    {slots filled : List (Slot Entity)},
    SlotsFilled (.excluding names .plain) level nested slots filled →
    (∀ slot ∈ slots, Slot.All (Entity.Lacks names) slot) →
      ∀ slot ∈ filled, Slot.All (Entity.Lacks names) slot
  | _, _, _, _, .nil, _ => fun _ member => absurd member List.not_mem_nil
  | _, _, _, _, .cons fills rest, all =>
    List.forall_mem_cons.mpr ⟨fills.lacks (all _ List.mem_cons_self),
      rest.lacks fun slot member => all slot (List.mem_cons_of_mem _ member)⟩

/-- What a slot holds lacks the names when it has been filled. -/
theorem SlotFilled.lacks : ∀ {level : Level} {nested : Nested Shape} {slot filled : Slot Entity},
    SlotFilled (.excluding names .plain) level nested slot filled →
    Slot.All (Entity.Lacks names) slot → Slot.All (Entity.Lacks names) filled
  | _, _, _, _, .passed _, all => all
  | _, _, _, _, .absent _, all => all
  | _, _, _, _, .one _ _ filled, _ => .one (filled.lacks (Entity.fresh_lacks names _))
  | _, _, _, _, .many _ _ filled, _ => .many filled.lacks

theorem ElementsFilled.lacks : ∀ {source : Entries Value} {key : String} {shape : Shape}
    {index : Nat} {items : List Value} {children : List Entity},
    ElementsFilled (.excluding names .plain) source key shape index items children →
      ∀ child ∈ children, child.Lacks names
  | _, _, _, _, _, _, .nil => fun _ member => absurd member List.not_mem_nil
  | _, _, _, _, _, _, .cons filled rest =>
    List.forall_mem_cons.mpr ⟨filled.lacks (Entity.fresh_lacks names _), rest.lacks⟩

end

/-- A single entity under another field is kept whole, or a fresh one takes its place. -/
theorem Entity.Filled.child? {level : Level} {entity after : Entity}
    (filled : Entity.Filled (.excluding names .plain) level entity after) {shape : Shape}
    (conforms : Entity.Conforms shape entity) {field : String} {child : Entity}
    (included : field ∉ names) (held : entity.child? field = some child) :
    Conduct.stored level.source field = .null ∧ after.child? field = some child ∨
      ∃ inner made, level.source.get? field = some (.object inner) ∧
        after.child? field = some made ∧ made.shape = child.shape ∧ made.Lacks names := by
  have single := child?_eq_some held
  obtain ⟨index, nested, place, _⟩ := slot?_eq_some single
  obtain ⟨one, fits⟩ := conforms.child place held
  obtain ⟨slot, left, before, later, fills⟩ := filled.slot? place
  obtain rfl := Option.some.inj (before.symm.trans single)
  obtain ⟨_, rfl⟩ := slotIndex?_eq_some place
  cases fills with
  | passed never => exact absurd never (by simpa [Converter.enters] using included)
  | absent nothing => exact .inl ⟨nothing, child?_of_slot? later⟩
  | one _ object made =>
    refine .inr ⟨_, _, object, child?_of_slot? later, ?_, made.lacks (fresh_lacks names _)⟩
    exact made.shape_eq.trans fits.shape_eq.symm
  | many => exact absurd one (by simp)

end Excluding

/-- **What a copy spares.** Let an object be copied into a record of a built shape, whatever changes
have led to it, by a converter that excludes some names, and let the copy go through. Then the
fields of these names have the values and hold the entities that they had and held before. Another
field that holds a single entity keeps it, whole, if the source has nothing or null there. If the
source has an object there, an entity of the same shape takes its place that has nothing under these
names, and neither has anything in it. -/
theorem populate_spares {shape : Shape} {record : Entity} (built : shape.Built)
    (reachable : Entity.Reachable shape record) {names : List String} {members : Entries Value}
    (done : (populate .record (.excluding names .plain) record (.object members)).failure = none) :
    let after := (populate .record (.excluding names .plain) record (.object members)).result
    (∀ name ∈ names, Conduct.stored after.values name = Conduct.stored record.values name ∧
        after.slot? name = record.slot? name) ∧
      ∀ field child, field ∉ names → record.child? field = some child →
        Conduct.stored members field = .null ∧ after.child? field = some child ∨
          ∃ inner made, members.get? field = some (.object inner) ∧
            after.child? field = some made ∧ made.shape = child.shape ∧ made.Lacks names := by
  intro after
  have filled := populate_filled built reachable done
  refine ⟨fun name excluded => ?_,
    fun _ _ included held => filled.child? reachable.conforms included held⟩
  exact filled.keeps (fun _ => Converter.convert_excluded .plain excluded)
    (Converter.enters_excluded .plain _ excluded)

/-- The lines of an order are spared, and the gift that it is given anew has no quantity. -/
theorem populate_spares_giftOrder :
    let record := Entity.giftOrder
    let names := ["lines", "qty"]
    let members := [("gift", Value.object [("qty", .string "two")]), ("lines", .list [.object []])]
    let copied := populate .record (.excluding names .plain) record (.object members)
    Entity.orderShape.Built ∧ Entity.Reachable Entity.orderShape record ∧ copied.failure = none ∧
      "lines" ∈ names ∧ copied.result.slot? "lines" = record.slot? "lines" ∧ "gift" ∉ names ∧
      (record.child? "gift").isSome ∧
      ∃ made, copied.result.child? "gift" = some made ∧ made.Lacks names := by
  intro record names members copied
  have built := Entity.orderShape_built
  have reachable := Entity.giftOrder_reachable
  have done : copied.failure = none := rfl
  have excluded : "lines" ∈ names := List.mem_cons_self
  have included : "gift" ∉ names := by decide
  obtain ⟨spared, replaced⟩ := populate_spares built reachable done
  have made : ∃ made, copied.result.child? "gift" = some made ∧ made.Lacks names := by
    rcases replaced "gift" _ included rfl with ⟨nothing, _⟩ | ⟨_, made, _, held, _, lacks⟩
    · exact absurd nothing (by simp [members, Conduct.stored, Entries.get?])
    · exact ⟨made, held, lacks⟩
  exact ⟨built, reachable, done, excluded, (spared "lines" excluded).2, included, rfl, made⟩

/-- The gift of an order loses its quantity, an excluded field, when the source has another gift. -/
theorem populate_loses_excluded :
    let record := Entity.giftOrder
    let source := Value.object [("gift", .object [])]
    let copied := populate .record (.excluding ["qty"] .plain) record source
    let quantity (order : Entity) :=
      (order.child? "gift").map fun gift => Conduct.stored gift.values "qty"
    Entity.orderShape.Built ∧ Entity.Reachable Entity.orderShape record ∧ copied.failure = none ∧
      "gift" ∉ ["qty"] ∧ quantity record = some (.string "one") ∧
      quantity copied.result = some .null :=
  ⟨Entity.orderShape_built, Entity.giftOrder_reachable, rfl, by decide, rfl, rfl⟩

end Scrutiny
