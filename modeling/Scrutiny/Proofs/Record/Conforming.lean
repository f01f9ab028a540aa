import Mathlib.Data.List.Forall2
import Scrutiny.Proofs.ErrorMap.Recording
import Scrutiny.Proofs.Walk.Ancestry
import Scrutiny.Populate

/-! # Records that conform to their shape

A record starts out fresh and is changed by writing values, by making, adding and dropping nested
records, and by copying objects into it, at its root or at any depth. Whatever is done, values stand
only under fields that its shape has, every field for nested entities holds what the shape declares,
and what it holds conforms as well (`Entity.Reachable.conforms`). So what is true of a shape and of
every shape nested in it is true of all shapes of a record (`Entity.Conforms.of_everywhere`).
-/

namespace Scrutiny

/-- A shape has a property, and so has every shape nested in it. -/
inductive Shape.Everywhere (property : Shape → Prop) : Shape → Prop
  | mk {shape : Shape} : property shape →
      (∀ nested ∈ shape.nested, Everywhere property nested.shape) → Everywhere property shape

/-- A shape that is built from built shapes. -/
def Shape.Built : Shape → Prop :=
  Shape.Everywhere fun shape => ∃ (decl : ShapeDecl) (registry : Registry),
    decl.build registry = .ok shape

/-- What a field for nested entities is declared to hold. -/
inductive Slot.Fits (conforms : Shape → Entity → Prop) : Nested Shape → Slot Entity → Prop
  | vacant {field : String} {shape : Shape} : Fits conforms ⟨field, .one, shape⟩ .vacant
  | one {field : String} {shape : Shape} {child : Entity} :
      conforms shape child → Fits conforms ⟨field, .one, shape⟩ (.one child)
  | many {field : String} {shape : Shape} {children : List Entity} :
      (∀ child ∈ children, conforms shape child) →
        Fits conforms ⟨field, .many, shape⟩ (.many children)

/-- Values stand only under fields that a shape declares or has rules for. -/
def Shape.Covers (shape : Shape) (values : Entries Value) : Prop :=
  ∀ field ∈ values.keys, shape.hasField field

/-- An entity is of a shape, every field for nested entities holds what the shape declares, and the
shape has a field for every value. -/
inductive Entity.Conforms : Shape → Entity → Prop
  | mk {shape : Shape} {values : Entries Value} {slots : List (Slot Entity)} :
      List.Forall₂ (Slot.Fits Conforms) shape.nested slots → shape.Covers values →
        Conforms shape ⟨shape, values, slots⟩

/-- A change of a record. -/
inductive Edit where
  | set (field : String) (value : Value)
  | resetChild (field : String)
  | pushChild (field : String)
  | clearChildren (field : String)
  | populate (converter : Converter) (source : Value)

/-- What a change leaves. A record that refuses it stays as it is. -/
def Edit.apply : Edit → Entity → Entity
  | set field value, record => (record.set .record field value).toOption.getD record
  | resetChild field, record => (record.resetChild? .record field).getD record
  | pushChild field, record => (record.pushChild? .record field).getD record
  | clearChildren field, record => record.clearChildren field
  | populate converter source, record => (Scrutiny.populate .record converter record source).result

/-- The records of a shape that changes lead to, each made at the root or at any depth. -/
inductive Entity.Reachable (shape : Shape) : Entity → Prop
  | fresh : Reachable shape (Entity.fresh shape)
  | edit {record changed : Entity} (steps : List Entity.Step) (change : Edit) :
      Reachable shape record →
        record.update? (fun inner => ((), change.apply inner)) steps = some ((), changed) →
          Reachable shape changed

/-- What a chain of steps gives is given by its last step. -/
theorem ok_of_bind {ε α β : Type} {first : Except ε α} {next : α → Except ε β} {result : β}
    (done : first >>= next = .ok result) :
    ∃ value, first = .ok value ∧ next value = .ok result := by
  cases first with
  | error error => exact absurd done (by simp [bind, Except.bind])
  | ok value => exact ⟨value, rfl, done⟩

section Lists

variable {α β : Type} {related : α → β → Prop} {firsts : List α} {seconds : List β}

/-- What stands at one position of related lists is related. -/
theorem forall₂_getElem? (all : List.Forall₂ related firsts seconds) {index : Nat} {first : α}
    {second : β} (one : firsts[index]? = some first) (other : seconds[index]? = some second) :
    related first second :=
  List.forall₂_zip all (List.mem_of_getElem? (List.getElem?_zip_eq_some.mpr ⟨one, other⟩))

/-- Related lists stay related with something related put in one place. -/
theorem forall₂_set (all : List.Forall₂ related firsts seconds) {index : Nat} {first : α}
    (one : firsts[index]? = some first) {second : β} (also : related first second) :
    List.Forall₂ related firsts (seconds.set index second) := by
  induction all generalizing index with
  | nil => exact absurd one (by simp)
  | cons head rest ih =>
    cases index with
    | zero =>
      obtain rfl := Option.some.inj one
      exact .cons also rest
    | succ index => exact .cons head (ih one)

end Lists

namespace Shape.Covers

variable {shape : Shape} {values : Entries Value}

theorem nil (shape : Shape) : shape.Covers [] :=
  fun _ member => absurd member List.not_mem_nil

/-- A value that is taken is written under a field of the shape. -/
theorem put (covers : shape.Covers values) {field : String} {value : Value}
    (taken : Conduct.record.accepts shape field value = .ok ()) :
    shape.Covers (values.put field value) := by
  have known : shape.hasField field := by
    by_contra unknown
    simp [Conduct.record, unknown] at taken
  intro name member
  obtain ⟨entry, listed, rfl⟩ := List.mem_map.mp member
  rcases Entries.mem_put listed with old | rfl
  · exact covers entry.1 (List.mem_map_of_mem old)
  · exact known

end Shape.Covers

namespace Entity

variable {shape : Shape} {entity : Entity}

namespace Conforms

/-- A record that conforms to a shape has this shape. -/
theorem shape_eq (conforms : Conforms shape entity) : entity.shape = shape := by
  cases conforms
  rfl

/-- The slots of such a record fit the fields that the shape declares, in order. -/
theorem slots (conforms : Conforms shape entity) :
    List.Forall₂ (Slot.Fits Conforms) shape.nested entity.slots := by
  cases conforms with
  | mk fits => exact fits

/-- Values stand under fields of the shape only. -/
theorem covers (conforms : Conforms shape entity) : shape.Covers entity.values := by
  cases conforms with
  | mk _ covers => exact covers

end Conforms

/-- A field found at a position is the one that the shape declares there. -/
theorem slotIndex?_eq_some {field : String} {index : Nat} {nested : Nested Shape}
    (found : entity.slotIndex? field = some (index, nested)) :
    entity.shape.nested[index]? = some nested ∧ nested.field = field := by
  obtain ⟨⟨decl, place⟩, first, same⟩ := Option.map_eq_some_iff.mp found
  obtain ⟨rfl, rfl⟩ := Prod.mk.inj same
  exact ⟨List.mem_zipIdx_iff_getElem?.mp (List.mem_of_find?_eq_some first),
    by simpa using List.find?_some first⟩

/-- The slot of a field is the one at the position of the field. -/
theorem slot?_eq_some {field : String} {slot : Slot Entity}
    (found : entity.slot? field = some slot) :
    ∃ index nested, entity.slotIndex? field = some (index, nested) ∧
      entity.slots[index]? = some slot := by
  obtain ⟨⟨index, nested⟩, place, filled⟩ := Option.bind_eq_some_iff.mp found
  exact ⟨index, nested, place, filled⟩

/-- A single nested entity is what its slot holds. -/
theorem child?_eq_some {field : String} {child : Entity}
    (found : entity.child? field = some child) :
    entity.slot? field = some (.one child) := by
  unfold child? at found
  split at found
  · next held => rw [held, Option.some.inj found]
  · exact absurd found (by simp)

/-- The elements of a field are those that its slot holds, if it holds a list. -/
theorem children_eq (entity : Entity) (field : String) :
    entity.children field = [] ∨ entity.slot? field = some (.many (entity.children field)) := by
  unfold children
  split
  · next held => exact .inr held
  · exact .inl rfl

namespace Conforms

/-- What a field holds is what is declared for it. -/
theorem fits (conforms : Conforms shape entity) {field : String} {index : Nat}
    {nested : Nested Shape} {slot : Slot Entity}
    (place : entity.slotIndex? field = some (index, nested))
    (held : entity.slot? field = some slot) : Slot.Fits Conforms nested slot := by
  obtain ⟨declared, _⟩ := slotIndex?_eq_some place
  obtain ⟨other, decl, found, filled⟩ := slot?_eq_some held
  obtain ⟨rfl, rfl⟩ := Prod.mk.inj (Option.some.inj (place.symm.trans found))
  rw [conforms.shape_eq] at declared
  exact forall₂_getElem? conforms.slots declared filled

/-- A record conforms still with a slot that fits in the place of another. -/
theorem putSlot (conforms : Conforms shape entity) {field : String} {index : Nat}
    {nested : Nested Shape} {slot : Slot Entity}
    (place : entity.slotIndex? field = some (index, nested))
    (fits : Slot.Fits Conforms nested slot) :
    Conforms shape (entity.putSlot index slot) := by
  obtain ⟨declared, _⟩ := slotIndex?_eq_some place
  cases conforms with
  | mk all covers => exact .mk (forall₂_set all declared fits) covers

/-- A fresh record conforms to its shape, whatever that is. -/
theorem fresh (shape : Shape) : Conforms shape (Entity.fresh shape) := by
  have empty (nested : Nested Shape) : Slot.Fits Conforms nested (emptySlot nested.nesting) := by
    obtain ⟨field, nesting, shape⟩ := nested
    cases nesting with
    | one => exact .vacant
    | many => exact .many fun _ member => absurd member List.not_mem_nil
  refine .mk (List.forall₂_map_right_iff.mpr ?_) (.nil shape)
  exact List.forall₂_same.mpr fun nested _ => empty nested

/-- The single entity of a field is of the shape that is declared for it. -/
theorem child (conforms : Conforms shape entity) {field : String} {index : Nat}
    {nested : Nested Shape} {child : Entity}
    (place : entity.slotIndex? field = some (index, nested))
    (held : entity.child? field = some child) :
    nested.nesting = .one ∧ Conforms nested.shape child := by
  cases conforms.fits place (child?_eq_some held) with
  | one fine => exact ⟨rfl, fine⟩

/-- Elements stand under fields that are declared for lists, and conform to the shape given there.
-/
theorem element (conforms : Conforms shape entity) {field : String} {index : Nat}
    {nested : Nested Shape} (place : entity.slotIndex? field = some (index, nested)) :
    ∀ child ∈ entity.children field, nested.nesting = .many ∧ Conforms nested.shape child := by
  intro child member
  rcases entity.children_eq field with none | held
  · rw [none] at member
    exact absurd member List.not_mem_nil
  · generalize entity.children field = children at member held
    cases conforms.fits place held with
    | many all => exact ⟨rfl, all child member⟩

theorem resetChild? {field : String} {changed : Entity} (conforms : Conforms shape entity)
    (done : entity.resetChild? .record field = some changed) : Conforms shape changed := by
  unfold Entity.resetChild? at done
  split at done
  · next index name inner place =>
    obtain rfl := Option.some.inj done
    exact conforms.putSlot place (.one (fresh inner))
  · exact absurd done (by simp)

theorem pushChild? {field : String} {changed : Entity} (conforms : Conforms shape entity)
    (done : entity.pushChild? .record field = some changed) : Conforms shape changed := by
  unfold Entity.pushChild? at done
  split at done
  · next index name inner place =>
    obtain rfl := Option.some.inj done
    refine conforms.putSlot place (.many fun child member => ?_)
    rcases List.mem_append.mp member with old | new
    · exact (conforms.element place child old).2
    · rw [List.mem_singleton.mp new]
      exact fresh inner
  · exact absurd done (by simp)

theorem clearChildren (field : String) (conforms : Conforms shape entity) :
    Conforms shape (entity.clearChildren field) := by
  unfold Entity.clearChildren
  split
  · next place =>
    exact conforms.putSlot place (.many fun _ member => absurd member List.not_mem_nil)
  · exact conforms

/-- A record with a value written conforms. -/
theorem set {field : String} {value : Value} {changed : Entity} (conforms : Conforms shape entity)
    (done : entity.set .record field value = .ok changed) : Conforms shape changed := by
  obtain ⟨_, taken, done⟩ := ok_of_bind done
  obtain rfl := Except.ok.inj done
  cases conforms with
  | mk fits covers => exact .mk fits (covers.put taken)

/-- A change at any depth that keeps records to their shapes keeps the whole record to its own. -/
theorem update? {α : Type} {change : Entity → α × Entity}
    (keeps : ∀ {shape entity}, Conforms shape entity → Conforms shape (change entity).2) :
    ∀ {steps : List Step} {shape : Shape} {entity changed : Entity} {result : α},
      Conforms shape entity → Entity.update? change steps entity = some (result, changed) →
        Conforms shape changed
  | [], _, entity, changed, _, conforms, done => by
    have same : (change entity).2 = changed := congrArg Prod.snd (Option.some.inj done)
    exact same ▸ keeps conforms
  | .child field :: rest, _, entity, _, _, conforms, done => by
    simp only [Entity.update?, Option.bind_eq_bind, Option.bind_eq_some_iff, Option.some.injEq,
      Prod.exists, Prod.mk.injEq] at done
    obtain ⟨index, nested, place, child, held, _, inner, below, rfl, rfl⟩ := done
    obtain ⟨name, nesting, shape⟩ := nested
    obtain ⟨rfl, fine⟩ := conforms.child place held
    exact conforms.putSlot place (.one (update? keeps fine below))
  | .element field position :: rest, _, entity, _, _, conforms, done => by
    simp only [Entity.update?, Option.bind_eq_bind, Option.bind_eq_some_iff, Option.some.injEq,
      Prod.exists, Prod.mk.injEq] at done
    obtain ⟨index, nested, place, child, listed, _, inner, below, rfl, rfl⟩ := done
    obtain ⟨name, nesting, shape⟩ := nested
    obtain ⟨rfl, fine⟩ := conforms.element place child (List.mem_of_getElem? listed)
    refine conforms.putSlot place (.many fun other member => ?_)
    rcases List.mem_or_eq_of_mem_set member with old | rfl
    · exact (conforms.element place other old).2
    · exact update? keeps fine below

end Conforms

end Entity

namespace Copying

/-- Copying values writes under fields of the shape only. -/
theorem fillFields_covers (converter : Converter) {shape : Shape} (level : Level)
    (fields : List String) {values : Entries Value} (covers : shape.Covers values) :
    shape.Covers (fillFields ⟨.record, converter⟩ shape level fields values).result := by
  fun_induction fillFields ⟨.record, converter⟩ shape level fields values with
  | case1 => exact covers
  | case2 _ _ _ _ _ _ _ _ ih => exact ih covers
  | case3 => exact covers
  | case4 _ _ _ _ _ _ _ _ taken ih => exact ih (covers.put taken)

/-- What is true of all that a level can be copied to is true of all elements that are made. -/
theorem forall_mem_fillElements {property : Entity → Prop} {fill : Level → Copied Entity}
    (each : ∀ level, property (fill level).result) (refusal : Option BindError)
    (source : Entries Value) (key : String) (index : Nat) (items : List Value) :
    ∀ child ∈ (fillElements fill refusal source key index items).result, property child := by
  fun_induction fillElements fill refusal source key index items with
  | case1 => exact fun _ member => absurd member List.not_mem_nil
  | case2 => exact fun _ member => absurd member List.not_mem_nil
  | case3 =>
    intro child member
    rw [List.mem_singleton.mp member]
    exact each _
  | case4 index members rest allowed _ _ ih =>
    subst allowed
    intro child member
    rcases List.mem_cons.mp member with rfl | later
    · exact each _
    · exact ih child later
  | case5 => exact fun _ member => absurd member List.not_mem_nil

variable (converter : Converter)

mutual

/-- Copying an object into a record that conforms, whole or up to where it fails, leaves one that
conforms. -/
theorem fill_conforms : ∀ (shape : Shape) (values : Entries Value) (slots : List (Slot Entity))
    (level : Level), Entity.Conforms shape ⟨shape, values, slots⟩ →
    Entity.Conforms shape (fill ⟨.record, converter⟩ shape values slots level).result
  | ⟨name, fields, labels, rules, nested⟩, values, slots, level, conforms => by
    have covers := fillFields_covers converter level fields conforms.covers
    rw [fill]
    split
    · exact .mk conforms.slots covers
    · exact .mk (fillSlots_fit name _ nested slots level conforms.slots) covers

theorem fillSlots_fit (entity : String) (nests : String → Bool) : ∀ (nested : List (Nested Shape))
    (slots : List (Slot Entity)) (level : Level),
    List.Forall₂ (Slot.Fits Entity.Conforms) nested slots →
    List.Forall₂ (Slot.Fits Entity.Conforms) nested
      (fillSlots ⟨.record, converter⟩ entity nests nested slots level).result
  | [], _, _, fits => by
    cases fits
    rw [fillSlots]
    · exact .nil
    · simp
  | nested :: others, slot :: slots, level, fits => by
    obtain ⟨first, rest⟩ := List.forall₂_cons.mp fits
    have own := fillSlot_fits entity nests nested slot level first
    rw [fillSlots]
    split
    · exact .cons own rest
    · exact .cons own (fillSlots_fit entity nests others slots level rest)

theorem fillSlot_fits (entity : String) (nests : String → Bool) : ∀ (nested : Nested Shape)
    (slot : Slot Entity) (level : Level), Slot.Fits Entity.Conforms nested slot →
    Slot.Fits Entity.Conforms nested
      (fillSlot ⟨.record, converter⟩ entity nests nested slot level).result
  | ⟨field, nesting, shape⟩, slot, level, fits => by
    have made (level : Level) : Entity.Conforms shape
        (fill ⟨.record, converter⟩ shape [] (Entity.fresh shape).slots level).result :=
      fill_conforms shape [] _ level (.fresh shape)
    cases enters : converter.enters level.path field with
    | false =>
      simp only [fillSlot, enters]
      exact fits
    | true =>
      simp only [fillSlot, enters, Bool.not_true, Bool.false_eq_true, ↓reduceIte]
      split
      · exact fits
      · exact fits
      · split
        · exact .one (made _)
        · exact fits
      · exact fits
      · exact .many (forall_mem_fillElements made _ _ _ _ _)
      · exact fits

end

end Copying

/-- A copy leaves a record that conforms, whether it fails or not. -/
theorem Entity.Conforms.populate {shape : Shape} {entity : Entity}
    (conforms : Entity.Conforms shape entity) (converter : Converter) (source : Value) :
    Entity.Conforms shape (Scrutiny.populate .record converter entity source).result := by
  obtain ⟨own, values, slots⟩ := entity
  obtain rfl := conforms.shape_eq
  unfold Scrutiny.populate
  split
  · exact Copying.fill_conforms converter own values slots _ conforms
  · exact conforms

/-- Whatever is done with a record that conforms, it conforms. -/
theorem Edit.apply_conforms (change : Edit) {shape : Shape} {record : Entity}
    (conforms : Entity.Conforms shape record) : Entity.Conforms shape (change.apply record) := by
  cases change with
  | set field value =>
    cases done : record.set .record field value with
    | error error => simpa [apply, done, Except.toOption] using conforms
    | ok changed => simpa [apply, done, Except.toOption] using conforms.set done
  | resetChild field =>
    cases done : record.resetChild? .record field with
    | none => simpa [apply, done] using conforms
    | some changed => simpa [apply, done] using conforms.resetChild? done
  | pushChild field =>
    cases done : record.pushChild? .record field with
    | none => simpa [apply, done] using conforms
    | some changed => simpa [apply, done] using conforms.pushChild? done
  | clearChildren field => exact conforms.clearChildren field
  | populate converter source => exact conforms.populate converter source

/-- Every field for nested entities of a record holds what its shape declares. -/
theorem Entity.Reachable.conforms {shape : Shape} {record : Entity}
    (reachable : Entity.Reachable shape record) : Entity.Conforms shape record := by
  induction reachable with
  | fresh => exact .fresh shape
  | edit steps change _ done ih =>
    exact ih.update? (fun conforms => change.apply_conforms conforms) done

namespace Shape.Everywhere

variable {property : Shape → Prop} {shape : Shape}

/-- What holds everywhere in a shape holds of the shape itself. -/
theorem here (everywhere : Everywhere property shape) : property shape := by
  cases everywhere
  assumption

/-- It holds everywhere in the shapes nested in it. -/
theorem nested (everywhere : Everywhere property shape) :
    ∀ nested ∈ shape.nested, Everywhere property nested.shape := by
  cases everywhere
  assumption

end Shape.Everywhere

namespace Shape.Built

variable {shape : Shape} (built : shape.Built)

include built

/-- The fields of a shape that is built all have different names. -/
theorem nodup_names : (shape.fields ++ shape.nested.map Nested.field).Nodup := by
  obtain ⟨decl, registry, made⟩ := built.here
  exact ShapeDecl.nodup_fields_of_build made

theorem nodup_fields : shape.fields.Nodup :=
  (List.nodup_append.mp built.nodup_names).1

theorem nodup_nested : (shape.nested.map Nested.field).Nodup :=
  (List.nodup_append.mp built.nodup_names).2.1

/-- No name is declared both for values and for nested entities. -/
theorem apart {field : String} (declared : field ∈ shape.fields) :
    field ∉ shape.nested.map Nested.field := by
  intro listed
  exact (List.nodup_append.mp built.nodup_names).2.2 _ declared _ listed rfl

end Shape.Built

mutual

/-- What is true of a shape and of every shape nested in it is true of all shapes of an entity. -/
theorem Entity.Conforms.of_everywhere {property : Shape → Prop} : ∀ {entity : Entity}
    {shape : Shape}, Entity.Conforms shape entity → shape.Everywhere property →
    ∀ inner ∈ entity.shapes, property inner
  | ⟨shape, values, slots⟩, _, conforms, everywhere, inner, member => by
    obtain rfl := conforms.shape_eq
    rcases List.mem_cons.mp member with rfl | below
    · exact everywhere.here
    · exact forall_mem_slotsShapes conforms.slots everywhere.nested inner below

/-- A property of all shapes of a declaration is one of all shapes in slots that fit it. -/
theorem forall_mem_slotsShapes {property : Shape → Prop} : ∀ {slots : List (Slot Entity)}
    {nested : List (Nested Shape)}, List.Forall₂ (Slot.Fits Entity.Conforms) nested slots →
    (∀ decl ∈ nested, decl.shape.Everywhere property) → ∀ inner ∈ slotsShapes slots, property inner
  | [], _, _, _, _, member => absurd member List.not_mem_nil
  | slot :: slots, nested :: others, fits, everywhere, inner, member => by
    obtain ⟨first, rest⟩ := List.forall₂_cons.mp fits
    rcases List.mem_append.mp member with own | later
    · exact forall_mem_slotShapes first (everywhere nested List.mem_cons_self) inner own
    · exact forall_mem_slotsShapes rest
        (fun decl member => everywhere decl (List.mem_cons_of_mem _ member)) inner later

theorem forall_mem_slotShapes {property : Shape → Prop} : ∀ {slot : Slot Entity}
    {nested : Nested Shape}, Slot.Fits Entity.Conforms nested slot →
    nested.shape.Everywhere property → ∀ inner ∈ slotShapes slot, property inner
  | .vacant, _, _, _, _, member => absurd member List.not_mem_nil
  | .one _, _, .one conforms, everywhere, inner, member =>
    conforms.of_everywhere everywhere inner member
  | .many _, _, .many all, everywhere, inner, member =>
    forall_mem_elementShapes all everywhere inner member

theorem forall_mem_elementShapes {property : Shape → Prop} : ∀ {children : List Entity}
    {shape : Shape}, (∀ child ∈ children, Entity.Conforms shape child) →
    shape.Everywhere property → ∀ inner ∈ elementShapes children, property inner
  | [], _, _, _, _, member => absurd member List.not_mem_nil
  | child :: children, _, all, everywhere, inner, member => by
    rcases List.mem_append.mp member with own | later
    · exact (all child List.mem_cons_self).of_everywhere everywhere inner own
    · exact forall_mem_elementShapes (fun other member => all other (List.mem_cons_of_mem _ member))
        everywhere inner later

end

end Scrutiny
