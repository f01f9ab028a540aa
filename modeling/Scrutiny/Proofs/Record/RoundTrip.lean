import Scrutiny.Export
import Scrutiny.Proofs.ErrorMap.Recording
import Scrutiny.Proofs.Record.Mirroring

/-! # Exporting a record and copying it back

A record mirrors the object it is exported to. An object that some record of a shape mirrors can be
copied into a fresh record of the shape, and this agrees with the first in every declared value, in
which nested entities there are and in the numbers of elements, at all depths. Records that agree
are exported to the same object by every converter. So exporting a record that changes have led to
and copying the object back gives the record again, values that its shape does not declare left
aside (`populate_toValue`).
-/

namespace Scrutiny

/-- Two fields for nested entities hold as many entities, which agree one by one. -/
inductive Slot.Agrees (agree : Entity → Entity → Prop) : Slot Entity → Slot Entity → Prop
  | vacant : Agrees agree .vacant .vacant
  | one {child other : Entity} : agree child other → Agrees agree (.one child) (.one other)
  | many {children others : List Entity} :
      List.Forall₂ agree children others → Agrees agree (.many children) (.many others)

/-- Two entities have the same shape, the same values in its fields, and nested entities that agree.
A value that is not set counts as null. -/
inductive Entity.Agrees : Entity → Entity → Prop
  | mk {shape : Shape} {values others : Entries Value} {slots further : List (Slot Entity)} :
      (∀ field ∈ shape.fields, Conduct.stored values field = Conduct.stored others field) →
      List.Forall₂ (Slot.Agrees Agrees) slots further →
      Agrees ⟨shape, values, slots⟩ ⟨shape, others, further⟩

/-- Records that agree show the same values in declared fields. -/
theorem Entity.Agrees.values {entity other : Entity} (agrees : entity.Agrees other) :
    ∀ field ∈ entity.shape.fields,
      Conduct.stored entity.values field = Conduct.stored other.values field := by
  cases agrees
  assumption

namespace Exporting

section Agreement

variable (converter : Converter)

mutual

/-- Entities that agree are exported to the same object. -/
theorem exportAt_congr : ∀ {entity other : Entity}, entity.Agrees other →
    ∀ (path : String) (parent : Option (Entries Value)),
    exportAt .record converter entity path parent = exportAt .record converter other path parent
  | ⟨shape, values, slots⟩, _, .mk values_eq slots_agree, path, parent => by
    have raw := List.map_congr_left fun field member =>
      congrArg (Prod.mk field) (values_eq field member)
    have shown (values : Entries Value) : Conduct.record.shows values = Conduct.stored values := rfl
    rw [exportAt, exportAt]
    simp only [shown, raw, exportSlots_congr slots_agree]

theorem exportSlots_congr : ∀ {slots others : List (Slot Entity)},
    List.Forall₂ (Slot.Agrees Entity.Agrees) slots others →
    ∀ (nested : List (Nested Shape)) (level : Level),
    exportSlots .record converter nested slots level =
      exportSlots .record converter nested others level
  | [], [], _, nested, level => rfl
  | slot :: slots, other :: others, agree, [], level => by simp only [exportSlots]
  | slot :: slots, other :: others, agree, ⟨field, nesting, shape⟩ :: nested, level => by
    obtain ⟨first, rest⟩ := List.forall₂_cons.mp agree
    rw [exportSlots, exportSlots, exportSlot_congr first, exportSlots_congr rest]

/-- A slot is exported as one that agrees with it. -/
theorem exportSlot_congr : ∀ {slot other : Slot Entity}, Slot.Agrees Entity.Agrees slot other →
    ∀ (key : String) (raw : Entries Value),
    exportSlot .record converter slot key raw = exportSlot .record converter other key raw
  | .vacant, _, .vacant, _, _ => rfl
  | .one _, _, .one agree, key, raw => by
    rw [exportSlot, exportSlot, exportAt_congr agree]
  | .many _, _, .many agree, key, raw => by
    rw [exportSlot, exportSlot, exportElements_congr agree]

theorem exportElements_congr : ∀ {children others : List Entity},
    List.Forall₂ Entity.Agrees children others →
    ∀ (key : String) (index : Nat) (raw : Entries Value),
    exportElements .record converter children key index raw =
      exportElements .record converter others key index raw
  | [], [], _, _, _, _ => rfl
  | child :: children, other :: others, agree, key, index, raw => by
    obtain ⟨first, rest⟩ := List.forall₂_cons.mp agree
    rw [exportElements, exportElements, exportAt_congr first, exportElements_congr rest]

end

end Agreement

/-- The fields of a shape are exported with their values. -/
theorem exportFields_plain (values : Entries Value) (path : String)
    (parent : Option (Entries Value)) (fields shown : List String)
    (known : ∀ field ∈ shown, field ∈ fields) :
    (exportFields .plain
        ⟨fields.map fun field => (field, Conduct.stored values field), path, parent⟩
        shown).members =
      shown.map fun field => (field, Conduct.stored values field) := by
  induction shown with
  | nil => rfl
  | cons first rest ih =>
    have here := Entries.get?_map (Conduct.stored values) (known first List.mem_cons_self)
    have later := ih fun field member => known field (List.mem_cons_of_mem _ member)
    simp only [exportFields, Converter.enters, Converter.convert, ↓reduceIte, later, here,
      Option.getD_some, List.map_cons]

/-- The members of an entity are those of its fields, and what is nested in it. -/
theorem members_exportAt (shape : Shape) (values : Entries Value) (slots : List (Slot Entity))
    (path : String) (parent : Option (Entries Value)) :
    ∃ level, (exportAt .record .plain ⟨shape, values, slots⟩ path parent).members =
      (shape.fields.map fun field => (field, Conduct.stored values field)) ++
        (exportSlots .record .plain shape.nested slots level).members :=
  ⟨_, congrArg (· ++ _) (exportFields_plain values path parent _ _ fun _ member => member)⟩

mutual

/-- An entity mirrors the object it is exported to. -/
theorem mirrors_exportAt : ∀ {entity : Entity} {shape : Shape}, Entity.Conforms shape entity →
    shape.Built → ∀ (path : String) (parent : Option (Entries Value)),
    entity.Mirrors (exportAt .record .plain entity path parent).members
  | ⟨shape, values, slots⟩, _, .mk fits _, built, path, parent => by
    obtain ⟨level, members⟩ := members_exportAt shape values slots path parent
    have named : Entries.keys (shape.fields.map fun field =>
        (field, Conduct.stored values field)) = shape.fields := by
      rw [Entries.keys, List.map_map]
      exact List.map_id _
    have beside (decl : Nested Shape) (listed : decl ∈ shape.nested) : Entries.get?
        (shape.fields.map fun field => (field, Conduct.stored values field)) decl.field = none := by
      refine Entries.get?_eq_none_iff.mpr fun found => ?_
      rw [named] at found
      exact built.apart found (List.mem_map_of_mem listed)
    rw [members]
    refine .mk (fun field member => ?_) ?_
    · have found := Entries.get?_map (Conduct.stored values) member
      rw [Conduct.stored, Conduct.stored, Entries.get?_append, found]
      rfl
    · rw [List.map_congr_left fun decl listed => show Conduct.stored _ decl.field = _ by
        rw [Conduct.stored, Entries.get?_append, beside decl listed, Option.none_or]]
      exact mirror_exportSlots fits built.nested built.nodup_nested level

/-- Slots mirror what they are exported to, field by field. -/
theorem mirror_exportSlots : ∀ {slots : List (Slot Entity)} {nested : List (Nested Shape)},
    List.Forall₂ (Slot.Fits Entity.Conforms) nested slots → (∀ decl ∈ nested, decl.shape.Built) →
    (nested.map Nested.field).Nodup → ∀ level : Level,
    List.Forall₂ (Slot.Mirrors Entity.Mirrors) slots (nested.map fun decl =>
      Conduct.stored (exportSlots .record .plain nested slots level).members decl.field)
  | [], [], _, _, _, _ => .nil
  | slot :: slots, ⟨field, nesting, shape⟩ :: nested, fits, built, distinct, level => by
    obtain ⟨first, rest⟩ := List.forall₂_cons.mp fits
    obtain ⟨apart, distinct⟩ := List.nodup_cons.mp distinct
    have own := mirrors_exportSlot first (built _ List.mem_cons_self)
      (Path.fieldKey level.path field) level.source
    have others := mirror_exportSlots rest
      (fun decl member => built decl (List.mem_cons_of_mem _ member)) distinct level
    have members : (exportSlots .record .plain (⟨field, nesting, shape⟩ :: nested) (slot :: slots)
        level).members =
          (field,
              (exportSlot .record .plain slot (Path.fieldKey level.path field) level.source).1) ::
            (exportSlots .record .plain nested slots level).members := by
      rw [exportSlots]
      rfl
    rw [members]
    refine .cons ?_ ?_
    · simpa only [Conduct.stored, Entries.get?, ↓reduceIte, Option.getD_some] using own
    · have skip (decl : Nested Shape) (listed : decl ∈ nested) : field ≠ decl.field :=
        fun same => apart (List.mem_map.mpr ⟨decl, listed, same.symm⟩)
      rw [List.map_congr_left fun decl listed => show Conduct.stored _ decl.field = _ by
        rw [Conduct.stored, Entries.get?, if_neg (skip decl listed), ← Conduct.stored]]
      exact others

theorem mirrors_exportSlot : ∀ {slot : Slot Entity} {nested : Nested Shape},
    Slot.Fits Entity.Conforms nested slot → nested.shape.Built →
    ∀ (key : String) (raw : Entries Value),
    Slot.Mirrors Entity.Mirrors slot (exportSlot .record .plain slot key raw).1
  | .vacant, _, _, _, _, _ => .vacant
  | .one child, _, .one conforms, built, key, raw => by
    rw [exportSlot]
    exact .one (mirrors_exportAt conforms built key _)
  | .many children, _, .many all, built, key, raw => by
    obtain ⟨inner, mirror, items⟩ := mirror_exportElements all built key 0 raw
    change Slot.Mirrors _ _ (.list (exportElements .record .plain children key 0 raw).1)
    rw [items]
    exact .many mirror

/-- Elements mirror the objects that they are exported to. -/
theorem mirror_exportElements : ∀ {children : List Entity} {shape : Shape},
    (∀ child ∈ children, Entity.Conforms shape child) → shape.Built →
    ∀ (key : String) (index : Nat) (raw : Entries Value), ∃ inner : List (Entries Value),
      List.Forall₂ Entity.Mirrors children inner ∧
        (exportElements .record .plain children key index raw).1 = inner.map Value.object
  | [], _, _, _, _, _, _ => ⟨[], .nil, rfl⟩
  | child :: children, _, all, built, key, index, raw => by
    have first := mirrors_exportAt (all child List.mem_cons_self) built
      (Path.elementKey key index) (some raw)
    obtain ⟨inner, mirror, items⟩ := mirror_exportElements
      (fun other member => all other (List.mem_cons_of_mem _ member)) built key (index + 1) raw
    refine ⟨_ :: inner, .cons first mirror, ?_⟩
    rw [List.map_cons, ← items]
    rfl

end

end Exporting

namespace Copying

section Fields

variable {name field : String} {nesting : Nesting} {shape : Shape} {level : Level}

/-- Null, and a member that is missing, leave a field for nested entities as it is. -/
theorem fillSlot_of_null (slot : Slot Entity) (absent : Conduct.stored level.source field = .null) :
    fillSlot ⟨.record, .plain⟩ name (fun _ => true) ⟨field, nesting, shape⟩ slot level =
      ⟨slot, [], none⟩ := by
  cases found : level.source.get? field with
  | none =>
    simp only [fillSlot, Converter.enters, found]
    rfl
  | some value =>
    rw [Conduct.stored, found] at absent
    obtain rfl : value = .null := absent
    simp only [fillSlot, Converter.enters, found]
    rfl

/-- An object is copied into a fresh entity, which takes the place of the old one. -/
theorem fillSlot_object (slot : Slot Entity) {members : Entries Value}
    (held : Conduct.stored level.source field = .object members) :
    fillSlot ⟨.record, .plain⟩ name (fun _ => true) ⟨field, .one, shape⟩ slot level =
      (fill ⟨.record, .plain⟩ shape [] (Entity.fresh shape).slots
        ⟨members, Path.fieldKey level.path field, some level.source⟩).map Slot.one := by
  have found := Conduct.get?_of_stored held (by simp)
  simp only [fillSlot, Converter.enters, found]
  rfl

/-- A list is copied into fresh elements, which take the place of the old ones. -/
theorem fillSlot_list (slot : Slot Entity) {items : List Value}
    (held : Conduct.stored level.source field = .list items) :
    fillSlot ⟨.record, .plain⟩ name (fun _ => true) ⟨field, .many, shape⟩ slot level =
      (fillElements (fill ⟨.record, .plain⟩ shape [] (Entity.fresh shape).slots) none level.source
        (Path.fieldKey level.path field) 0 items).map Slot.many := by
  have found := Conduct.get?_of_stored held (by simp)
  simp only [fillSlot, Converter.enters, found]
  rfl

end Fields

/-- Copying gives an entity that agrees, and does not fail. -/
def Gives {α : Type} (agree : α → α → Prop) (copied : Copied α) (aim : α) : Prop :=
  copied.failure = none ∧ agree copied.result aim

/-- A copy of what elements mirror agrees with them. -/
theorem fillElements_agree {shape : Shape} {fill : Level → Copied Entity}
    (each : ∀ {child : Entity} (level : Level), Entity.Conforms shape child →
      child.Mirrors level.source → Gives Entity.Agrees (fill level) child)
    {children : List Entity} {items : List (Entries Value)}
    (mirror : List.Forall₂ Entity.Mirrors children items)
    (conform : ∀ child ∈ children, Entity.Conforms shape child) (source : Entries Value)
    (key : String) (index : Nat) :
    Gives (List.Forall₂ Entity.Agrees)
      (fillElements fill none source key index (items.map Value.object)) children := by
  induction mirror generalizing index with
  | nil => exact ⟨rfl, .nil⟩
  | @cons child members children items first _ ih =>
    obtain ⟨goes, agrees⟩ := each ⟨members, Path.elementKey key index, some source⟩
      (conform child List.mem_cons_self) first
    obtain ⟨done, agree⟩ := ih (fun other member => conform other (List.mem_cons_of_mem _ member))
      (index + 1)
    simp only [List.map_cons, fillElements, goes]
    exact ⟨done, .cons agrees agree⟩

mutual

/-- An object that a record mirrors can be copied into a fresh record of its shape, which then
agrees with it. -/
theorem fill_agrees : ∀ (shape : Shape) {entity : Entity} (level : Level),
    Entity.Conforms shape entity → entity.Mirrors level.source →
    Gives Entity.Agrees (fill ⟨.record, .plain⟩ shape [] (Entity.fresh shape).slots level) entity
  | ⟨name, fields, labels, rules, nested⟩, _, level, .mk fits _, .mk values mirror => by
    obtain ⟨goes, held⟩ := fillFields_fresh ⟨name, fields, labels, rules, nested⟩ level
    obtain ⟨done, agree⟩ := fillSlots_agree name nested fits mirror
    simp only [Gives, Entity.fresh, fill, goes]
    exact ⟨done,
      .mk (fun field member => (held field member).trans (values field member).symm) agree⟩

/-- A copy of what slots mirror into empty ones agrees with them. -/
theorem fillSlots_agree (name : String) : ∀ (nested : List (Nested Shape))
    {slots : List (Slot Entity)} {level : Level},
    List.Forall₂ (Slot.Fits Entity.Conforms) nested slots →
    List.Forall₂ (Slot.Mirrors Entity.Mirrors) slots
      (nested.map fun nested => Conduct.stored level.source nested.field) →
    Gives (List.Forall₂ (Slot.Agrees Entity.Agrees))
      (fillSlots ⟨.record, .plain⟩ name (fun _ => true) nested
        (nested.map fun nested => Entity.emptySlot nested.nesting) level) slots
  | [], [], _, _, _ => by
    simp only [List.map_nil, fillSlots]
    exact ⟨rfl, .nil⟩
  | nested :: others, slot :: slots, level, fits, mirror => by
    obtain ⟨fit, rest⟩ := List.forall₂_cons.mp fits
    obtain ⟨first, mirrors⟩ := List.forall₂_cons.mp mirror
    obtain ⟨goes, agrees⟩ := fillSlot_agrees name nested fit first
    obtain ⟨done, agree⟩ := fillSlots_agree name others rest mirrors
    simp only [List.map_cons, fillSlots, goes]
    exact ⟨done, .cons agrees agree⟩

/-- A copy of what a slot mirrors into an empty one agrees with it. -/
theorem fillSlot_agrees (name : String) : ∀ (nested : Nested Shape) {slot : Slot Entity}
    {level : Level}, Slot.Fits Entity.Conforms nested slot →
    Slot.Mirrors Entity.Mirrors slot (Conduct.stored level.source nested.field) →
    Gives (Slot.Agrees Entity.Agrees)
      (fillSlot ⟨.record, .plain⟩ name (fun _ => true) nested
        (Entity.emptySlot nested.nesting) level) slot
  | ⟨field, nesting, shape⟩, slot, level, fits, mirrors => by
    have made {child : Entity} (level : Level) (conforms : Entity.Conforms shape child)
        (mirrors : child.Mirrors level.source) := fill_agrees shape level conforms mirrors
    dsimp only at mirrors
    generalize held : Conduct.stored level.source field = value at mirrors
    cases mirrors with
    | vacant =>
      cases fits
      rw [fillSlot_of_null _ held]
      exact ⟨rfl, .vacant⟩
    | empty =>
      cases fits
      rw [fillSlot_of_null _ held]
      exact ⟨rfl, .many .nil⟩
    | one mirrors =>
      cases fits with
      | one conforms =>
        obtain ⟨done, agrees⟩ := made ⟨_, Path.fieldKey level.path field, _⟩ conforms mirrors
        rw [fillSlot_object _ held]
        exact ⟨done, .one agrees⟩
    | many mirror =>
      cases fits with
      | many conform =>
        obtain ⟨done, agree⟩ := fillElements_agree made mirror conform level.source
          (Path.fieldKey level.path field) 0
        rw [fillSlot_list _ held]
        exact ⟨done, .many agree⟩

end

end Copying

/-- **Exporting and copying back are inverse.** A record of a built shape, whatever changes have led
to it, can be copied back from the object it is exported to. The copy has the same declared values,
the same single entities and as many elements in every list, at all depths, it is exported to the
same object, and injecting the record into a fresh one gives the copy as well. -/
theorem populate_toValue {shape : Shape} {record : Entity} (built : shape.Built)
    (reachable : Entity.Reachable shape record) :
    let copied := populate .record .plain (Entity.fresh record.shape) (record.toValue .record)
    copied.failure = none ∧ copied.result.Agrees record ∧
      copied.result.toValue .record = record.toValue .record ∧
      inject .record .plain record (Entity.fresh record.shape) = copied := by
  have conforms := reachable.conforms
  obtain rfl := conforms.shape_eq
  intro copied
  have mirrors := Exporting.mirrors_exportAt conforms built "" none
  obtain ⟨done, agrees⟩ := Copying.fill_agrees record.shape
    ⟨(exportEntity .record .plain record).members, "", none⟩ conforms mirrors
  have same := Exporting.exportAt_congr .plain agrees "" none
  exact ⟨done, agrees,
    congrArg (fun exported : Exported => Value.object exported.members) same, rfl⟩

namespace Entity

def lineShape : Shape := ⟨"line", ["qty"], [], [], []⟩

def orderShape : Shape :=
  ⟨"order", ["id"], [], [], [⟨"gift", .one, lineShape⟩, ⟨"lines", .many, lineShape⟩]⟩

theorem lineShape_built : lineShape.Built :=
  .mk ⟨{ name := "line", fields := ["qty"] }, .empty, rfl⟩
    fun _ member => absurd member List.not_mem_nil

theorem orderShape_built : orderShape.Built := by
  refine .mk ⟨{ name := "order", fields := ["id"], nested := orderShape.nested }, .empty, rfl⟩ ?_
  intro nested member
  simp only [orderShape, List.mem_cons, List.not_mem_nil, or_false] at member
  rcases member with rfl | rfl
  · exact lineShape_built
  · exact lineShape_built

/-- An order with a number and two lines, the first of which has a quantity. -/
def filledOrder : Entity :=
  ⟨orderShape, [("id", .string "7")],
    [.vacant, .many [⟨lineShape, [("qty", .string "two")], []⟩, ⟨lineShape, [], []⟩]]⟩

/-- The order is filled by four changes. -/
theorem filledOrder_reachable : Reachable orderShape filledOrder :=
  (((Reachable.fresh.edit [] (.set "id" (.string "7")) rfl).edit
    [] (.pushChild "lines") rfl).edit
    [.element "lines" 0] (.set "qty" (.string "two")) rfl).edit
    [] (.pushChild "lines") rfl

end Entity

/-- The filled order comes back. -/
theorem populate_toValue_filledOrder :
    Entity.orderShape.Built ∧ Entity.Reachable Entity.orderShape Entity.filledOrder ∧
      let copied := populate .record .plain (Entity.fresh Entity.orderShape)
        (Entity.filledOrder.toValue .record)
      copied.failure = none ∧ copied.result.toValue .record = .object [("id", .string "7"),
        ("gift", .null), ("lines", .list [.object [("qty", .string "two")],
          .object [("qty", .null)]])] := by
  have built := Entity.orderShape_built
  have reachable := Entity.filledOrder_reachable
  obtain ⟨done, _, same, _⟩ := populate_toValue built reachable
  exact ⟨built, reachable, done, same.trans rfl⟩

end Scrutiny
