import Scrutiny.Proofs.Record.Filling
import Scrutiny.Proofs.Record.Tracing

/-! # Which documents fit

A document fits a shape if it is an object and if, wherever the converter goes, the fields for
nested entities have nothing, null, an object or a list of objects, as they hold one entity or many,
and these objects fit as well. Copying goes through for the documents that fit and for no others. It
fails at the first fault in the order in which a tree is walked, and says the kind of what stands
there and the path key that a walk has for the place (`populate_fits`).
-/

namespace Scrutiny

/-- What a field for nested entities can be filled from. `accepts` says which objects an entity of a
shape can be filled from at a path. -/
inductive Nested.Suits (accepts : Shape → String → Entries Value → Prop) :
    Nested Shape → String → Value → Prop
  | null {nested : Nested Shape} {key : String} : Suits accepts nested key .null
  | one {field : String} {shape : Shape} {key : String} {members : Entries Value} :
      accepts shape key members → Suits accepts ⟨field, .one, shape⟩ key (.object members)
  | many {field : String} {shape : Shape} {key : String} {objects : List (Entries Value)} :
      (∀ index members, objects[index]? = some members →
        accepts shape (Path.elementKey key index) members) →
      Suits accepts ⟨field, .many, shape⟩ key (.list (objects.map .object))

/-- An entity of a shape can be filled from the members of an object at a path: the fields for
nested entities that the converter enters can be filled. -/
inductive Shape.Accepts (converter : Converter) : Shape → String → Entries Value → Prop
  | mk {shape : Shape} {path : String} {members : Entries Value} :
      (∀ decl ∈ shape.nested, converter.enters path decl.field →
        Nested.Suits (Accepts converter) decl (Path.fieldKey path decl.field)
          (Conduct.stored members decl.field)) →
      Accepts converter shape path members

namespace Walk

/-- The path key that steps from the root lead to. -/
def keyOf (address : Address) : String :=
  address.foldl Turn.key ""

/-- The key of an address is made turn by turn. -/
theorem keyOf_append (address : Address) (turn : Turn) :
    keyOf (address ++ [turn]) = turn.key (keyOf address) := by
  rw [keyOf, List.foldl_append]
  rfl

/-- The key of a field below an address is that of the address with a turn to the field. -/
theorem fieldKey_keyOf (address : Address) (position : Nat) (field : String) :
    Path.fieldKey (keyOf address) field = keyOf (address ++ [⟨position, field, none⟩]) := by
  rw [keyOf_append]
  rfl

/-- The key of an element below an address is that of the address with a turn to it. -/
theorem elementKey_keyOf (address : Address) (position : Nat) (field : String) (index : Nat) :
    Path.elementKey (Path.fieldKey (keyOf address) field) index =
      keyOf (address ++ [⟨position, field, some index⟩]) := by
  rw [keyOf_append]
  rfl

section Following

variable {members : Entries Value} {field : String} {position : Nat}

/-- A single entity is looked up under its field. -/
theorem follow?_single {value : Value} (held : members.get? field = some value) :
    Turn.follow? ⟨position, field, none⟩ (.object members) = some value := by
  simp only [Turn.follow?, Value.member?, held]
  rfl

/-- An element is looked up in the list under its field. -/
theorem follow?_element {items : List Value} {index : Nat} {value : Value}
    (held : members.get? field = some (.list items)) (listed : items[index]? = some value) :
    Turn.follow? ⟨position, field, some index⟩ (.object members) = some value := by
  simp only [Turn.follow?, Value.member?, held]
  exact listed

end Following

/-- A walk has the same path key for an address in all trees. -/
theorem path_of_mem_sites {setting : Setting} {entity : Entity} {site : Site}
    (member : site ∈ sites setting entity) : site.path = keyOf site.address := by
  obtain ⟨act, listed, entered⟩ := List.mem_filterMap.mp member
  obtain ⟨failure, rfl⟩ := Act.exists_of_entered? entered
  obtain ⟨steps, far, lineage, _, own⟩ := doneAt_of_mem_acts setting entity [] "" [] _ listed
  have here := site_of_mem_ownActs own
  simp only [Act.site, List.nil_append] at here
  rw [here]
  rfl

end Walk

/-- The path key of what does not fit. -/
def BindError.place? : BindError → Option String
  | expectedObject key _ => some key
  | expectedList key _ => some key
  | expectedElement key index _ => some (Path.elementKey key index)
  | _ => none

/-- Something in a source that an entity cannot be filled from: what stands under a field for nested
entities, or an item of the list there. -/
structure Fault where
  /-- The entity that has the field. -/
  around : Walk.Address
  /-- The step to what is at fault. -/
  turn : Walk.Turn
  /-- What the field holds. -/
  nesting : Nesting
  value : Value

namespace Fault

/-- The path key of what is at fault. -/
def key (fault : Fault) : String :=
  fault.turn.key (Walk.keyOf fault.around)

/-- What is said of a fault. -/
def error (fault : Fault) : BindError :=
  let key := Path.fieldKey (Walk.keyOf fault.around) fault.turn.field
  match fault.turn.index, fault.nesting with
  | some index, _ => .expectedElement key index fault.value.kind
  | none, .one => .expectedObject key fault.value.kind
  | none, .many => .expectedList key fault.value.kind

theorem place?_error (fault : Fault) : fault.error.place? = some fault.key := by
  obtain ⟨around, ⟨slot, field, index⟩, nesting, value⟩ := fault
  cases index <;> cases nesting <;> rfl

/-- The faults in an item of a list. `inner` finds those in an object. -/
def ofItem (inner : Walk.Address → Entries Value → List Fault) (around : Walk.Address)
    (turn : Walk.Turn) : Value → List Fault
  | .object members => inner (around ++ [turn]) members
  | other => [⟨around, turn, .many, other⟩]

/-- An element that is no object is a fault at its place. -/
theorem ofItem_of_ne (inner : Walk.Address → Entries Value → List Fault) (around : Walk.Address)
    (turn : Walk.Turn) {item : Value} (object : ∀ members, item ≠ .object members) :
    ofItem inner around turn item = [⟨around, turn, .many, item⟩] := by
  cases item with
  | object members => exact absurd rfl (object members)
  | _ => rfl

/-- The faults in the items of a list from a position on. -/
def ofItems (inner : Walk.Address → Entries Value → List Fault) (around : Walk.Address)
    (turn : Walk.Turn) : Nat → List Value → List Fault
  | _, [] => []
  | index, item :: rest =>
    ofItem inner around { turn with index := some index } item ++
      ofItems inner around turn (index + 1) rest

/-- The faults in what stands under a field for nested entities. -/
def ofValue (inner : Walk.Address → Entries Value → List Fault) (around : Walk.Address)
    (turn : Walk.Turn) : Nesting → Value → List Fault
  | _, .null => []
  | .one, .object members => inner (around ++ [turn]) members
  | .many, .list items => ofItems inner around turn 0 items
  | nesting, other => [⟨around, turn, nesting, other⟩]

/-- What is neither null nor what the field holds is at fault itself. -/
theorem ofValue_of_ne (inner : Walk.Address → Entries Value → List Fault) (around : Walk.Address)
    (turn : Walk.Turn) (nesting : Nesting) {value : Value} (null : value ≠ .null)
    (object : nesting = .one → ∀ members, value ≠ .object members)
    (list : nesting = .many → ∀ items, value ≠ .list items) :
    ofValue inner around turn nesting value = [⟨around, turn, nesting, value⟩] := by
  cases nesting <;> cases value <;> simp_all [ofValue]

/-- The faults in what an object has under a field for nested entities. -/
def ofField (converter : Converter) (inner : Walk.Address → Entries Value → List Fault)
    (around : Walk.Address) (position : Nat) (field : String) (nesting : Nesting)
    (members : Entries Value) : List Fault :=
  if converter.enters (Walk.keyOf around) field then
    ofValue inner around ⟨position, field, none⟩ nesting (Conduct.stored members field)
  else []

/-- A field that is there has the faults of its value. -/
theorem ofField_of_get? {converter : Converter} {around : Walk.Address} {field : String}
    {members : Entries Value} {value : Value}
    (enters : converter.enters (Walk.keyOf around) field) (held : members.get? field = some value)
    (inner : Walk.Address → Entries Value → List Fault) (position : Nat) (nesting : Nesting) :
    ofField converter inner around position field nesting members =
      ofValue inner around ⟨position, field, none⟩ nesting value := by
  rw [ofField, if_pos enters, Conduct.stored, held, Option.getD_some]

end Fault

mutual

/-- The faults in the members of an object, those of an earlier field or item and those further up
first. -/
def Shape.faults (converter : Converter) :
    Shape → Walk.Address → Entries Value → List Fault
  | ⟨_, _, _, _, nested⟩, around, members => nestedFaults converter nested 0 around members

/-- The faults under several fields for nested entities, from a position on. -/
def nestedFaults (converter : Converter) :
    List (Nested Shape) → Nat → Walk.Address → Entries Value → List Fault
  | [], _, _, _ => []
  | ⟨field, nesting, shape⟩ :: others, position, around, members =>
    Fault.ofField converter (shape.faults converter) around position field nesting members ++
      nestedFaults converter others (position + 1) around members

end

/-- What holds of the items of a list by their positions. -/
theorem forall_getElem?_cons {α : Type} (property : Nat → α → Prop) {first : α} {rest : List α}
    {start : Nat} :
    (∀ index item, (first :: rest)[index]? = some item → property (start + index) item) ↔
      property start first ∧
        ∀ index item, rest[index]? = some item → property (start + 1 + index) item := by
  constructor
  · intro all
    refine ⟨all 0 first rfl, fun index item found => ?_⟩
    rw [Nat.add_assoc, Nat.add_comm 1 index]
    exact all (index + 1) item (by rwa [List.getElem?_cons_succ])
  · rintro ⟨own, others⟩ index item found
    cases index with
    | zero => exact Option.some.inj found ▸ own
    | succ index =>
      rw [Nat.add_comm index 1, ← Nat.add_assoc]
      exact others index item (by rwa [List.getElem?_cons_succ] at found)

section Accepting

variable (converter : Converter)

/-- The faults in an object are those of its fields for nested entities, in the order of the shape.
-/
theorem Shape.faults_eq (shape : Shape) (around : Walk.Address) (members : Entries Value) :
    shape.faults converter around members =
      nestedFaults converter shape.nested 0 around members := by
  cases shape
  rfl

/-- The faults of the first field come before those of the others. -/
theorem nestedFaults_cons (nested : Nested Shape) (others : List (Nested Shape)) (position : Nat)
    (around : Walk.Address) (members : Entries Value) :
    nestedFaults converter (nested :: others) position around members =
      Fault.ofField converter (nested.shape.faults converter) around position nested.field
        nested.nesting members ++ nestedFaults converter others (position + 1) around members := by
  cases nested
  rfl

/-- A list has no faults if all of its items are objects without faults. -/
theorem Fault.ofItems_eq_nil {inner : Walk.Address → Entries Value → List Fault}
    {around : Walk.Address} {turn : Walk.Turn} {fine : Nat → Entries Value → Prop}
    (each : ∀ index members, fine index members ↔
      inner (around ++ [{ turn with index := some index }]) members = [])
    (start : Nat) (items : List Value) :
    (∃ objects : List (Entries Value), items = objects.map .object ∧
      ∀ index members, objects[index]? = some members → fine (start + index) members) ↔
      ofItems inner around turn start items = [] := by
  induction items generalizing start with
  | nil => exact iff_of_true ⟨[], rfl, by simp⟩ rfl
  | cons item rest ih =>
    rw [ofItems, List.append_eq_nil_iff, ← ih]
    constructor
    · rintro ⟨objects, whole, all⟩
      cases objects with
      | nil => exact absurd whole (by simp)
      | cons members objects =>
        obtain ⟨rfl, rfl⟩ := List.cons.inj whole
        obtain ⟨own, others⟩ := (forall_getElem?_cons fine).mp all
        exact ⟨(each start members).mp own, objects, rfl, others⟩
    · rintro ⟨own, objects, rfl, others⟩
      cases item with
      | object members =>
        have first := (each start members).mpr own
        exact ⟨members :: objects, rfl, (forall_getElem?_cons fine).mpr ⟨first, others⟩⟩
      | _ => exact absurd own (by simp [ofItem])

/-- A field for nested entities can be filled from what has no faults. -/
theorem Fault.ofValue_eq_nil {accepts : Shape → String → Entries Value → Prop} {shape : Shape}
    {inner : Walk.Address → Entries Value → List Fault}
    (each : ∀ around members, accepts shape (Walk.keyOf around) members ↔ inner around members = [])
    (around : Walk.Address) (position : Nat) (field : String) (nesting : Nesting) (value : Value) :
    Nested.Suits accepts ⟨field, nesting, shape⟩ (Path.fieldKey (Walk.keyOf around) field) value ↔
      ofValue inner around ⟨position, field, none⟩ nesting value = [] := by
  have single (members : Entries Value) :
      accepts shape (Path.fieldKey (Walk.keyOf around) field) members ↔
        inner (around ++ [⟨position, field, none⟩]) members = [] := by
    rw [Walk.fieldKey_keyOf around position, each]
  have element (index : Nat) (members : Entries Value) :
      accepts shape (Path.elementKey (Path.fieldKey (Walk.keyOf around) field) index) members ↔
        inner (around ++ [⟨position, field, some index⟩]) members = [] := by
    rw [Walk.elementKey_keyOf around position, each]
  constructor
  · rintro (_ | fits | @⟨_, _, _, objects, fits⟩)
    · cases nesting <;> rfl
    · exact (single _).mp fits
    · refine (ofItems_eq_nil element 0 _).mp ⟨objects, rfl, fun index members found => ?_⟩
      rw [Nat.zero_add]
      exact fits index members found
  · intro none
    cases nesting with
    | one =>
      cases value with
      | null => exact .null
      | object members => exact .one ((single members).mpr none)
      | _ => exact absurd none (by simp [ofValue])
    | many =>
      cases value with
      | null => exact .null
      | list items =>
        obtain ⟨objects, rfl, all⟩ := (ofItems_eq_nil element 0 items).mpr none
        exact .many fun index members found => Nat.zero_add index ▸ all index members found
      | _ => exact absurd none (by simp [ofValue])

/-- A field fits if it has no faults, given that this is so for the objects in it. -/
theorem Fault.ofField_eq_nil {accepts : Shape → String → Entries Value → Prop} {shape : Shape}
    {inner : Walk.Address → Entries Value → List Fault}
    (each : ∀ around members, accepts shape (Walk.keyOf around) members ↔ inner around members = [])
    (around : Walk.Address) (position : Nat) (field : String) (nesting : Nesting)
    (members : Entries Value) :
    (converter.enters (Walk.keyOf around) field → Nested.Suits accepts ⟨field, nesting, shape⟩
      (Path.fieldKey (Walk.keyOf around) field) (Conduct.stored members field)) ↔
      ofField converter inner around position field nesting members = [] := by
  rw [ofValue_eq_nil each around position, ofField]
  split
  · next enters => simp only [enters, forall_const]
  · next passed => simp [passed]

mutual

/-- An entity can be filled from an object without faults. -/
theorem Shape.accepts_iff : ∀ (shape : Shape) (around : Walk.Address) (members : Entries Value),
    shape.Accepts converter (Walk.keyOf around) members ↔ shape.faults converter around members = []
  | ⟨name, fields, labels, rules, nested⟩, around, members => by
    have all := nestedFaults_eq_nil nested 0 around members
    rw [Shape.faults, ← all]
    exact ⟨fun ⟨fits⟩ => fits, fun fits => .mk fits⟩

/-- Fields fit if they have no faults. -/
theorem nestedFaults_eq_nil : ∀ (nested : List (Nested Shape)) (position : Nat)
    (around : Walk.Address) (members : Entries Value),
    (∀ decl ∈ nested, converter.enters (Walk.keyOf around) decl.field →
      Nested.Suits (Shape.Accepts converter) decl (Path.fieldKey (Walk.keyOf around) decl.field)
        (Conduct.stored members decl.field)) ↔
      nestedFaults converter nested position around members = []
  | [], _, _, _ => by simp [nestedFaults]
  | ⟨field, nesting, shape⟩ :: others, position, around, members => by
    have first := Fault.ofField_eq_nil converter (Shape.accepts_iff shape) around position field
      nesting members
    rw [nestedFaults, List.append_eq_nil_iff, List.forall_mem_cons,
      nestedFaults_eq_nil others (position + 1) around members, first]

end

end Accepting

section Faults

variable {converter : Converter} {level : Level}

mutual

/-- Copying goes through only if the entity can be filled. -/
theorem Entity.Filled.accepts {level : Level} {before after : Entity} :
    Entity.Filled converter level before after →
      before.shape.Accepts converter level.path level.source
  | .mk _ filled => .mk fun decl member enters => filled.suits decl member enters

theorem SlotsFilled.suits {level : Level} {nested : List (Nested Shape)}
    {slots filled : List (Slot Entity)} : SlotsFilled converter level nested slots filled →
    ∀ decl ∈ nested, converter.enters level.path decl.field →
      Nested.Suits (Shape.Accepts converter) decl (Path.fieldKey level.path decl.field)
        (Conduct.stored level.source decl.field)
  | .nil, _, member, _ => absurd member List.not_mem_nil
  | .cons first others, decl, member, enters => by
    rcases List.mem_cons.mp member with rfl | later
    · exact first.suits enters
    · exact others.suits decl later enters

theorem SlotFilled.suits {level : Level} {nested : Nested Shape} {slot filled : Slot Entity} :
    SlotFilled converter level nested slot filled → converter.enters level.path nested.field →
      Nested.Suits (Shape.Accepts converter) nested (Path.fieldKey level.path nested.field)
        (Conduct.stored level.source nested.field)
  | .passed passed, enters => absurd (passed.symm.trans enters) (by simp)
  | .absent absent, _ => absent ▸ .null
  | .one _ held filled, _ => by
    rw [Conduct.stored, held]
    exact .one filled.accepts
  | .many _ held filled, _ => by
    obtain ⟨objects, rfl, all⟩ := filled.accepts
    rw [Conduct.stored, held]
    exact .many fun index members found => Nat.zero_add index ▸ all index members found

theorem ElementsFilled.accepts {source : Entries Value} {key : String} {shape : Shape}
    {start : Nat} {items : List Value} {children : List Entity} :
    ElementsFilled converter source key shape start items children →
      ∃ objects : List (Entries Value), items = objects.map .object ∧ ∀ index members,
        objects[index]? = some members →
          shape.Accepts converter (Path.elementKey key (start + index)) members
  | .nil => ⟨[], rfl, by simp⟩
  | .cons first others => by
    obtain ⟨objects, rfl, all⟩ := others.accepts
    exact ⟨_ :: objects, rfl, (forall_getElem?_cons fun index members =>
      shape.Accepts converter (Path.elementKey key index) members).mpr ⟨first.accepts, all⟩⟩

end

/-- Steps lead to a fault: in a tree to an entity whose shape declares the field, and in the source
of the tree to what is at fault. -/
def Fault.In (fault : Fault) (around : Walk.Address) (members : Entries Value) (entity : Entity) :
    Prop :=
  ∃ steps far decl, fault.around = around ++ steps ∧ Walk.Reaches entity steps far ∧
    far.shape.nested[fault.turn.slot]? = some decl ∧ decl.field = fault.turn.field ∧
    Walk.follow? (steps ++ [fault.turn]) (.object members) = some fault.value

/-- A fault is one of a field, or lies in an entity that the field holds. -/
inductive Fault.Under (fault : Fault) (around : Walk.Address) (position : Nat) (field : String)
    (members : Entries Value) (held : Slot Entity) : Prop
  | here : fault.around = around → fault.turn.slot = position → fault.turn.field = field →
      fault.turn.follow? (.object members) = some fault.value →
      Under fault around position field members held
  | inside {index : Option Nat} {inner : Entries Value} {child : Entity} :
      Walk.Holds held index child →
      Walk.Turn.follow? ⟨position, field, index⟩ (.object members) = some (.object inner) →
      fault.In (around ++ [⟨position, field, index⟩]) inner child →
      Under fault around position field members held

/-- A fault is an item of a list, the first of which has a given position, or lies in an entity that
is made of one. -/
inductive Fault.Among (fault : Fault) (around : Walk.Address) (position : Nat) (field : String)
    (start : Nat) (items : List Value) (children : List Entity) : Prop
  | here (place : Nat) : fault.around = around →
      fault.turn = ⟨position, field, some (start + place)⟩ → items[place]? = some fault.value →
      Among fault around position field start items children
  | inside (place : Nat) {inner : Entries Value} {child : Entity} :
      children[place]? = some child → items[place]? = some (.object inner) →
      fault.In (around ++ [⟨position, field, some (start + place)⟩]) inner child →
      Among fault around position field start items children

/-- The first of some faults is the one of an error. -/
def Fault.First (faults : List Fault) (error : BindError) (lies : Fault → Prop) : Prop :=
  ∃ fault later, faults = fault :: later ∧ fault.error = error ∧ lies fault

namespace Fault

variable {faults : List Fault} {error : BindError} {lies : Fault → Prop}

/-- The first of some faults is the first of more. -/
theorem First.append (first : First faults error lies) (others : List Fault) :
    First (faults ++ others) error lies := by
  obtain ⟨fault, later, rfl, rest⟩ := first
  exact ⟨fault, later ++ others, rfl, rest⟩

/-- A first fault lies wherever it is said to lie. -/
theorem First.imp {further : Fault → Prop} (first : First faults error lies)
    (more : ∀ fault, lies fault → further fault) : First faults error further := by
  obtain ⟨fault, later, whole, said, at_⟩ := first
  exact ⟨fault, later, whole, said, more fault at_⟩

section Places

variable {fault : Fault} {around : Walk.Address} {position : Nat} {field : String}
  {members : Entries Value}

/-- What lies in an entity to which a field leads. -/
theorem Under.in {entity : Entity} {decl : Nested Shape} {held : Slot Entity}
    (under : fault.Under around position decl.field members held)
    (declared : entity.shape.nested[position]? = some decl)
    (filled : entity.slots[position]? = some held) : fault.In around members entity := by
  cases under with
  | here whole slot field found =>
    refine ⟨[], entity, decl, by rw [whole, List.append_nil], .here entity, slot ▸ declared,
      field.symm, ?_⟩
    rw [List.nil_append, Walk.follow?, found]
    rfl
  | inside holds found lies =>
    obtain ⟨steps, far, inner, whole, reaches, also, named, further⟩ := lies
    refine ⟨_ :: steps, far, inner, ?_, .step (.mk declared filled holds) reaches, also, named, ?_⟩
    · rw [whole, List.append_assoc, List.singleton_append]
    · rw [List.cons_append, Walk.follow?, found]
      exact further

/-- A fault among later elements is one among all of them. -/
theorem Among.later {start : Nat} {item : Value} {items : List Value} {child : Entity}
    {children : List Entity}
    (among : fault.Among around position field (start + 1) items children) :
    fault.Among around position field start (item :: items) (child :: children) := by
  rcases among with ⟨place, whole, turn, found⟩ | ⟨place, listed, found, lies⟩
  · refine .here (place + 1) whole ?_ found
    rw [turn, Nat.add_assoc, Nat.add_comm 1]
  · rw [Nat.add_assoc, Nat.add_comm 1] at lies
    exact .inside (place + 1) listed found lies

/-- A fault among the elements of a list is one under its field. -/
theorem Among.under {items : List Value} {children : List Entity}
    (among : fault.Among around position field 0 items children)
    (held : members.get? field = some (.list items)) :
    fault.Under around position field members (.many children) := by
  rcases among with ⟨place, whole, turn, found⟩ | ⟨place, listed, found, lies⟩
  · refine .here whole (by rw [turn]) (by rw [turn]) ?_
    rw [turn, Nat.zero_add, Walk.follow?_element held found]
  · rw [Nat.zero_add] at lies
    exact .inside (.element listed) (Walk.follow?_element held found) lies

end Places

end Fault

mutual

/-- Copying stops at the first fault. -/
theorem Entity.Stopped.first {level : Level} {before left : Entity} {error : BindError}
    (around : Walk.Address) (path : level.path = Walk.keyOf around) :
    Entity.Stopped converter level before error left →
      Fault.First (before.shape.faults converter around level.source) error
        fun fault => fault.In around level.source left
  | .mk _ stopped => by
    rw [Shape.faults_eq]
    refine (stopped.first around path 0).imp ?_
    rintro fault ⟨place, decl, held, declared, filled, under⟩
    rw [Nat.zero_add] at under
    exact under.in declared filled

/-- Filling fields stops at the first of their faults, which lies where they have been left. -/
theorem SlotsStopped.first {level : Level} {nested : List (Nested Shape)}
    {slots left : List (Slot Entity)} {error : BindError} (around : Walk.Address)
    (path : level.path = Walk.keyOf around) (start : Nat) :
    SlotsStopped converter level nested slots error left →
      Fault.First (nestedFaults converter nested start around level.source) error fun fault =>
        ∃ place decl held, nested[place]? = some decl ∧ left[place]? = some held ∧
          fault.Under around (start + place) decl.field level.source held
  | .here stopped => by
    rw [nestedFaults_cons]
    exact ((stopped.first around path start).append _).imp fun fault under =>
      ⟨0, _, _, rfl, rfl, under⟩
  | .later filled stopped => by
    have none := (Fault.ofField_eq_nil converter (Shape.accepts_iff converter _) around start
      _ _ level.source).mp (path ▸ filled.suits)
    rw [nestedFaults_cons, none, List.nil_append]
    refine (stopped.first around path (start + 1)).imp ?_
    rintro fault ⟨place, decl, held, declared, filled, under⟩
    refine ⟨place + 1, decl, held, declared, filled, ?_⟩
    rwa [Nat.add_comm place 1, ← Nat.add_assoc]

/-- Filling a field stops at its first fault. -/
theorem SlotStopped.first {level : Level} {nested : Nested Shape}
    {slot left : Slot Entity} {error : BindError} (around : Walk.Address)
    (path : level.path = Walk.keyOf around) (position : Nat) :
    SlotStopped converter level nested slot error left →
      Fault.First (Fault.ofField converter (nested.shape.faults converter) around position
          nested.field nested.nesting level.source) error
        fun fault => fault.Under around position nested.field level.source left
  | .object enters held null other => by
    rw [path] at enters ⊢
    rw [Fault.ofField_of_get? enters held,
      Fault.ofValue_of_ne _ _ _ .one null (fun _ => other) nofun]
    exact ⟨_, [], rfl, rfl, .here rfl rfl rfl (Walk.follow?_single held)⟩
  | .list enters held null other => by
    rw [path] at enters ⊢
    rw [Fault.ofField_of_get? enters held,
      Fault.ofValue_of_ne _ _ _ .many null nofun fun _ => other]
    exact ⟨_, [], rfl, rfl, .here rfl rfl rfl (Walk.follow?_single held)⟩
  | .one enters held stopped => by
    rw [path] at enters stopped
    rw [Fault.ofField_of_get? enters held]
    exact (stopped.first _ (Walk.fieldKey_keyOf around position _)).imp fun fault lies =>
      .inside (.single _) (Walk.follow?_single held) lies
  | .many enters held stopped => by
    rw [path] at enters stopped
    rw [Fault.ofField_of_get? enters held]
    exact (stopped.first around position rfl).imp fun fault among => among.under held

/-- Filling a list stops at the first fault of its elements. -/
theorem ElementsStopped.first {source : Entries Value} {key field : String} {shape : Shape}
    {start : Nat} {items : List Value} {children : List Entity} {error : BindError}
    (around : Walk.Address) (position : Nat)
    (path : key = Path.fieldKey (Walk.keyOf around) field) :
    ElementsStopped converter source key shape start items error children →
      Fault.First
        (Fault.ofItems (shape.faults converter) around ⟨position, field, none⟩ start items) error
        fun fault => fault.Among around position field start items children
  | .kind other => by
    subst path
    rw [Fault.ofItems, Fault.ofItem_of_ne _ _ _ other]
    exact ⟨_, _, rfl, rfl, .here 0 rfl rfl rfl⟩
  | .inside stopped => by
    subst path
    have found := stopped.first _ (Walk.elementKey_keyOf around position field start)
    exact (found.append _).imp fun fault lies => .inside 0 rfl rfl lies
  | .later filled stopped => by
    subst path
    have accepts := filled.accepts
    rw [Walk.elementKey_keyOf around position] at accepts
    have none := (Shape.accepts_iff converter shape _ _).mp accepts
    rw [Fault.ofItems, Fault.ofItem, none, List.nil_append]
    exact (stopped.first around position rfl).imp fun fault among => among.later

end

end Faults

/-- Nothing is copied from what is no object. -/
theorem populate_of_ne (conduct : Conduct) (converter : Converter) (entity : Entity)
    {source : Value} (other : ∀ members, source ≠ .object members) :
    populate conduct converter entity source =
      ⟨entity, [], some (.sourceKind entity.shape.name source.kind)⟩ := by
  cases source with
  | object members => exact absurd rfl (other members)
  | _ => rfl

section Populating

variable {shape : Shape} {record : Entity} (built : shape.Built)
  (reachable : Entity.Reachable shape record) {converter : Converter} {members : Entries Value}

include built reachable

/-- Copying an object fails at its first fault. -/
theorem populate_first {error : BindError}
    (failed : (populate .record converter record (.object members)).failure = some error) :
    Fault.First (shape.faults converter [] members) error fun fault =>
      fault.In [] members (populate .record converter record (.object members)).result := by
  have stopped := (populate_ends built reachable members).left failed
  rw [← reachable.conforms.shape_eq]
  exact stopped.first [] rfl

/-- Copying an object goes through if and only if the shape accepts it. -/
theorem populate_object_iff :
    (populate .record converter record (.object members)).failure = none ↔
      shape.Accepts converter "" members := by
  constructor
  · intro done
    rw [← reachable.conforms.shape_eq]
    exact (populate_filled built reachable done).accepts
  · intro accepts
    have faultless := (Shape.accepts_iff converter shape [] members).mp accepts
    cases failed : (populate .record converter record (.object members)).failure with
    | none => rfl
    | some error =>
      obtain ⟨fault, later, whole, _⟩ := populate_first built reachable failed
      exact absurd (faultless.symm.trans whole) (by simp)

end Populating

section Mirroring

variable (converter : Converter)

mutual

/-- An object that a record mirrors is accepted by its shape, whatever is entered. -/
theorem Entity.Conforms.accepts : ∀ {entity : Entity} {shape : Shape},
    Entity.Conforms shape entity → ∀ {members : Entries Value}, entity.Mirrors members →
    ∀ path : String, shape.Accepts converter path members
  | ⟨_, _, _⟩, _, .mk fits _, _, .mk _ mirror, _ =>
    .mk fun decl member _ => slots_suit fits mirror decl member _

/-- What slots mirror fits the fields that they fit. -/
theorem slots_suit : ∀ {slots : List (Slot Entity)} {nested : List (Nested Shape)}
    {members : Entries Value}, List.Forall₂ (Slot.Fits Entity.Conforms) nested slots →
    List.Forall₂ (Slot.Mirrors Entity.Mirrors) slots
      (nested.map fun decl => Conduct.stored members decl.field) →
    ∀ decl ∈ nested, ∀ key : String,
      Nested.Suits (Shape.Accepts converter) decl key (Conduct.stored members decl.field)
  | [], [], _, _, _, _, member, _ => absurd member List.not_mem_nil
  | slot :: slots, nested :: others, members, fits, mirror, decl, member, key => by
    obtain ⟨fit, rest⟩ := List.forall₂_cons.mp fits
    obtain ⟨first, mirrors⟩ := List.forall₂_cons.mp mirror
    rcases List.mem_cons.mp member with rfl | later
    · exact slot_suits fit first key
    · exact slots_suit rest mirrors decl later key

theorem slot_suits : ∀ {slot : Slot Entity} {decl : Nested Shape} {value : Value},
    Slot.Fits Entity.Conforms decl slot → Slot.Mirrors Entity.Mirrors slot value →
    ∀ key : String, Nested.Suits (Shape.Accepts converter) decl key value
  | _, _, _, .vacant, .vacant, _ => .null
  | _, _, _, .many _, .empty, _ => .null
  | .one _, _, _, .one conforms, .one mirrors, key => .one (conforms.accepts mirrors key)
  | .many _, _, _, .many all, .many mirror, _ =>
    .many fun _ _ found => elements_accept all mirror found _

theorem elements_accept : ∀ {children : List Entity} {shape : Shape} {items : List (Entries Value)},
    (∀ child ∈ children, Entity.Conforms shape child) →
    List.Forall₂ Entity.Mirrors children items → ∀ {index : Nat} {members : Entries Value},
    items[index]? = some members → ∀ path : String, shape.Accepts converter path members
  | [], _, [], _, _, _, _, found, _ => absurd found (by simp)
  | child :: children, _, item :: items, all, mirror, index, members, found, path => by
    obtain ⟨first, rest⟩ := List.forall₂_cons.mp mirror
    cases index with
    | zero =>
      obtain rfl := Option.some.inj found
      exact (all child List.mem_cons_self).accepts first path
    | succ index =>
      exact elements_accept (fun other member => all other (List.mem_cons_of_mem _ member)) rest
        (by simpa using found) path

end

end Mirroring

/-- **Which documents fit.** Copying into a record of a built shape, whatever changes have led to
it, goes through if and only if the source is an object that the shape accepts: undeclared members,
fields that the converter does not enter, absent members and null never stop it. If it fails on an
object, the error is that of the first fault of the object and speaks of what stands there. The path
key in the error is the one that a walk has for the place: from the entity around it, which the copy
has made, the step to the fault leads to this key, and in every tree with an entity at the place,
that entity has it. -/
theorem populate_fits {shape : Shape} {record : Entity} (built : shape.Built)
    (reachable : Entity.Reachable shape record) (converter : Converter) (source : Value) :
    let copied := populate .record converter record source
    (copied.failure = none ↔
      ∃ members, source = .object members ∧ shape.Accepts converter "" members) ∧
      ∀ error, copied.failure = some error →
        (∀ members, source ≠ .object members) ∧ error = .sourceKind shape.name source.kind ∨
          ∃ members fault later, source = .object members ∧
            shape.faults converter [] members = fault :: later ∧ error = fault.error ∧
            Walk.follow? (fault.around ++ [fault.turn]) source = some fault.value ∧
            ∀ setting,
              (∃ site ∈ Walk.sites setting copied.result, site.address = fault.around ∧
                error.place? = some (fault.turn.key site.path)) ∧
              ∀ tree, ∀ site ∈ Walk.sites setting tree,
                site.address = fault.around ++ [fault.turn] → error.place? = some site.path := by
  intro copied
  by_cases object : ∃ members, source = .object members
  · obtain ⟨members, rfl⟩ := object
    refine ⟨(populate_object_iff built reachable).trans ?_, fun error failed => .inr ?_⟩
    · simp
    obtain ⟨fault, later, whole, rfl, steps, far, _, around, reaches, _, _, found⟩ :=
      populate_first built reachable failed
    refine ⟨members, fault, later, rfl, whole, rfl, around ▸ found, fun setting => ⟨?_, ?_⟩⟩
    · obtain ⟨site, member, address, path, _⟩ := reaches.exists_site setting
      refine ⟨site, member, address.trans around.symm, ?_⟩
      rw [fault.place?_error, Fault.key, path, around, Walk.keyOf, List.nil_append]
    · intro tree site member at_
      rw [fault.place?_error, Walk.path_of_mem_sites member, at_, Walk.keyOf_append, Fault.key]
  · have other (members : Entries Value) : source ≠ .object members :=
      fun same => object ⟨members, same⟩
    have said : copied.failure = some (.sourceKind shape.name source.kind) := by
      rw [← reachable.conforms.shape_eq]
      simp only [copied, populate_of_ne .record converter record other]
    refine ⟨iff_of_false (by simp [said]) fun ⟨members, same, _⟩ => other members same, ?_⟩
    exact fun error failed => .inl ⟨other, Option.some.inj (failed.symm.trans said)⟩

/-- A gift that is no object is no fault if it is left out, but the second line is one. -/
theorem populate_fits_filledOrder :
    let converter : Converter := .excluding ["gift"] .plain
    let document :=
      [("gift", Value.bool true), ("note", .null), ("lines", .list [.object [], .null])]
    let copied := populate .record converter Entity.filledOrder (.object document)
    Entity.orderShape.Built ∧ Entity.Reachable Entity.orderShape Entity.filledOrder ∧
      ¬ Entity.orderShape.Accepts converter "" document ∧
      copied.failure = some (.expectedElement "lines" 1 "null") ∧
      Entity.orderShape.faults converter [] document =
        [⟨[], ⟨1, "lines", some 1⟩, .many, .null⟩] ∧
      ∀ setting, ∃ site ∈ Walk.sites setting copied.result,
        site.address = [] ∧ "lines[1]" = Walk.Turn.key site.path ⟨1, "lines", some 1⟩ := by
  intro converter document copied
  have built := Entity.orderShape_built
  have reachable := Entity.filledOrder_reachable
  have failed : copied.failure = some (.expectedElement "lines" 1 "null") := rfl
  have faults : Entity.orderShape.faults converter [] document =
      [⟨[], ⟨1, "lines", some 1⟩, .many, .null⟩] := rfl
  obtain ⟨fits, fails⟩ := populate_fits built reachable converter (.object document)
  refine ⟨built, reachable, fun accepts => ?_, failed, faults, fun setting => ?_⟩
  · exact absurd ((fits.mpr ⟨_, rfl, accepts⟩).symm.trans failed) (by simp)
  · rcases fails _ failed with ⟨other, _⟩ | ⟨members, fault, later, same, whole, _, _, places⟩
    · exact absurd rfl (other document)
    · obtain rfl := Value.object.inj same
      obtain ⟨rfl, _⟩ := List.cons.inj (faults.symm.trans whole)
      obtain ⟨site, member, address, key⟩ := (places setting).1
      exact ⟨site, member, address, Option.some.inj key⟩

end Scrutiny
