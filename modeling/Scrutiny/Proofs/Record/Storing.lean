import Mathlib.Data.List.Nodup
import Scrutiny.Proofs.Record.Conforming
import Scrutiny.Record

/-! # Entities as records keep them

A record keeps what is nested in it under names, an entity in the order in which its shape declares
the fields. A record shows an entity if each slot holds what the record has under the name of the
field, and the record has nothing under other names (`Record.Shows`). Reading from the record is
then reading from the entity, and making, adding and dropping nested records is doing so with the
nested entities.
-/

namespace Scrutiny

/-- Two slots hold what is related. -/
inductive Slot.Relates {ε δ : Type} (related : ε → δ → Prop) : Slot ε → Slot δ → Prop
  | vacant : Relates related .vacant .vacant
  | one {child : ε} {inner : δ} : related child inner → Relates related (.one child) (.one inner)
  | many {children : List ε} {inners : List δ} :
      List.Forall₂ related children inners → Relates related (.many children) (.many inners)

namespace Slot

variable {ε δ : Type} {related : ε → δ → Prop}

/-- The single entity that a slot holds. -/
def single? : Slot ε → Option ε
  | one child => some child
  | _ => none

/-- The entities of the list that a slot holds. -/
def elements : Slot ε → List ε
  | many children => children
  | _ => []

/-- Slots that hold what is related hold related single entities. -/
theorem Relates.single? {slot : Slot ε} {other : Slot δ} (relates : Relates related slot other) :
    Option.Rel related slot.single? other.single? := by
  cases relates with
  | one holds => exact .some holds
  | _ => exact .none

/-- Slots that hold what is related hold lists of related elements. -/
theorem Relates.elements {slot : Slot ε} {other : Slot δ} (relates : Relates related slot other) :
    List.Forall₂ related slot.elements other.elements := by
  cases relates with
  | many all => exact all
  | _ => exact .nil

end Slot

namespace Record

/-- What a record has under the name of a field for nested entities. -/
def held (record : Record) (nested : Nested Shape) : Slot Record :=
  match nested.nesting with
  | .one =>
    match record.child? nested.field with
    | none => .vacant
    | some child => .one child
  | .many => .many (record.children nested.field)

/-- The shape declares a field of some kind. -/
def Declares (shape : Shape) (field : String) (nesting : Nesting) : Prop :=
  ∃ nested ∈ shape.nested, nested.field = field ∧ nested.nesting = nesting

/-- Nothing is kept under a name that the shape does not declare for it. -/
structure Declared (record : Record) : Prop where
  one : ∀ field, Entries.has record.one field → Declares record.shape field .one
  many : ∀ field, Entries.has record.many field → Declares record.shape field .many

/-- A record shows an entity. -/
inductive Shows : Record → Entity → Prop
  | mk {record : Record} {slots : List (Slot Entity)} :
      record.Declared →
        List.Forall₂ (Slot.Relates Shows) (record.shape.nested.map record.held) slots →
        Shows record ⟨record.shape, record.values, slots⟩

/-- A record is another one but for what is kept under some names. -/
structure Beside (fields : List String) (record changed : Record) : Prop where
  shape : changed.shape = record.shape
  values : changed.values = record.values
  child : ∀ name, name ∉ fields → changed.child? name = record.child? name
  children : ∀ name, name ∉ fields → changed.children name = record.children name
  declared : record.Declared → changed.Declared

namespace Beside

variable {fields more : List String} {record changed last : Record}

/-- A record is the same as itself beside any fields. -/
theorem refl (fields : List String) (record : Record) : Beside fields record record :=
  ⟨rfl, rfl, fun _ _ => rfl, fun _ _ => rfl, id⟩

theorem trans (one : Beside fields record changed) (two : Beside fields changed last) :
    Beside fields record last where
  shape := two.shape.trans one.shape
  values := two.values.trans one.values
  child name absent := (two.child name absent).trans (one.child name absent)
  children name absent := (two.children name absent).trans (one.children name absent)
  declared := two.declared ∘ one.declared

/-- A change beside fields is one beside more fields. -/
theorem mono (beside : Beside fields record changed) (larger : fields ⊆ more) :
    Beside more record changed :=
  { beside with
    child := fun name absent => beside.child name fun member => absent (larger member)
    children := fun name absent => beside.children name fun member => absent (larger member) }

end Beside

section Maps

variable {α : Type}

/-- The names after writing are the ones before and the one written under. -/
theorem has_put (entries : Entries α) (field name : String) (value : α) :
    (entries.put field value).has name ↔ name = field ∨ entries.has name := by
  unfold Entries.has
  by_cases same : name = field
  · simp [same, Entries.get?_put_self]
  · simp [same, Entries.get?_put_of_ne _ _ same]

end Maps

variable {record changed : Record} {field : String} {nesting : Nesting} {shape : Shape}

/-- A field that is found is one that the shape declares, under this name. -/
theorem nested?_eq_some {nested : Nested Shape} (found : shape.nested? field = some nested) :
    nested ∈ shape.nested ∧ nested.field = field :=
  ⟨List.mem_of_find?_eq_some found, by simpa using List.find?_some found⟩

/-- What is found under a name is declared there. -/
theorem declares_of_declared? (found : record.declared? field nesting = some shape) :
    Declares record.shape field nesting := by
  obtain ⟨nested, kept, rfl⟩ := Option.map_eq_some_iff.mp found
  obtain ⟨first, kind⟩ := Option.filter_eq_some_iff.mp kept
  obtain ⟨listed, same⟩ := nested?_eq_some first
  exact ⟨nested, listed, same, of_decide_eq_true kind⟩

/-- What is put under a name is found there. -/
@[simp] theorem child?_putChild (record : Record) (field : String) (child : Record) :
    (record.putChild field child).child? field = some child :=
  Entries.get?_put_self _ _ _

/-- The list that is put under a name is found there. -/
@[simp] theorem children_putChildren (record : Record) (field : String) (children : List Record) :
    (record.putChildren field children).children field = children :=
  congrArg (Option.getD · []) (Entries.get?_put_self _ _ _)

/-- What is written twice under a name is what is written last. -/
theorem putChild_putChild (record : Record) (field : String) (made child : Record) :
    (record.putChild field made).putChild field child = record.putChild field child := by
  simp only [putChild, Entries.put_put]

/-- Replacing the element just made is making another one. -/
theorem putLast_putChildren (record : Record) (field : String) (children : List Record)
    (made child : Record) :
    (record.putChildren field (children ++ [made])).putLast field child =
      record.putChildren field (children ++ [child]) := by
  rw [putLast, children_putChildren, List.dropLast_concat]
  simp only [putChildren, Entries.put_put]

/-- Putting a nested record changes nothing under other names. -/
theorem putChild_beside (declares : Declares record.shape field .one) (child : Record) :
    Beside [field] record (record.putChild field child) where
  shape := rfl
  values := rfl
  child name absent := Entries.get?_put_of_ne _ _ (by simpa using absent)
  children _ _ := rfl
  declared declared := by
    refine ⟨fun name kept => ?_, declared.many⟩
    rcases (has_put _ _ _ _).mp kept with rfl | before
    · exact declares
    · exact declared.one name before

/-- Putting a list of nested records changes nothing under other names. -/
theorem putChildren_beside (declares : Declares record.shape field .many)
    (children : List Record) : Beside [field] record (record.putChildren field children) where
  shape := rfl
  values := rfl
  child _ _ := rfl
  children name absent :=
    congrArg (Option.getD · []) (Entries.get?_put_of_ne _ _ (by simpa using absent))
  declared declared := by
    refine ⟨declared.one, fun name kept => ?_⟩
    rcases (has_put _ _ _ _).mp kept with rfl | before
    · exact declares
    · exact declared.many name before

/-- Making a nested record anew succeeds for each field declared for a single one. -/
theorem resetChild?_eq (record : Record) (field : String) :
    record.resetChild? field = (record.declared? field .one).map fun shape =>
      (fresh shape, record.putChild field (fresh shape)) := by
  unfold resetChild?
  cases record.declared? field .one with
  | none => rfl
  | some shape => simp

/-- Adding a nested record succeeds for each field declared for a list. -/
theorem pushChild?_eq (record : Record) (field : String) :
    record.pushChild? field = (record.declared? field .many).map fun shape =>
      (fresh shape, record.putChildren field (record.children field ++ [fresh shape])) := by
  unfold pushChild?
  cases record.declared? field .many with
  | none => rfl
  | some shape => simp

@[simp] theorem children_clearChildren (record : Record) (field : String) :
    (record.clearChildren field).children field = [] := by
  unfold clearChildren
  split
  · exact children_putChildren record field []
  · next absent =>
    rw [children, Option.not_isSome_iff_eq_none.mp absent]
    rfl

/-- Clearing a list that is not declared leaves the record as it is. -/
theorem Declared.clearChildren_eq (declared : record.Declared)
    (undeclared : ¬ Declares record.shape field .many) : record.clearChildren field = record :=
  if_neg fun kept => undeclared (declared.many field kept)

theorem clearChildren_beside (declares : Declares record.shape field .many) :
    Beside [field] record (record.clearChildren field) := by
  unfold clearChildren
  split
  · exact putChildren_beside declares []
  · exact .refl _ _

/-- What is held under a name that is left alone does not change. -/
theorem Beside.held_eq {fields : List String} (beside : Beside fields record changed)
    {nested : Nested Shape} (absent : nested.field ∉ fields) :
    changed.held nested = record.held nested := by
  unfold held
  rw [beside.child _ absent, beside.children _ absent]

/-- What is held under fields that nothing is changed at is as before. -/
theorem Beside.map_held {fields : List String} (beside : Beside fields record changed)
    {nested : List (Nested Shape)} (apart : ∀ decl ∈ nested, decl.field ∉ fields) :
    nested.map changed.held = nested.map record.held :=
  List.map_congr_left fun decl listed => beside.held_eq (apart decl listed)

/-- A changed record shows the entity with what it now has under the names of the fields. -/
theorem Beside.shows {fields : List String} (beside : Beside fields record changed)
    (declared : record.Declared) {slots : List (Slot Entity)}
    (held : List.Forall₂ (Slot.Relates Shows) (record.shape.nested.map changed.held) slots) :
    changed.Shows ⟨record.shape, record.values, slots⟩ := by
  rw [← beside.shape] at held
  have seen := Shows.mk (beside.declared declared) held
  rwa [beside.shape, beside.values] at seen

/-- The declaration of a name, if there is one, is the only one. -/
theorem nested?_of_mem (distinct : (shape.nested.map Nested.field).Nodup) {nested : Nested Shape}
    (listed : nested ∈ shape.nested) : shape.nested? nested.field = some nested := by
  cases found : shape.nested? nested.field with
  | none => exact absurd (beq_self_eq_true _) (List.find?_eq_none.mp found nested listed)
  | some other =>
    obtain ⟨member, same⟩ := nested?_eq_some found
    rw [List.inj_on_of_nodup_map distinct member listed same]

/-- A name is declared in one way only. -/
theorem declares_unique (distinct : (shape.nested.map Nested.field).Nodup) {nested : Nested Shape}
    (listed : nested ∈ shape.nested) (declares : Declares shape nested.field nesting) :
    nested.nesting = nesting := by
  obtain ⟨other, member, same, kind⟩ := declares
  rwa [← List.inj_on_of_nodup_map distinct member listed same]

/-- A field is declared for what its nesting says, and for nothing else. -/
theorem declared?_of_nested? {nested : Nested Shape}
    (found : record.shape.nested? field = some nested) :
    record.declared? field nesting =
      if nested.nesting = nesting then some nested.shape else none := by
  unfold declared?
  rw [found, Option.filter_some]
  by_cases same : nested.nesting = nesting
  · simp [same]
  · simp [same]

/-- There is no single record under a name that is not declared for one. -/
theorem Declared.child?_eq_none (declared : record.Declared)
    (undeclared : ¬ Declares record.shape field .one) : record.child? field = none := by
  refine Option.eq_none_iff_forall_ne_some.mpr fun child kept => undeclared (declared.one field ?_)
  exact Option.isSome_iff_exists.mpr ⟨child, kept⟩

/-- There is no list under a name that is not declared for one. -/
theorem Declared.children_eq_nil (declared : record.Declared)
    (undeclared : ¬ Declares record.shape field .many) : record.children field = [] := by
  unfold children
  cases kept : Entries.get? record.many field with
  | none => rfl
  | some children =>
    exact absurd (declared.many field (Option.isSome_iff_exists.mpr ⟨children, kept⟩)) undeclared

/-- What is kept as a single record is held by the slot of the field. -/
theorem Declared.single?_held (declared : record.Declared)
    (distinct : (record.shape.nested.map Nested.field).Nodup) {nested : Nested Shape}
    (listed : nested ∈ record.shape.nested) :
    (record.held nested).single? = record.child? nested.field := by
  unfold held
  cases kind : nested.nesting with
  | one => cases record.child? nested.field <;> rfl
  | many =>
    have other : ¬ Declares record.shape nested.field .one := fun declares => by
      simpa [kind] using declares_unique distinct listed declares
    rw [declared.child?_eq_none other]
    rfl

/-- What is kept as a list is held by the slot of the field. -/
theorem Declared.elements_held (declared : record.Declared)
    (distinct : (record.shape.nested.map Nested.field).Nodup) {nested : Nested Shape}
    (listed : nested ∈ record.shape.nested) :
    (record.held nested).elements = record.children nested.field := by
  unfold held
  cases kind : nested.nesting with
  | one =>
    have other : ¬ Declares record.shape nested.field .many := fun declares => by
      simpa [kind] using declares_unique distinct listed declares
    rw [declared.children_eq_nil other]
    cases record.child? nested.field <;> rfl
  | many => rfl

end Record

/-- The slot of a field is found where the field is declared. -/
theorem Entity.slotIndex?_nested (entity : Entity) (field : String) :
    (entity.slotIndex? field).map Prod.snd = entity.shape.nested? field := by
  have places : entity.shape.nested.zipIdx.map Prod.fst = entity.shape.nested :=
    List.zipIdx_map_fst 0 _
  conv_rhs => rw [Shape.nested?, ← places, List.find?_map]
  rw [slotIndex?, Option.map_map]
  rfl

/-- One of two related lists is changed at a place, and the relation with it at the others. -/
theorem forall₂_set_of {α β : Type} {related other : α → β → Prop} {firsts : List α}
    {seconds : List β} (all : List.Forall₂ related firsts seconds) {index : Nat} {second : β}
    (here : ∀ first, firsts[index]? = some first → other first second)
    (rest : ∀ place first, place ≠ index → firsts[place]? = some first →
      ∀ second, related first second → other first second) :
    List.Forall₂ other firsts (seconds.set index second) := by
  rw [List.forall₂_iff_get] at all ⊢
  obtain ⟨length, each⟩ := all
  refine ⟨by rwa [List.length_set], fun place inside within => ?_⟩
  have held : firsts[place]? = some (firsts.get ⟨place, inside⟩) := List.getElem?_eq_getElem inside
  by_cases same : place = index
  · subst same
    simpa using here _ held
  · have kept := each place inside (length ▸ inside)
    simpa [List.getElem_set_of_ne (Ne.symm same)] using rest place _ same held _ kept

/-- What is related goes on to what is related, or there is nothing on either side. -/
theorem rel_bind {α β γ δ : Type} {related : α → β → Prop} {other : γ → δ → Prop}
    {first : Option α} {second : Option β} {next : α → Option γ} {next' : β → Option δ}
    (results : Option.Rel related first second)
    (onward : ∀ one two, related one two → Option.Rel other (next one) (next' two)) :
    Option.Rel other (first.bind next) (second.bind next') := by
  cases results with
  | none => exact .none
  | some both => exact onward _ _ both

/-- Related lists hold what is related at each position, or neither has this position. -/
theorem rel_getElem? {α β : Type} {related : α → β → Prop} {firsts : List α} {seconds : List β}
    (all : List.Forall₂ related firsts seconds) (index : Nat) :
    Option.Rel related firsts[index]? seconds[index]? := by
  induction all generalizing index with
  | nil => exact .none
  | cons head _ ih =>
    cases index with
    | zero => exact .some head
    | succ index => exact ih index

/-- Related lists stay related with related things put in the same place of both. -/
theorem forall₂_set_set {α β : Type} {related : α → β → Prop} {firsts : List α} {seconds : List β}
    (all : List.Forall₂ related firsts seconds) (index : Nat) {first : α} {second : β}
    (also : related first second) :
    List.Forall₂ related (firsts.set index first) (seconds.set index second) := by
  induction all generalizing index with
  | nil => exact .nil
  | cons head rest ih =>
    cases index with
    | zero => exact .cons also rest
    | succ index => exact .cons head (ih index)

namespace Record.Shows

variable {record changed : Record} {entity : Entity}

/-- The entity that a record shows has its shape. -/
theorem shape_eq (shows : record.Shows entity) : entity.shape = record.shape := by
  cases shows
  rfl

/-- The entity that a record shows has its values. -/
theorem values_eq (shows : record.Shows entity) : entity.values = record.values := by
  cases shows
  rfl

/-- A record that shows an entity has nothing under names that are not declared. -/
theorem declared (shows : record.Shows entity) : record.Declared := by
  cases shows with
  | mk declared => exact declared

/-- The slots of the entity are what the record holds, field by field. -/
theorem slots (shows : record.Shows entity) :
    List.Forall₂ (Slot.Relates Shows) (record.shape.nested.map record.held) entity.slots := by
  cases shows with
  | mk _ slots => exact slots

/-- What a declared field has is what its slot holds. -/
theorem slot (shows : record.Shows entity) {field : String} {index : Nat} {nested : Nested Shape}
    (place : entity.slotIndex? field = some (index, nested)) :
    nested ∈ record.shape.nested ∧ nested.field = field ∧
      ∃ slot, entity.slot? field = some slot ∧ Slot.Relates Shows (record.held nested) slot := by
  obtain ⟨declared, same⟩ := Entity.slotIndex?_eq_some place
  rw [shows.shape_eq] at declared
  have held := List.forall₂_map_left_iff.mp shows.slots
  have bound : index < entity.slots.length :=
    held.length_eq ▸ (List.getElem?_eq_some_iff.mp declared).1
  have filled := List.getElem?_eq_getElem bound
  refine ⟨List.mem_of_getElem? declared, same, _, ?_, forall₂_getElem? held declared filled⟩
  rw [Entity.slot?, place]
  exact filled

/-- A field without a slot is not declared. -/
theorem not_declares (shows : record.Shows entity) {field : String}
    (absent : entity.slotIndex? field = none) (nesting : Nesting) :
    ¬ Declares record.shape field nesting := by
  rintro ⟨nested, listed, same, -⟩
  have missing := entity.slotIndex?_nested field
  rw [absent, shows.shape_eq] at missing
  exact absurd (beq_iff_eq.mpr same) (List.find?_eq_none.mp missing.symm nested listed)

variable (distinct : (record.shape.nested.map Nested.field).Nodup)

include distinct

/-- Changing what is kept under the name of a field is changing its slot. -/
theorem putSlot (shows : record.Shows entity) {field : String} {index : Nat}
    {nested : Nested Shape} (place : entity.slotIndex? field = some (index, nested))
    (beside : Beside [field] record changed) {slot : Slot Entity}
    (relates : Slot.Relates Shows (changed.held nested) slot) :
    changed.Shows (entity.putSlot index slot) := by
  obtain ⟨declared, rfl⟩ := Entity.slotIndex?_eq_some place
  rw [shows.shape_eq] at declared
  have all : List.Forall₂ (fun nested slot => Slot.Relates Shows (changed.held nested) slot)
      record.shape.nested (entity.slots.set index slot) := by
    -- The record is changed under a name and the entity at a position. No name is declared twice.
    refine forall₂_set_of (List.forall₂_map_left_iff.mp shows.slots) ?_ ?_
    · intro first here
      obtain rfl := Option.some.inj (declared.symm.trans here)
      exact relates
    · intro position other away listed slot kept
      have apart : other.field ≠ nested.field := by
        intro same
        have inside : position < (record.shape.nested.map Nested.field).length := by
          rw [List.length_map]
          exact (List.getElem?_eq_some_iff.mp listed).1
        refine away ((List.getElem?_inj inside distinct).mp ?_)
        rw [List.getElem?_map, List.getElem?_map, listed, declared, Option.map_some, same]
        rfl
      rwa [beside.held_eq (by simpa using apart)]
  have seen := beside.shows shows.declared (List.forall₂_map_left_iff.mpr all)
  rwa [← shows.shape_eq, ← shows.values_eq] at seen

/-- The single records that are nested are those of the entity, name by name. -/
theorem child? (shows : record.Shows entity) (field : String) :
    Option.Rel Shows (record.child? field) (entity.child? field) := by
  cases place : entity.slotIndex? field with
  | none =>
    rw [shows.declared.child?_eq_none (shows.not_declares place .one)]
    simp only [Entity.child?, Entity.slot?, place, Option.bind_none]
    exact .none
  | some found =>
    obtain ⟨listed, rfl, slot, filled, relates⟩ := shows.slot place
    have seen : entity.child? found.2.field = slot.single? := by
      rw [Entity.child?, filled]
      cases slot <;> rfl
    rw [seen, ← shows.declared.single?_held distinct listed]
    exact relates.single?

/-- The lists of nested records are those of the entity, name by name. -/
theorem children (shows : record.Shows entity) (field : String) :
    List.Forall₂ Shows (record.children field) (entity.children field) := by
  cases place : entity.slotIndex? field with
  | none =>
    rw [shows.declared.children_eq_nil (shows.not_declares place .many)]
    simp only [Entity.children, Entity.slot?, place, Option.bind_none]
    exact .nil
  | some found =>
    obtain ⟨listed, rfl, slot, filled, relates⟩ := shows.slot place
    have seen : entity.children found.2.field = slot.elements := by
      rw [Entity.children, filled]
      cases slot <;> rfl
    rw [seen, ← shows.declared.elements_held distinct listed]
    exact relates.elements

omit distinct in
/-- The values of a record are those of the entity, whatever is written into them. -/
theorem withValues (shows : record.Shows entity) (values : Entries Value) :
    Shows { record with values := values } { entity with values := values } := by
  cases shows with
  | mk declared slots => exact .mk ⟨declared.one, declared.many⟩ slots

omit distinct in
/-- Writing a value succeeds for both or fails for both with the same error. -/
theorem set (shows : record.Shows entity) (field : String) (value : Value) :
    (∃ error, record.set field value = .error error ∧
        entity.set .record field value = .error error) ∨
      ∃ changed other, record.set field value = .ok changed ∧
        entity.set .record field value = .ok other ∧ changed.Shows other := by
  have written := shows.withValues (record.values.put field value)
  cases shows
  unfold Record.set Entity.set Conduct.record
  by_cases known : record.shape.hasField field = true
  · simp only [known, ↓reduceIte]
    exact .inr ⟨_, _, rfl, rfl, written⟩
  · simp only [known, Bool.false_eq_true, ↓reduceIte]
    exact .inl ⟨_, rfl, rfl⟩

omit distinct in
/-- A position of the entity is a declared field of the record. -/
theorem nested?_eq (shows : record.Shows entity) {field : String} {index : Nat}
    {nested : Nested Shape} (place : entity.slotIndex? field = some (index, nested)) :
    record.shape.nested? field = some nested := by
  rw [← shows.shape_eq, ← entity.slotIndex?_nested, place]
  rfl

omit distinct in
/-- A name without a position in the entity is not declared for the record. -/
theorem declared?_eq_none (shows : record.Shows entity) {field : String}
    (absent : entity.slotIndex? field = none) (nesting : Nesting) :
    record.declared? field nesting = none := by
  unfold declared?
  rw [← shows.shape_eq, ← entity.slotIndex?_nested, absent]
  rfl

end Record.Shows

/-- A fresh record shows the fresh entity of its shape. -/
theorem Record.shows_fresh (shape : Shape) : (Record.fresh shape).Shows (Entity.fresh shape) := by
  refine .mk ⟨fun field kept => absurd kept Bool.false_ne_true,
    fun field kept => absurd kept Bool.false_ne_true⟩ ?_
  rw [List.forall₂_map_left_iff, List.forall₂_map_right_iff]
  refine List.forall₂_same.mpr fun nested _ => ?_
  obtain ⟨field, nesting, inner⟩ := nested
  cases nesting with
  | one => exact .vacant
  | many => exact .many .nil

namespace Record.Shows

variable {record : Record} {entity : Entity}
  (distinct : (record.shape.nested.map Nested.field).Nodup)

include distinct

/-- Making a nested record anew is doing so with the nested entity, for any name. -/
theorem resetChild? (shows : record.Shows entity) (field : String) :
    Option.Rel (fun made changed => made.2.Shows changed) (record.resetChild? field)
      (entity.resetChild? .record field) := by
  rw [resetChild?_eq, Entity.resetChild?]
  cases place : entity.slotIndex? field with
  | none =>
    rw [shows.declared?_eq_none place]
    exact .none
  | some found =>
    obtain ⟨index, ⟨name, nesting, inner⟩⟩ := found
    obtain ⟨listed, rfl, _⟩ := shows.slot place
    rw [declared?_of_nested? (shows.nested?_eq place)]
    cases nesting with
    | one =>
      have beside := putChild_beside ⟨_, listed, rfl, rfl⟩ (Record.fresh inner)
      refine .some (shows.putSlot distinct place beside ?_)
      simp only [held, child?_putChild]
      exact .one (shows_fresh inner)
    | many => exact .none

/-- Adding a nested record is adding a nested entity, for any name. -/
theorem pushChild? (shows : record.Shows entity) (field : String) :
    Option.Rel (fun made changed => made.2.Shows changed) (record.pushChild? field)
      (entity.pushChild? .record field) := by
  rw [pushChild?_eq, Entity.pushChild?]
  cases place : entity.slotIndex? field with
  | none =>
    rw [shows.declared?_eq_none place]
    exact .none
  | some found =>
    obtain ⟨index, ⟨name, nesting, inner⟩⟩ := found
    obtain ⟨listed, rfl, _⟩ := shows.slot place
    rw [declared?_of_nested? (shows.nested?_eq place)]
    cases nesting with
    | one => exact .none
    | many =>
      have beside := putChildren_beside ⟨_, listed, rfl, rfl⟩
        (record.children name ++ [Record.fresh inner])
      refine .some (shows.putSlot distinct place beside ?_)
      simp only [held, children_putChildren]
      exact .many (List.rel_append (shows.children distinct name) (.cons (shows_fresh inner) .nil))

/-- Clearing a list is clearing that of the entity, for any name. -/
theorem clearChildren (shows : record.Shows entity) (field : String) :
    (record.clearChildren field).Shows (entity.clearChildren field) := by
  rw [Entity.clearChildren]
  cases place : entity.slotIndex? field with
  | none =>
    rw [shows.declared.clearChildren_eq (shows.not_declares place .many)]
    exact shows
  | some found =>
    obtain ⟨index, ⟨name, nesting, inner⟩⟩ := found
    obtain ⟨listed, rfl, _⟩ := shows.slot place
    cases nesting with
    | one =>
      have other : ¬ Declares record.shape name .many := fun declares =>
        absurd (declares_unique distinct listed declares) (by simp)
      rw [shows.declared.clearChildren_eq other]
      exact shows
    | many =>
      refine shows.putSlot distinct place (clearChildren_beside ⟨_, listed, rfl, rfl⟩) ?_
      simp only [held, children_clearChildren]
      exact .many .nil

end Record.Shows

end Scrutiny
