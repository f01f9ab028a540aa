import Scrutiny.Proofs.Record.Filling
import Scrutiny.Proofs.Value.Equality

/-! # Fields left alone

A converter that excludes some names leaves the fields of these names alone, in a record and in all
that is nested in it. So what a source has under such a name does not matter. Two sources that are
the same once these members are deleted (`Shape.without`) are copied alike: both copies go through,
or both stop with the same failure, and they leave equal records (`populate_excluding`).
-/

namespace Scrutiny

namespace Value

mutual

/-- A value in which every object is changed, but for what stands in objects. -/
def mapObjects (change : Entries Value → Entries Value) : Value → Value
  | .object members => .object (change members)
  | .list items => .list (mapItems change items)
  | value => value

def mapItems (change : Entries Value → Entries Value) : List Value → List Value
  | [] => []
  | item :: items => mapObjects change item :: mapItems change items

end

/-- Two values of one kind. Their objects are related, and so are the items of lists, one by one. -/
inductive Parallel (related : Entries Value → Entries Value → Prop) : Value → Value → Prop
  | null : Parallel related .null .null
  | bool {value other : Bool} : Parallel related (.bool value) (.bool other)
  | number {value other : Number} : Parallel related (.number value) (.number other)
  | string {text other : String} : Parallel related (.string text) (.string other)
  | list {items others : List Value} :
      List.Forall₂ (Parallel related) items others → Parallel related (.list items) (.list others)
  | object {members others : Entries Value} :
      related members others → Parallel related (.object members) (.object others)

end Value

mutual

/-- The members of an object without those of some names. They are deleted in the objects under the
fields for nested entities as well, at any depth. -/
def Shape.without (names : List String) : Shape → Entries Value → Entries Value
  | ⟨_, _, _, _, nested⟩, members =>
    (members.filter fun member => !names.contains member.1).map fun member =>
      (member.1, withoutAt names nested member.1 member.2)

def withoutAt (names : List String) : List (Nested Shape) → String → Value → Value
  | [], _, value => value
  | nested :: others, name, value =>
    if nested.field = name then value.mapObjects (withoutIn names nested)
    else withoutAt names others name value

def withoutIn (names : List String) : Nested Shape → Entries Value → Entries Value
  | ⟨_, _, shape⟩, members => shape.without names members

end

/-- Two entities have the same shape, equal values under all names, and nested entities that are
equal. -/
inductive Entity.Equals : Entity → Entity → Prop
  | mk {shape : Shape} {values others : Entries Value} {slots further : List (Slot Entity)} :
      (∀ name, Conduct.stored values name = Conduct.stored others name ∨
        (Conduct.stored values name).same (Conduct.stored others name)) →
      List.Forall₂ (Slot.Agrees Equals) slots further →
      Equals ⟨shape, values, slots⟩ ⟨shape, others, further⟩

mutual

theorem Entity.Equals.refl : ∀ entity : Entity, entity.Equals entity
  | ⟨_, _, slots⟩ => .mk (fun _ => .inl rfl) (slots_equal slots)

theorem slots_equal : ∀ slots : List (Slot Entity),
    List.Forall₂ (Slot.Agrees Entity.Equals) slots slots
  | [] => .nil
  | slot :: slots => .cons (slot_equals slot) (slots_equal slots)

theorem slot_equals : ∀ slot : Slot Entity, Slot.Agrees Entity.Equals slot slot
  | .vacant => .vacant
  | .one child => .one (Entity.Equals.refl child)
  | .many children => .many (children_equal children)

theorem children_equal : ∀ children : List Entity, List.Forall₂ Entity.Equals children children
  | [] => .nil
  | child :: children => .cons (Entity.Equals.refl child) (children_equal children)

end

/-- Two objects without repeated names that are the same without the members of some names. -/
def Shape.Alike (names : List String) (shape : Shape) (members others : Entries Value) : Prop :=
  (Value.object members).Unambiguous ∧
    (Value.object (shape.without names members)).same (.object (shape.without names others))

namespace Value

variable {change : Entries Value → Entries Value}

mutual

/-- Values that are the same once changed have objects in the same places. -/
theorem parallel_of_same : ∀ {value other : Value}, value.Unambiguous →
    (value.mapObjects change).same (other.mapObjects change) →
    Parallel (fun members others => (object members).Unambiguous ∧
      (object (change members)).same (object (change others))) value other
  | .null, .null, _, _ => .null
  | .bool _, .bool _, _, _ => .bool
  | .number _, .number _, _, _ => .number
  | .string _, .string _, _, _ => .string
  | .list _, .list _, .list clear, same => .list (parallel_of_sameItems clear same)
  | .object _, .object _, clear, same => .object ⟨clear, same⟩

theorem parallel_of_sameItems : ∀ {items others : List Value}, (∀ item ∈ items, item.Unambiguous) →
    sameItems (mapItems change items) (mapItems change others) →
    List.Forall₂ (Parallel fun members others => (object members).Unambiguous ∧
      (object (change members)).same (object (change others))) items others
  | [], [], _, _ => .nil
  | item :: items, other :: others, clear, same => by
    obtain ⟨first, rest⟩ := Bool.and_eq_true_iff.mp same
    exact .cons (parallel_of_same (clear item List.mem_cons_self) first)
      (parallel_of_sameItems (fun item member => clear item (List.mem_cons_of_mem _ member)) rest)

end

/-- What is written over a previous value is the same for both. -/
theorem writtenOver_alike {value other : Value} (clear : value.Unambiguous)
    (same : value.same other) (previous : Value) :
    value.writtenOver previous = other.writtenOver previous ∨
      (value.writtenOver previous).same (other.writtenOver previous) := by
  unfold writtenOver
  -- Both are the same as the value before or neither is, so a write is left out in both copies.
  by_cases kept : value.same previous
  · have also : other.same previous := same_trans (same_symm clear same) kept
    rw [if_pos kept, if_pos also]
    exact .inl rfl
  · have also : ¬ other.same previous := fun held => kept (same_trans same held)
    rw [if_neg kept, if_neg also]
    exact .inr same

end Value

namespace Entries

variable {α β : Type}

theorem get?_map_entry (f : String → α → β) (entries : Entries α) (key : String) :
    get? (entries.map fun entry => (entry.1, f entry.1 entry.2)) key =
      (entries.get? key).map (f key) := by
  induction entries with
  | nil => rfl
  | cons entry rest ih =>
    by_cases same : entry.1 = key
    · rw [List.map_cons, get?, if_pos same, get?, if_pos same, same]
      rfl
    · rw [List.map_cons, get?, if_neg same, get?, if_neg same, ih]

end Entries

namespace Shape

variable {names : List String} {shape : Shape} {members others : Entries Value}

/-- Deleting names drops their members and deletes them in what is nested. -/
theorem without_eq (names : List String) (shape : Shape) (members : Entries Value) :
    shape.without names members =
      (members.filter fun member => !names.contains member.1).map fun member =>
        (member.1, withoutAt names shape.nested member.1 member.2) := by
  cases shape
  rw [Shape.without]

/-- A member that is not deleted is found, with the names deleted in it. -/
theorem get?_without {name : String} (left : name ∉ names) (shape : Shape)
    (members : Entries Value) : (shape.without names members).get? name =
      (members.get? name).map (withoutAt names shape.nested name) := by
  have kept : (!names.contains name) = true := by simpa using left
  rw [without_eq, Entries.get?_map_entry (withoutAt names shape.nested),
    Entries.get?_filter members (fun name => !names.contains name) kept]

theorem nodup_without (distinct : members.keys.Nodup) :
    (shape.without names members).keys.Nodup := by
  have keys : (shape.without names members).keys =
      (members.filter fun member => !names.contains member.1).map Prod.fst := by
    rw [without_eq, Entries.keys, List.map_map]
    rfl
  rw [keys]
  exact distinct.sublist (List.filter_sublist.map _)

/-- A value that is not nested stays as it is. -/
theorem withoutAt_of_notMem {nested : List (Nested Shape)} {name : String}
    (apart : name ∉ nested.map Nested.field) (value : Value) :
    withoutAt names nested name value = value := by
  induction nested with
  | nil => rw [withoutAt]
  | cons decl others ih =>
    obtain ⟨different, further⟩ := not_or.mp (mt List.mem_cons.mpr apart)
    rw [withoutAt, if_neg (Ne.symm different), ih further]

/-- In what is nested the names are deleted as its shape says. -/
theorem withoutAt_of_mem {nested : List (Nested Shape)} (distinct : (nested.map Nested.field).Nodup)
    {decl : Nested Shape} (listed : decl ∈ nested) (value : Value) :
    withoutAt names nested decl.field value = value.mapObjects (decl.shape.without names) := by
  induction nested with
  | nil => exact absurd listed List.not_mem_nil
  | cons first others ih =>
    obtain ⟨apart, distinct⟩ := List.nodup_cons.mp distinct
    rcases List.mem_cons.mp listed with rfl | later
    · rw [withoutAt, if_pos rfl]
      obtain ⟨field, nesting, shape⟩ := decl
      rfl
    · have different : first.field ≠ decl.field :=
        fun same => apart (same ▸ List.mem_map_of_mem later)
      rw [withoutAt, if_neg different, ih distinct later]

namespace Alike

variable (alike : shape.Alike names members others)

include alike

/-- What two objects have under a name that is not deleted is the same once the names are deleted in
it. -/
theorem rel_get? {name : String} (left : name ∉ names) :
    Option.Rel (fun value other => value.Unambiguous ∧
        (withoutAt names shape.nested name value).same (withoutAt names shape.nested name other))
      (members.get? name) (others.get? name) := by
  obtain ⟨clear, same⟩ := alike
  cases clear with
  | object distinct each =>
    have related := Value.rel_get? (nodup_without distinct) same name
    rw [get?_without left, get?_without left] at related
    cases held : members.get? name with
    | none =>
      cases found : others.get? name with
      | none => exact .none
      | some other =>
        rw [held, found] at related
        cases related
    | some value =>
      cases found : others.get? name with
      | none =>
        rw [held, found] at related
        cases related
      | some other =>
        rw [held, found] at related
        cases related with
        | some same => exact .some ⟨each _ (Entries.mem_of_get? held), same⟩

variable (built : shape.Built)

include built

/-- The sources have the same in every field that is not excluded. -/
theorem field {field : String} (declared : field ∈ shape.fields) (left : field ∉ names) :
    Option.Rel (fun value other => value.Unambiguous ∧ value.same other)
      (members.get? field) (others.get? field) := by
  have related := alike.rel_get? left
  simp only [withoutAt_of_notMem (built.apart declared)] at related
  exact related

/-- The sources have objects that are alike in every field for nested entities that is not
excluded. -/
theorem nested {decl : Nested Shape} (listed : decl ∈ shape.nested) (left : decl.field ∉ names) :
    Option.Rel (Value.Parallel (decl.shape.Alike names))
      (members.get? decl.field) (others.get? decl.field) := by
  have related := alike.rel_get? left
  simp only [withoutAt_of_mem built.nodup_nested listed] at related
  generalize members.get? decl.field = value, others.get? decl.field = other at related ⊢
  cases related with
  | none => exact .none
  | some both => exact .some (Value.parallel_of_same both.1 both.2)

end Alike

end Shape

namespace Copying

variable {names : List String}

/-- Two copies end in the same way, and what they give is related. -/
def Matches {α : Type} (related : α → α → Prop) (first second : Copied α) : Prop :=
  first.failure = second.failure ∧ related first.result second.result

/-- Fields that are taken from both objects have the same values. -/
theorem takes_alike {shape : Shape} {level other : Level} {before after further : Entries Value}
    (built : shape.Built) (alike : shape.Alike names level.source other.source)
    (first : Takes (.excluding names .plain) level shape.fields before after)
    (second : Takes (.excluding names .plain) other shape.fields before further) (name : String) :
    Conduct.stored after name = Conduct.stored further name ∨
      (Conduct.stored after name).same (Conduct.stored further name) := by
  by_cases declared : name ∈ shape.fields
  · rw [first.field name declared, second.field name declared]
    by_cases excluded : name ∈ names
    -- The value before is that of one record, whatever the sources have.
    · have listed : names.contains name = true := by simpa using excluded
      have passed (level : Level) : (Converter.excluding names .plain).convert
          (level.binding name (Conduct.stored before name)) = Conduct.stored before name :=
        if_pos listed
      rw [passed, passed]
      exact .inl rfl
    · have listed : ¬ names.contains name = true := by simpa using excluded
      have taken (level : Level) : (Converter.excluding names .plain).convert
          (level.binding name (Conduct.stored before name)) =
            (level.source.get? name).getD (Conduct.stored before name) :=
        if_neg listed
      rw [taken, taken]
      have related := alike.field built declared excluded
      generalize level.source.get? name = value, other.source.get? name = candidate at related ⊢
      cases related with
      | none => exact .inl rfl
      | some both => exact Value.writtenOver_alike both.1 both.2 _
  · have kept := (first.other name declared).trans (second.other name declared).symm
    exact .inl (Conduct.stored_congr kept)

/-- Elements filled from lists alike are equal, and stop alike. -/
theorem fillElements_alike {shape : Shape} {fill : Level → Copied Entity}
    (each : ∀ {level other : Level}, level.path = other.path →
      shape.Alike names level.source other.source → Matches Entity.Equals (fill level) (fill other))
    {items others : List Value}
    (parallel : List.Forall₂ (Value.Parallel (shape.Alike names)) items others)
    (source further : Entries Value) (key : String) (index : Nat) :
    Matches (List.Forall₂ Entity.Equals) (fillElements fill none source key index items)
      (fillElements fill none further key index others) := by
  induction parallel generalizing index with
  | nil => exact ⟨rfl, .nil⟩
  | @cons item other items others first _ ih =>
    cases first with
    | @object members contents alike =>
      obtain ⟨ends, equals⟩ := @each ⟨members, Path.elementKey key index, some source⟩
        ⟨contents, Path.elementKey key index, some further⟩ rfl alike
      obtain ⟨done, equal⟩ := ih (index + 1)
      simp only [fillElements, ends]
      split
      · exact ⟨rfl, .cons equals .nil⟩
      · exact ⟨done, .cons equals equal⟩
    | _ => exact ⟨rfl, .nil⟩

mutual

/-- Sources that are alike are copied alike. -/
theorem fill_alike : ∀ (shape : Shape) (values : Entries Value) (slots : List (Slot Entity))
    {level other : Level}, shape.Built → slots.length = shape.nested.length →
    level.path = other.path → shape.Alike names level.source other.source →
    Matches Entity.Equals (fill ⟨.record, .excluding names .plain⟩ shape values slots level)
      (fill ⟨.record, .excluding names .plain⟩ shape values slots other)
  | ⟨name, fields, labels, rules, nested⟩, values, slots, level, other, built, length, here,
      alike => by
    obtain ⟨goes, first⟩ := fillFields_built (.excluding names .plain) level built values
    obtain ⟨also, second⟩ := fillFields_built (.excluding names .plain) other built values
    have taken := takes_alike built alike first second
    obtain ⟨ends, equal⟩ := fillSlots_alike name nested slots built.nested length here
      fun decl listed => alike.nested built listed
    simp only [fill, goes, also]
    exact ⟨ends, .mk taken equal⟩

/-- Fields filled from objects alike agree, and stop alike. -/
theorem fillSlots_alike (name : String) : ∀ (nested : List (Nested Shape))
    (slots : List (Slot Entity)) {level other : Level}, (∀ decl ∈ nested, decl.shape.Built) →
    slots.length = nested.length → level.path = other.path →
    (∀ decl ∈ nested, decl.field ∉ names → Option.Rel (Value.Parallel (decl.shape.Alike names))
      (level.source.get? decl.field) (other.source.get? decl.field)) →
    Matches (List.Forall₂ (Slot.Agrees Entity.Equals))
      (fillSlots ⟨.record, .excluding names .plain⟩ name (fun _ => true) nested slots level)
      (fillSlots ⟨.record, .excluding names .plain⟩ name (fun _ => true) nested slots other)
  | [], [], level, other, _, _, _, _ => by
    simp only [fillSlots]
    exact ⟨rfl, .nil⟩
  | decl :: nested, slot :: slots, level, other, built, length, here, alike => by
    obtain ⟨ends, equals⟩ := fillSlot_alike name decl slot (built decl List.mem_cons_self) here
      (alike decl List.mem_cons_self)
    obtain ⟨done, equal⟩ := fillSlots_alike name nested slots
      (fun decl member => built decl (List.mem_cons_of_mem _ member)) (Nat.succ.inj length) here
      (fun decl member => alike decl (List.mem_cons_of_mem _ member))
    simp only [fillSlots, ends]
    split
    · exact ⟨rfl, .cons equals (slots_equal slots)⟩
    · exact ⟨done, .cons equals equal⟩

/-- A field filled from objects alike agrees, and stops alike. -/
theorem fillSlot_alike (name : String) : ∀ (decl : Nested Shape) (slot : Slot Entity)
    {level other : Level}, decl.shape.Built → level.path = other.path →
    (decl.field ∉ names → Option.Rel (Value.Parallel (decl.shape.Alike names))
      (level.source.get? decl.field) (other.source.get? decl.field)) →
    Matches (Slot.Agrees Entity.Equals)
      (fillSlot ⟨.record, .excluding names .plain⟩ name (fun _ => true) decl slot level)
      (fillSlot ⟨.record, .excluding names .plain⟩ name (fun _ => true) decl slot other)
  | ⟨field, nesting, shape⟩, slot, level, other, built, here, alike => by
    have made {level other : Level} (here : level.path = other.path)
        (alike : shape.Alike names level.source other.source) :=
      fill_alike shape [] (Entity.fresh shape).slots built (List.length_map _) here alike
    obtain ⟨source, path, parent⟩ := level
    obtain ⟨further, _, above⟩ := other
    obtain rfl : path = _ := here
    by_cases excluded : field ∈ names
    -- An excluded field is passed over before the sources are looked at.
    · have listed : names.contains field = true := by simpa using excluded
      simp only [fillSlot, Converter.enters, listed]
      exact ⟨rfl, slot_equals slot⟩
    · have listed : names.contains field = false := by simpa using excluded
      have related := alike excluded
      dsimp only at related
      simp only [fillSlot, Converter.enters, listed]
      generalize source.get? field = value, further.get? field = candidate at related ⊢
      cases related with
      | none => exact ⟨rfl, slot_equals slot⟩
      | some parallel =>
        cases parallel with
        | null => exact ⟨rfl, slot_equals slot⟩
        | object inner =>
          cases nesting with
          | one =>
            obtain ⟨ends, equals⟩ := @made ⟨_, Path.fieldKey path field, some source⟩
              ⟨_, Path.fieldKey path field, some further⟩ rfl inner
            exact ⟨ends, .one equals⟩
          | many => exact ⟨rfl, slot_equals slot⟩
        | list parallel =>
          cases nesting with
          | one => exact ⟨rfl, slot_equals slot⟩
          | many =>
            obtain ⟨ends, equal⟩ := fillElements_alike made parallel source further
              (Path.fieldKey path field) 0
            exact ⟨ends, .many equal⟩
        -- Values of any other kind are refused, and the failure names nothing but the kind.
        | _ => cases nesting <;> exact ⟨rfl, slot_equals slot⟩

end

end Copying

/-- **An excluded field's value does not matter.** Two objects without repeated names that are the
same once the members of some names are deleted, in them and in the objects under the fields for
nested entities at any depth, are copied alike by a converter that excludes these names, into a
record of a built shape, whatever changes have led to it. Both copies go through or both stop with
the same failure, and they leave equal records. -/
theorem populate_excluding {shape : Shape} {record : Entity} (built : shape.Built)
    (reachable : Entity.Reachable shape record) (names : List String)
    {members others : Entries Value} (clear : (Value.object members).Unambiguous)
    (same : (Value.object (shape.without names members)).same
      (.object (shape.without names others))) :
    let first := populate .record (.excluding names .plain) record (.object members)
    let second := populate .record (.excluding names .plain) record (.object others)
    first.failure = second.failure ∧ first.result.Equals second.result := by
  cases reachable.conforms with
  | @mk _ values slots fits =>
    have alike : shape.Alike names members others := ⟨clear, same⟩
    exact @Copying.fill_alike names shape values slots ⟨members, "", none⟩ ⟨others, "", none⟩ built
      fits.length_eq.symm rfl alike

/-- Without its gift and the quantities of its lines, an order is copied alike whether the source
has them, and whatever they are. -/
theorem populate_excluding_filledOrder :
    let names := ["qty", "gift"]
    let members := [("id", Value.string "8"), ("gift", .bool true),
      ("lines", .list [.object [("qty", .string "one")], .object []])]
    let others := [("lines", Value.list [.object [], .object [("qty", .list [])]]),
      ("id", .string "8")]
    let first := populate .record (.excluding names .plain) Entity.filledOrder (.object members)
    let second := populate .record (.excluding names .plain) Entity.filledOrder (.object others)
    Entity.orderShape.Built ∧ Entity.Reachable Entity.orderShape Entity.filledOrder ∧
      (Value.object members).Unambiguous ∧
      (Value.object (Entity.orderShape.without names members)).same
        (.object (Entity.orderShape.without names others)) ∧
      first.failure = none ∧ second.failure = none ∧ first.result.Equals second.result := by
  intro names members others first second
  have built := Entity.orderShape_built
  have reachable := Entity.filledOrder_reachable
  have quantity : (Value.object [("qty", .string "one")]).Unambiguous :=
    .object (by decide) (List.forall_mem_singleton.mpr (.string _))
  have empty : (Value.object []).Unambiguous :=
    .object (by decide) fun _ listed => absurd listed List.not_mem_nil
  have lines := Value.Unambiguous.list (List.forall_mem_cons.mpr
    ⟨quantity, List.forall_mem_singleton.mpr empty⟩)
  have clear : (Value.object members).Unambiguous :=
    .object (by decide) (List.forall_mem_cons.mpr
      ⟨.string _, List.forall_mem_cons.mpr ⟨.bool _, List.forall_mem_singleton.mpr lines⟩⟩)
  have same : (Value.object (Entity.orderShape.without names members)).same
      (.object (Entity.orderShape.without names others)) := rfl
  obtain ⟨ends, equals⟩ := populate_excluding built reachable names clear same
  have done : first.failure = none := rfl
  exact ⟨built, reachable, clear, same, done, ends.symm.trans done, equals⟩

end Scrutiny
