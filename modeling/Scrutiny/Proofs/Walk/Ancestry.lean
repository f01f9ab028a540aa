import Scrutiny.Proofs.Walk.Account

/-! # Path keys and ancestry

Where the names in a tree are not empty and hold no brackets, the path keys tell as much about it
as the addresses of its entities: a key can be cut into the names and positions that it was made of.
So the rules of a field stand at or below the key of an entity only if they are those of the entity
or of one nested in it, or if the field is the one that holds the entity as its single one
(`Walk.isUnder_key_iff`).
-/

namespace Scrutiny

namespace Path

/-- Whether a name can stand between brackets: it is not empty and has none itself. -/
def isPlainName (name : String) : Bool :=
  !name.isEmpty && name.toList.all fun c => c != '[' && c != ']'

/-- The names and positions that a key is made of. -/
def segments (key : String) : List (List Char) :=
  if key.isEmpty then [] else (key.toList.splitOn '[').map fun part => part.filter (· ≠ ']')

/-- A plain name is not empty and holds no brackets. -/
theorem isPlainName_iff {name : String} :
    isPlainName name ↔ name ≠ "" ∧ ∀ c ∈ name.toList, c ≠ '[' ∧ c ≠ ']' := by
  simp [isPlainName]

/-- The key of a field of an entity that is not the root is in brackets after the key of the entity.
-/
theorem fieldKey_of_ne {parent : String} (field : String) (inside : parent ≠ "") :
    fieldKey parent field = parent ++ "[" ++ field ++ "]" := by
  simp [fieldKey, inside]

theorem fieldKey_root (field : String) : fieldKey "" field = field := rfl

/-- A part in brackets adds a segment. -/
theorem segments_append {parent part : String} (inside : parent ≠ "")
    (plain : ∀ c ∈ part.toList, c ≠ '[' ∧ c ≠ ']') :
    segments (parent ++ "[" ++ part ++ "]") = segments parent ++ [part.toList] := by
  have text : (parent ++ "[" ++ part ++ "]").toList =
      parent.toList ++ '[' :: (part.toList ++ [']']) := by simp
  have closed : '[' ∉ part.toList ++ [']'] := by
    intro member
    rcases List.mem_append.mp member with member | member
    · exact (plain _ member).1 rfl
    · simp at member
  have kept : part.toList.filter (· ≠ ']') = part.toList :=
    List.filter_eq_self.mpr fun c member => by simpa using (plain c member).2
  simp only [segments, text, List.splitOn_append_cons_self, List.splitOn_eq_singleton closed,
    List.map_append, List.map_cons, List.map_nil, List.filter_append, kept]
  simp [inside]

/-- Cutting a key of a field gives the parts of its entity and the name. -/
theorem segments_fieldKey (parent : String) {field : String} (plain : isPlainName field) :
    segments (fieldKey parent field) = segments parent ++ [field.toList] := by
  obtain ⟨named, free⟩ := isPlainName_iff.mp plain
  by_cases root : parent = ""
  · have opens : '[' ∉ field.toList := fun member => (free _ member).1 rfl
    have kept : field.toList.filter (· ≠ ']') = field.toList :=
      List.filter_eq_self.mpr fun c member => by simpa using (free c member).2
    subst root
    simp only [fieldKey_root, segments, List.splitOn_eq_singleton opens, List.map_cons,
      List.map_nil, kept]
    simp [named]
  · rw [fieldKey_of_ne field root, segments_append root free]

theorem digits_free (index : Nat) : ∀ c ∈ (toString index).toList, c ≠ '[' ∧ c ≠ ']' := by
  intro c member
  rw [Nat.toString_eq_repr, Nat.toList_repr] at member
  have digit := Nat.isDigit_of_mem_toDigits (by decide) (by decide) member
  constructor <;> rintro rfl <;> simp at digit

theorem eq_of_digits {first second : Nat}
    (same : (toString first).toList = (toString second).toList) : first = second := by
  rw [Nat.toString_eq_repr, Nat.toString_eq_repr, Nat.toList_repr, Nat.toList_repr] at same
  rw [← Nat.ofDigitChars_ten_toDigits (n := first), same, Nat.ofDigitChars_ten_toDigits]

/-- Cutting a key of an element gives the parts of its list and the digits of its position. -/
theorem segments_elementKey {list : String} (index : Nat) (inside : list ≠ "") :
    segments (elementKey list index) = segments list ++ [(toString index).toList] :=
  segments_append inside (digits_free index)

/-- What is left of a text after a beginning is the rest of it. -/
theorem afterPrefix_eq_some {first whole rest : List Char} :
    afterPrefix first whole = some rest ↔ whole = first ++ rest := by
  induction first generalizing whole with
  | nil => simp [afterPrefix]
  | cons c cs ih =>
    cases whole with
    | nil => simp [afterPrefix]
    | cons d ds =>
      by_cases same : c = d
      · simp [afterPrefix, same, ih]
      · simp [afterPrefix, same, Ne.symm same]

/-- A key is at or below another if what it goes on with, if it goes on, is a bracket. -/
theorem isUnder_iff {key parent : String} :
    isUnder key parent ↔ parent = "" ∨ ∃ rest, key.toList = parent.toList ++ rest ∧
      (rest = [] ∨ ∃ inner, rest = '[' :: inner) := by
  simp only [isUnder, Bool.or_eq_true, String.isEmpty_iff]
  refine or_congr Iff.rfl ?_
  cases found : afterPrefix parent.toList key.toList with
  | none =>
    refine ⟨fun under => absurd under (by simp), ?_⟩
    rintro ⟨rest, text, -⟩
    rw [afterPrefix_eq_some.mpr text] at found
    exact absurd found (by simp)
  | some rest =>
    have text := afterPrefix_eq_some.mp found
    simp only [text, List.append_cancel_left_eq, exists_eq_left']
    cases rest <;> simp

theorem isUnder_refl (key : String) : isUnder key key :=
  isUnder_iff.mpr (.inr ⟨[], by simp⟩)

/-- What is below a key that is below another is below that one. -/
theorem isUnder_trans {key middle parent : String} (lower : isUnder key middle)
    (upper : isUnder middle parent) : isUnder key parent := by
  rcases isUnder_iff.mp upper with root | ⟨rest, text, opens⟩
  · exact isUnder_iff.mpr (.inl root)
  rcases isUnder_iff.mp lower with root | ⟨further, deeper, _⟩
  · -- Only the root lies at or above the root.
    rw [root] at text
    have empty : parent.toList = [] := (List.append_eq_nil_iff.mp text.symm).1
    exact isUnder_iff.mpr (.inl (String.toList_eq_nil_iff.mp empty))
  · refine isUnder_iff.mpr (.inr ⟨rest ++ further, by rw [deeper, text, List.append_assoc], ?_⟩)
    rcases opens with rfl | ⟨inner, rfl⟩
    · assumption
    · exact .inr ⟨inner ++ further, rfl⟩

/-- A part in brackets is below what stands before it. -/
theorem isUnder_brackets (parent part : String) : isUnder (parent ++ "[" ++ part ++ "]") parent :=
  isUnder_iff.mpr (.inr ⟨'[' :: (part.toList ++ [']']), by simp, .inr ⟨_, rfl⟩⟩)

/-- The key of a field is below that of its entity. -/
theorem isUnder_fieldKey (parent field : String) : isUnder (fieldKey parent field) parent := by
  by_cases root : parent = ""
  · exact isUnder_iff.mpr (.inl root)
  · rw [fieldKey_of_ne field root]
    exact isUnder_brackets parent field

/-- A key that is at or below another has all its segments. -/
theorem segments_prefix_of_isUnder {key parent : String} (under : isUnder key parent) :
    segments parent <+: segments key := by
  rcases isUnder_iff.mp under with rfl | ⟨rest, text, rfl | ⟨inner, rfl⟩⟩
  · exact List.nil_prefix
  · rw [List.append_nil] at text
    exact String.toList_inj.mp text ▸ List.prefix_rfl
  · by_cases root : parent = ""
    · rw [root]
      exact List.nil_prefix
    · have below : key ≠ "" := by
        rintro rfl
        simp at text
      simp only [segments, String.isEmpty_iff, root, below, ↓reduceIte, text,
        List.splitOn_append_cons_self, List.map_append]
      exact List.prefix_append _ _

end Path

/-- Names of fields with rules or nested entities that the path keys can tell apart. -/
structure Shape.Plain (shape : Shape) : Prop where
  rules : ∀ entry ∈ shape.rules, Path.isPlainName entry.1
  nested : ∀ nested ∈ shape.nested, Path.isPlainName nested.field
  /-- As in every shape that is built. -/
  distinct : (shape.nested.map Nested.field).Nodup

instance (shape : Shape) : Decidable shape.Plain :=
  decidable_of_iff ((∀ entry ∈ shape.rules, Path.isPlainName entry.1) ∧
      (∀ nested ∈ shape.nested, Path.isPlainName nested.field) ∧
      (shape.nested.map Nested.field).Nodup)
    ⟨fun ⟨rules, nested, distinct⟩ => ⟨rules, nested, distinct⟩,
      fun ⟨rules, nested, distinct⟩ => ⟨rules, nested, distinct⟩⟩

namespace ShapeDecl

/-- Names of which none is repeated are all different, and none has been seen before. -/
theorem nodup_of_repeated? {seen names : List String} (single : repeated? seen names = none) :
    names.Nodup ∧ ∀ name ∈ names, name ∉ seen := by
  induction names generalizing seen with
  | nil => exact ⟨List.nodup_nil, fun _ member => absurd member List.not_mem_nil⟩
  | cons name rest ih =>
    simp only [repeated?] at single
    split at single
    · exact absurd single (by simp)
    · next fresh =>
      obtain ⟨distinct, apart⟩ := ih single
      refine ⟨List.nodup_cons.mpr ⟨fun again => apart name again List.mem_cons_self, distinct⟩, ?_⟩
      intro other member
      rcases List.mem_cons.mp member with rfl | later
      · simpa using fresh
      · exact fun old => apart other later (List.mem_cons_of_mem _ old)

/-- Building a shape resolves its rules and changes nothing else. -/
theorem build_eq_ok {decl : ShapeDecl} {registry : Registry} {shape : Shape}
    (built : decl.build registry = .ok shape) :
    repeated? [] (decl.fields ++ decl.nested.map Nested.field) = none ∧
      ∃ rules, resolveRules registry decl.rules = .ok rules ∧
        shape = ⟨decl.name, decl.fields, decl.labels, rules, decl.nested⟩ := by
  unfold build at built
  split at built
  · exact absurd built (by simp)
  · next single =>
    split at built
    · exact absurd built (by simp)
    · next rules resolved => exact ⟨single, rules, resolved, (Except.ok.inj built).symm⟩

/-- The fields of a shape that is built have different names. -/
theorem nodup_fields_of_build {decl : ShapeDecl} {registry : Registry} {shape : Shape}
    (built : decl.build registry = .ok shape) :
    (shape.fields ++ shape.nested.map Nested.field).Nodup := by
  obtain ⟨single, rules, _, rfl⟩ := build_eq_ok built
  exact (nodup_of_repeated? single).1

/-- No field of a shape that is built holds entities twice. -/
theorem nodup_of_build {decl : ShapeDecl} {registry : Registry} {shape : Shape}
    (built : decl.build registry = .ok shape) : (shape.nested.map Nested.field).Nodup :=
  (List.nodup_append.mp (nodup_fields_of_build built)).2.1

end ShapeDecl

mutual

/-- The shapes of an entity and of everything nested in it. -/
def Entity.shapes : Entity → List Shape
  | ⟨shape, _, slots⟩ => shape :: slotsShapes slots

def slotsShapes : List (Slot Entity) → List Shape
  | [] => []
  | slot :: slots => slotShapes slot ++ slotsShapes slots

def slotShapes : Slot Entity → List Shape
  | .vacant => []
  | .one child => child.shapes
  | .many children => elementShapes children

def elementShapes : List Entity → List Shape
  | [] => []
  | child :: children => child.shapes ++ elementShapes children

end

namespace Walk

/-- The segments that a step adds to a path key. -/
def Turn.segments (turn : Turn) : List (List Char) :=
  turn.field.toList :: (turn.index.map fun index => (toString index).toList).toList

/-- A field holds an entity: as its single one, or in its list. -/
inductive Holds : Slot Entity → Option Nat → Entity → Prop
  | single (child : Entity) : Holds (.one child) none child
  | element {children : List Entity} {index : Nat} {child : Entity} :
      children[index]? = some child → Holds (.many children) (some index) child

/-- A step leads from an entity to one nested in it. -/
inductive Leads : Entity → Turn → Entity → Prop
  | mk {entity : Entity} {position : Nat} {nested : Nested Shape} {slot : Slot Entity}
      {index : Option Nat} {child : Entity} :
      entity.shape.nested[position]? = some nested → entity.slots[position]? = some slot →
        Holds slot index child → Leads entity ⟨position, nested.field, index⟩ child

/-- Steps lead from an entity to one at any depth in it. -/
inductive Reaches : Entity → Address → Entity → Prop
  | here (entity : Entity) : Reaches entity [] entity
  | step {entity turn child rest far} :
      Leads entity turn child → Reaches child rest far → Reaches entity (turn :: rest) far

/-- The acts at an entity, those at its nested entities left aside. -/
def ownActs (setting : Setting) (entity : Entity) (address : Address) (path : String)
    (lineage : List Snapshot) : List Act :=
  let reaction := setting.conduct.before entity.shape setting.scope entity.values
  let site : Site := ⟨address, path, entity.shape.name, lineage⟩
  .enter site reaction.failure ::
    ((site.inspections setting entity.shape reaction.values 0 entity.shape.rules).map .inspect ++
      [.leave site entity.shape reaction.values])

/-- An act is done at an entity that steps lead to, and the steps give the address and the path key
of that entity. -/
def DoneAt (setting : Setting) (entity : Entity) (address : Address) (path : String) (act : Act) :
    Prop :=
  ∃ steps far lineage, Reaches entity steps far ∧
    act ∈ ownActs setting far (address ++ steps) (steps.foldl Turn.key path) lineage

section Places

variable (setting : Setting)

/-- What is done at an entity nested in another is done at a place in the other. -/
theorem DoneAt.step {setting : Setting} {entity child : Entity} {turn : Turn} {address : Address}
    {path : String} {act : Act} (leads : Leads entity turn child)
    (done : DoneAt setting child (address ++ [turn]) (turn.key path) act) :
    DoneAt setting entity address path act := by
  obtain ⟨steps, far, lineage, reaches, member⟩ := done
  refine ⟨turn :: steps, far, lineage, .step leads reaches, ?_⟩
  rwa [List.append_assoc, List.singleton_append] at member

mutual

/-- Each act of a walk is done at an entity that it reaches. -/
theorem doneAt_of_mem_acts : ∀ (entity : Entity) (address : Address) (path : String)
    (lineage : List Snapshot), ∀ act ∈ acts setting entity address path lineage,
    DoneAt setting entity address path act
  | ⟨shape, values, slots⟩, address, path, lineage, act, member => by
    have own (mine : act ∈ ownActs setting ⟨shape, values, slots⟩ address path lineage) :
        DoneAt setting ⟨shape, values, slots⟩ address path act :=
      ⟨[], _, lineage, .here _, by rwa [List.append_nil]⟩
    rw [acts] at member
    rcases List.mem_cons.mp member with rfl | member
    · exact own List.mem_cons_self
    rcases List.mem_append.mp member with member | member
    · exact own (List.mem_cons_of_mem _ (List.mem_append_left _ member))
    rcases List.mem_append.mp member with member | member
    · obtain ⟨place, nested, slot, index, child, declared, filled, holds, done⟩ :=
        doneAt_of_mem_slotsActs shape.nested slots 0 address path _ act member
      rw [Nat.zero_add] at done
      exact done.step (.mk declared filled holds)
    · exact own (List.mem_cons_of_mem _ (List.mem_append_right _ member))

/-- Each act in the fields of an entity is done in one of them, from its position on. -/
theorem doneAt_of_mem_slotsActs : ∀ (nested : List (Nested Shape)) (slots : List (Slot Entity))
    (position : Nat) (address : Address) (path : String) (lineage : List Snapshot),
    ∀ act ∈ slotsActs setting nested slots position address path lineage,
    ∃ (place : Nat) (decl : Nested Shape) (slot : Slot Entity) (index : Option Nat)
      (child : Entity), nested[place]? = some decl ∧ slots[place]? = some slot ∧
        Holds slot index child ∧
        let turn : Turn := ⟨position + place, decl.field, index⟩
        DoneAt setting child (address ++ [turn]) (turn.key path) act
  | nested :: others, slot :: slots, position, address, path, lineage, act, member => by
    rw [slotsActs] at member
    rcases List.mem_append.mp member with member | member
    · obtain ⟨index, child, holds, done⟩ :=
        doneAt_of_mem_slotActs slot ⟨position, nested.field, none⟩ address path lineage act member
      exact ⟨0, nested, slot, index, child, rfl, rfl, holds, done⟩
    · obtain ⟨place, decl, held, index, child, declared, filled, holds, done⟩ :=
        doneAt_of_mem_slotsActs others slots (position + 1) address path lineage act member
      rw [Nat.add_right_comm] at done
      exact ⟨place + 1, decl, held, index, child, declared, filled, holds, done⟩
  | [], _, _, _, _, _, _, member => by simp [slotsActs] at member
  | _ :: _, [], _, _, _, _, _, member => by simp [slotsActs] at member

/-- Each act in a field is done in an entity that the field holds. -/
theorem doneAt_of_mem_slotActs : ∀ (slot : Slot Entity) (turn : Turn) (address : Address)
    (path : String) (lineage : List Snapshot),
    ∀ act ∈ slotActs setting slot turn address path lineage,
    ∃ index child, Holds slot index child ∧
      let turn := { turn with index := index }
      DoneAt setting child (address ++ [turn]) (turn.key path) act
  | .vacant, _, _, _, _, _, member => by simp [slotActs] at member
  | .one child, turn, address, path, lineage, act, member => by
    rw [slotActs] at member
    exact ⟨none, child, .single child, doneAt_of_mem_acts child _ _ lineage act member⟩
  | .many children, turn, address, path, lineage, act, member => by
    rw [slotActs] at member
    obtain ⟨place, child, listed, done⟩ :=
      doneAt_of_mem_elementActs children turn 0 address path lineage act member
    rw [Nat.zero_add] at done
    exact ⟨some place, child, .element listed, done⟩

/-- Each act in a list is done in one of its elements, from its position on. -/
theorem doneAt_of_mem_elementActs : ∀ (children : List Entity) (turn : Turn) (index : Nat)
    (address : Address) (path : String) (lineage : List Snapshot),
    ∀ act ∈ elementActs setting children turn index address path lineage,
    ∃ (place : Nat) (child : Entity), children[place]? = some child ∧
      let turn := { turn with index := some (index + place) }
      DoneAt setting child (address ++ [turn]) (turn.key path) act
  | [], _, _, _, _, _, _, member => by simp [elementActs] at member
  | child :: children, turn, index, address, path, lineage, act, member => by
    rw [elementActs] at member
    rcases List.mem_append.mp member with member | member
    · exact ⟨0, child, rfl, doneAt_of_mem_acts child _ _ lineage act member⟩
    · obtain ⟨place, far, listed, done⟩ := doneAt_of_mem_elementActs children
        { turn with index := some index } (index + 1) address path lineage act member
      rw [Nat.add_right_comm] at done
      exact ⟨place + 1, far, listed, done⟩

end

end Places

/-- An inspection of a field belongs to this entity and to a field that has rules. -/
theorem site_of_mem_inspections {setting : Setting} {site : Site} {shape : Shape}
    {values : Entries Value} {rules : Entries (List Rule)} {position : Nat}
    {inspection : Inspection}
    (member : inspection ∈ site.inspections setting shape values position rules) :
    inspection.site = site ∧ ∃ entry ∈ rules, entry.1 = inspection.field := by
  induction rules generalizing position with
  | nil => simp [Site.inspections] at member
  | cons entry rest ih =>
    rcases List.mem_cons.mp member with rfl | member
    · exact ⟨rfl, entry, List.mem_cons_self, rfl⟩
    · obtain ⟨site, other, listed, named⟩ := ih member
      exact ⟨site, other, List.mem_cons_of_mem _ listed, named⟩

/-- The inspections that an entity does itself are of fields that have rules. -/
theorem inspection_of_mem_ownActs {setting : Setting} {entity : Entity} {address : Address}
    {path : String} {lineage : List Snapshot} {inspection : Inspection}
    (member : .inspect inspection ∈ ownActs setting entity address path lineage) :
    ∃ entry ∈ entity.shape.rules, entry.1 = inspection.field := by
  rcases List.mem_cons.mp member with same | member
  · exact absurd same (by simp)
  rcases List.mem_append.mp member with member | member
  · obtain ⟨other, listed, same⟩ := List.mem_map.mp member
    obtain rfl := Act.inspect.inj same
    exact (site_of_mem_inspections listed).2
  · exact absurd (List.mem_singleton.mp member) (by simp)

/-- What an entity does itself is done in its own place. -/
theorem site_of_mem_ownActs {setting : Setting} {entity : Entity} {address : Address}
    {path : String} {lineage : List Snapshot} {act : Act}
    (member : act ∈ ownActs setting entity address path lineage) :
    act.site = ⟨address, path, entity.shape.name, lineage⟩ := by
  rcases List.mem_cons.mp member with rfl | member
  · rfl
  rcases List.mem_append.mp member with member | member
  · obtain ⟨inspection, listed, rfl⟩ := List.mem_map.mp member
    exact (site_of_mem_inspections listed).1
  · rw [List.mem_singleton.mp member]
    rfl

/-- The shapes in slots are those in each of them. -/
theorem slotsShapes_eq (slots : List (Slot Entity)) :
    slotsShapes slots = slots.flatMap slotShapes := by
  induction slots with
  | nil => rfl
  | cons slot slots ih => rw [slotsShapes, ih, List.flatMap_cons]

/-- The shapes of elements are those of each of them. -/
theorem elementShapes_eq (children : List Entity) :
    elementShapes children = children.flatMap Entity.shapes := by
  induction children with
  | nil => rfl
  | cons child children ih => rw [elementShapes, ih, List.flatMap_cons]

theorem shape_mem_shapes (entity : Entity) : entity.shape ∈ entity.shapes := by
  obtain ⟨shape, values, slots⟩ := entity
  exact List.mem_cons_self

/-- The shapes of a nested entity are among those of the one around it. -/
theorem Leads.shapes {entity child : Entity} {turn : Turn} (leads : Leads entity turn child) :
    ∀ shape ∈ child.shapes, shape ∈ entity.shapes := by
  obtain @⟨position, nested, slot, index, _, declared, filled, holds⟩ := leads
  obtain ⟨shape, values, slots⟩ := entity
  intro inner member
  have held : inner ∈ slotShapes slot := by
    cases holds with
    | single => exact member
    | element listed =>
      rw [slotShapes, elementShapes_eq]
      exact List.mem_flatMap.mpr ⟨child, List.mem_of_getElem? listed, member⟩
  refine List.mem_cons_of_mem _ ?_
  rw [slotsShapes_eq]
  exact List.mem_flatMap.mpr ⟨slot, List.mem_of_getElem? filled, held⟩

/-- The shapes of an entity that is reached are among those of the root. -/
theorem Reaches.shapes {entity far : Entity} {steps : Address}
    (reaches : Reaches entity steps far) :
    ∀ shape ∈ far.shapes, shape ∈ entity.shapes := by
  induction reaches with
  | here => exact fun _ member => member
  | step leads _ ih => exact fun shape member => leads.shapes shape (ih shape member)

/-- The fields that a walk turns to have plain names. -/
theorem Leads.isPlainName {entity child : Entity} {turn : Turn} (leads : Leads entity turn child)
    (plain : entity.shape.Plain) : Path.isPlainName turn.field := by
  obtain @⟨position, nested, slot, index, _, declared, filled, holds⟩ := leads
  exact plain.nested nested (List.mem_of_getElem? declared)

/-- Steps from an entity that add the same segments are the same. -/
theorem Leads.eq_of_segments {entity child other : Entity} {turn further : Turn}
    {rest extra : List (List Char)} (plain : entity.shape.Plain) (leads : Leads entity turn child)
    (also : Leads entity further other)
    (same : turn.segments ++ rest = further.segments ++ extra) :
    turn = further ∧ child = other ∧ rest = extra := by
  obtain @⟨position, nested, slot, index, _, declared, filled, holds⟩ := leads
  obtain @⟨second, decl, held, number, _, known, full, has⟩ := also
  obtain ⟨fields, tails⟩ := List.cons.inj same
  have field : nested.field = decl.field := String.toList_inj.mp fields
  have here : position = second := by
    have bound : position < (entity.shape.nested.map Nested.field).length := by
      rw [List.length_map]
      exact (List.getElem?_eq_some_iff.mp declared).1
    refine (List.getElem?_inj bound plain.distinct).mp ?_
    rw [List.getElem?_map, List.getElem?_map, declared, known, Option.map_some, Option.map_some,
      field]
  subst here
  obtain rfl := Option.some.inj (filled.symm.trans full)
  cases holds with
  | single =>
    cases has
    exact ⟨by rw [field], rfl, tails⟩
  | @element children index child listed =>
    cases has with
    | @element _ number _ also =>
      have both : (toString index).toList :: rest = (toString number).toList :: extra := tails
      obtain ⟨digits, rests⟩ := List.cons.inj both
      obtain rfl := Path.eq_of_digits digits
      exact ⟨by rw [field], Option.some.inj (listed.symm.trans also), rests⟩

/-- Where keys tell fields apart, the steps to an entity are read off the segments. -/
theorem Reaches.append_of_segments {entity near far : Entity} {first second : Address}
    {extra : List (List Char)} (plain : ∀ shape ∈ entity.shapes, shape.Plain)
    (upper : Reaches entity first near) (lower : Reaches entity second far)
    (same : first.flatMap Turn.segments ++ extra = second.flatMap Turn.segments) :
    ∃ rest, second = first ++ rest ∧ extra = rest.flatMap Turn.segments := by
  induction upper generalizing second with
  | here => exact ⟨second, rfl, same⟩
  | @step entity turn child rest near leads _ ih =>
    rw [List.flatMap_cons, List.append_assoc] at same
    cases lower with
    | here => exact absurd same (by simp [Turn.segments])
    | @step _ further other steps _ also lower =>
      rw [List.flatMap_cons] at same
      obtain ⟨rfl, rfl, same⟩ :=
        leads.eq_of_segments (plain _ (shape_mem_shapes entity)) also same
      obtain ⟨later, rfl, added⟩ :=
        ih (fun shape member => plain shape (leads.shapes shape member)) lower same
      exact ⟨later, rfl, added⟩

/-- Steps that add the name of a field alone are a single one, to what the field holds as its
single entity. -/
theorem single_of_segments {field : String} {steps : Address}
    (same : [field.toList] = steps.flatMap Turn.segments) :
    ∃ slot, steps = [⟨slot, field, none⟩] := by
  cases steps with
  | nil => exact absurd same (by simp)
  | cons turn rest =>
    obtain ⟨slot, name, index⟩ := turn
    obtain ⟨names, tails⟩ := List.cons.inj same
    obtain ⟨single, later⟩ := List.append_eq_nil_iff.mp tails.symm
    obtain rfl := String.toList_inj.mp names
    cases rest with
    | nil =>
      cases index with
      | none => exact ⟨slot, rfl⟩
      | some index => exact absurd single (by simp)
    | cons further _ => exact absurd later (by simp [Turn.segments])

/-- The key of a turn is cut into what came before it, the field and the position. -/
theorem segments_key {turn : Turn} (path : String) (plain : Path.isPlainName turn.field) :
    Path.segments (turn.key path) = Path.segments path ++ turn.segments := by
  have own := Path.segments_fieldKey path plain
  unfold Turn.key Turn.segments
  cases turn.index with
  | none => exact own
  | some index =>
    have inside : Path.fieldKey path turn.field ≠ "" := by
      intro empty
      rw [empty] at own
      simp [Path.segments] at own
    simp only [Path.segments_elementKey index inside, own, List.append_assoc]
    rfl

/-- The key of an entity that is reached is cut into the turns that lead to it. -/
theorem Reaches.segments_foldl {entity far : Entity} {steps : Address} (path : String)
    (plain : ∀ shape ∈ entity.shapes, shape.Plain) (reaches : Reaches entity steps far) :
    Path.segments (steps.foldl Turn.key path) =
      Path.segments path ++ steps.flatMap Turn.segments := by
  induction reaches generalizing path with
  | here => simp
  | @step entity turn child rest far leads _ ih =>
    have named := leads.isPlainName (plain _ (shape_mem_shapes entity))
    rw [List.foldl_cons, ih _ fun shape member => plain shape (leads.shapes shape member),
      segments_key path named, List.flatMap_cons, List.append_assoc]

/-- The key of a turn is below the key that it starts from. -/
theorem isUnder_key (path : String) (turn : Turn) : Path.isUnder (turn.key path) path := by
  have own := Path.isUnder_fieldKey path turn.field
  unfold Turn.key
  cases turn.index with
  | none => exact own
  | some index => exact Path.isUnder_trans (Path.isUnder_brackets _ (toString index)) own

/-- The keys along an address are all below the first. -/
theorem isUnder_foldl (path : String) (steps : Address) :
    Path.isUnder (steps.foldl Turn.key path) path := by
  induction steps generalizing path with
  | nil => exact Path.isUnder_refl path
  | cons turn rest ih => exact Path.isUnder_trans (ih _) (isUnder_key path turn)

/-- The key of a field stands at or below that of an entity if the field is one of the entity or of
one nested in it, or if the field holds the entity as its single one. -/
theorem isUnder_fieldKey_iff {entity near far : Entity} {steps others : Address} {field : String}
    (plain : ∀ shape ∈ entity.shapes, shape.Plain) (reaches : Reaches entity steps near)
    (arrives : Reaches entity others far) (named : Path.isPlainName field) :
    Path.isUnder (Path.fieldKey (others.foldl Turn.key "") field) (steps.foldl Turn.key "") ↔
      steps <+: others ∨ ∃ slot, steps = others ++ [⟨slot, field, none⟩] := by
  constructor
  · intro under
    have begins := Path.segments_prefix_of_isUnder under
    rw [Path.segments_fieldKey _ named, reaches.segments_foldl "" plain,
      arrives.segments_foldl "" plain, List.prefix_concat_iff] at begins
    rcases begins with same | ⟨extra, same⟩
    · -- The key of the entity is that of the field: the field holds the entity.
      obtain ⟨rest, rfl, added⟩ := arrives.append_of_segments plain reaches same.symm
      obtain ⟨slot, rfl⟩ := single_of_segments added
      exact .inr ⟨slot, rfl⟩
    · obtain ⟨rest, rfl, _⟩ := reaches.append_of_segments plain arrives same
      exact .inl (List.prefix_append _ _)
  · rintro (⟨rest, rfl⟩ | ⟨slot, rfl⟩)
    · rw [List.foldl_append]
      exact Path.isUnder_trans (Path.isUnder_fieldKey _ _) (isUnder_foldl _ rest)
    · rw [List.foldl_append]
      exact Path.isUnder_refl _

/-- The rules of a field stand at or below an entity if they are those of the entity or of one
nested in it, or if the field holds the entity as its single one. -/
theorem isUnder_key_iff {setting : Setting} {entity : Entity} {lineage : List Snapshot}
    (plain : ∀ shape ∈ entity.shapes, shape.Plain) {inspection : Inspection} {act : Act}
    (inspected : .inspect inspection ∈ acts setting entity [] "" lineage)
    (member : act ∈ acts setting entity [] "" lineage) :
    Path.isUnder inspection.key act.site.path ↔
      act.site.address <+: inspection.site.address ∨
        ∃ slot, act.site.address = inspection.site.address ++ [⟨slot, inspection.field, none⟩] := by
  obtain ⟨steps, far, _, reaches, own⟩ := doneAt_of_mem_acts setting entity [] "" lineage _ member
  obtain ⟨others, other, _, arrives, ruled⟩ :=
    doneAt_of_mem_acts setting entity [] "" lineage _ inspected
  have site := site_of_mem_ownActs own
  have around : inspection.site = _ := site_of_mem_ownActs ruled
  have key : inspection.key = Path.fieldKey (others.foldl Turn.key "") inspection.field := by
    rw [Inspection.key, around]
  have named : Path.isPlainName inspection.field := by
    obtain ⟨entry, listed, same⟩ := inspection_of_mem_ownActs ruled
    rw [← same]
    exact (plain _ (arrives.shapes _ (shape_mem_shapes other))).rules entry listed
  rw [key, site, around, List.nil_append, List.nil_append]
  exact isUnder_fieldKey_iff plain reaches arrives named

end Walk

end Scrutiny
