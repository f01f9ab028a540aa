import Mathlib.Data.List.Nodup
import Scrutiny.Proofs.Record.Filling
import Scrutiny.Proofs.Walk.Brackets
import Scrutiny.Validation

/-! # Records under operations

A record is changed, or another entity is copied into it, at its root or at any depth, again and
again; an operation that fails leaves what it has done so far. All records that operations lead to
conform to their shape. So nothing is missing for what is written into them: a copy fails only over
what the source has. And a record stores nothing that a validation passes by: every entity in its
slots is one that steps lead to, and is entered in a walk to the end (`Entity.operated_conforms`).
-/

namespace Scrutiny

/-- What can be done to a record: a change, or copying another entity into it. -/
inductive Operation where
  | edit (change : Edit)
  | inject (conduct : Conduct) (converter : Converter) (source : Entity)

namespace Operation

/-- What an operation leaves, whether it fails or not. -/
def apply : Operation → Entity → Entity
  | edit change, record => change.apply record
  | inject conduct converter source, record =>
    (Scrutiny.inject conduct converter source record).result

/-- Copying an entity is copying the object that it is exported to. -/
def change : Operation → Edit
  | edit change => change
  | inject conduct converter source => .populate converter (source.toValue conduct)

/-- An operation changes a record as the edit that it is. -/
theorem apply_eq (operation : Operation) (record : Entity) :
    operation.apply record = operation.change.apply record := by
  cases operation <;> rfl

end Operation

namespace Entity

/-- Operate on the entity that steps lead to. If they lead nowhere, nothing is done. -/
def operate (record : Entity) (steps : List Step) (operation : Operation) : Entity :=
  match record.update? (fun inner => ((), operation.apply inner)) steps with
  | some (_, changed) => changed
  | none => record

/-- The record of a shape that operations lead to, each made on the entity at the end of its
steps. -/
def operated (shape : Shape) (operations : List (List Step × Operation)) : Entity :=
  operations.foldl (fun record entry => record.operate entry.1 entry.2) (fresh shape)

/-- The slots of an entity store another one, at any depth. It is found by the positions of the
slots on the way, with the positions in their lists if they hold lists. -/
inductive Stores : Entity → List (Nat × Option Nat) → Entity → Prop
  | here (entity : Entity) : Stores entity [] entity
  | inside {entity child inner : Entity} {position : Nat} {slot : Slot Entity} {index : Option Nat}
      {places : List (Nat × Option Nat)} :
      entity.slots[position]? = some slot → Walk.Holds slot index child →
        Stores child places inner → Stores entity ((position, index) :: places) inner

end Entity

/-- Where a step goes, without the name of the field. -/
def Walk.Turn.place (turn : Walk.Turn) : Nat × Option Nat :=
  (turn.slot, turn.index)

/-- Whether an error says that an entity has no place for what is written into it. The other ones
are about what the source has. -/
def BindError.isRefusal : BindError → Bool
  | unknownField .. => true
  | refusedValue .. => true
  | refusedChild .. => true
  | raised .. => true
  | _ => false

namespace Entity

/-- An operation at the end of some steps leads to a record that edits lead to. -/
theorem Reachable.operate {shape : Shape} {record : Entity} (reachable : Reachable shape record)
    (steps : List Step) (operation : Operation) :
    Reachable shape (record.operate steps operation) := by
  unfold Entity.operate
  simp only [operation.apply_eq]
  split
  · next changed done => exact .edit steps operation.change reachable done
  · exact reachable

/-- All records that operations lead to are those that edits lead to. -/
theorem operated_reachable (shape : Shape) (operations : List (List Step × Operation)) :
    Reachable shape (operated shape operations) := by
  unfold operated
  generalize start : fresh shape = record
  have reachable : Reachable shape record := start ▸ .fresh
  clear start
  induction operations generalizing record with
  | nil => exact reachable
  | cons entry rest ih => exact ih _ (reachable.operate entry.1 entry.2)

end Entity

section Stopping

variable {converter : Converter}

mutual

/-- A copy into a record stops only over what the source has. -/
theorem Entity.Stopped.isRefusal : ∀ {level : Level} {entity left : Entity} {error : BindError},
    Entity.Stopped converter level entity error left → error.isRefusal = false
  | _, _, _, _, .mk _ stopped => stopped.isRefusal

/-- Where filling fields stops, no record has refused anything. -/
theorem SlotsStopped.isRefusal : ∀ {level : Level} {nested : List (Nested Shape)}
    {slots left : List (Slot Entity)} {error : BindError},
    SlotsStopped converter level nested slots error left → error.isRefusal = false
  | _, _, _, _, _, .here stopped => stopped.isRefusal
  | _, _, _, _, _, .later _ stopped => stopped.isRefusal

/-- Where filling a field stops, no record has refused anything. -/
theorem SlotStopped.isRefusal : ∀ {level : Level} {nested : Nested Shape} {slot left : Slot Entity}
    {error : BindError}, SlotStopped converter level nested slot error left →
      error.isRefusal = false
  | _, _, _, _, _, .object _ _ _ _ => rfl
  | _, _, _, _, _, .list _ _ _ _ => rfl
  | _, _, _, _, _, .one _ _ stopped => stopped.isRefusal
  | _, _, _, _, _, .many _ _ stopped => stopped.isRefusal

/-- Where filling a list stops, no record has refused anything. -/
theorem ElementsStopped.isRefusal : ∀ {source : Entries Value} {key : String} {shape : Shape}
    {index : Nat} {items : List Value} {left : List Entity} {error : BindError},
    ElementsStopped converter source key shape index items error left → error.isRefusal = false
  | _, _, _, _, _, _, _, .kind _ => rfl
  | _, _, _, _, _, _, _, .inside stopped => stopped.isRefusal
  | _, _, _, _, _, _, _, .later _ stopped => stopped.isRefusal

end

end Stopping

namespace Entity.Conforms

variable {shape : Shape} {entity : Entity} (conforms : Conforms shape entity)

include conforms

/-- A copy into a record of a built shape fails only over its source. -/
theorem populate_isRefusal (built : shape.Built) {converter : Converter} {source : Value}
    {error : BindError}
    (failed : (Scrutiny.populate .record converter entity source).failure = some error) :
    error.isRefusal = false := by
  cases source with
  | object members => exact ((conforms.populate_ends built converter members).left failed).isRefusal
  | _ =>
    obtain rfl := Option.some.inj failed
    rfl

/-- A declared field for nested entities is found under its name, since no other one has it. -/
theorem slotIndex?_of_mem (built : shape.Built) {decl : Nested Shape}
    (listed : decl ∈ shape.nested) :
    ∃ index, entity.slotIndex? decl.field = some (index, decl) := by
  obtain rfl := conforms.shape_eq
  cases place : entity.slotIndex? decl.field with
  | none =>
    have missing := List.find?_eq_none.mp (Option.map_eq_none_iff.mp place)
    obtain ⟨index, held⟩ := List.mem_iff_getElem?.mp listed
    have unlike := missing (decl, index) (List.mem_zipIdx_iff_getElem?.mpr held)
    exact absurd (beq_self_eq_true _) unlike
  | some found =>
    obtain ⟨declared, same⟩ := slotIndex?_eq_some place
    have alike := List.inj_on_of_nodup_map built.nodup_nested (List.mem_of_getElem? declared) listed
    exact ⟨found.1, by rw [← alike same]⟩

/-- A record makes a single entity for each field that is declared for one. -/
theorem isSome_resetChild? (built : shape.Built) {decl : Nested Shape}
    (listed : decl ∈ shape.nested) (one : decl.nesting = .one) :
    (entity.resetChild? .record decl.field).isSome := by
  obtain ⟨index, place⟩ := conforms.slotIndex?_of_mem built listed
  obtain ⟨field, nesting, inner⟩ := decl
  obtain rfl : nesting = .one := one
  simp [Entity.resetChild?, place, Conduct.record]

/-- A record makes an element for each field that is declared for a list. -/
theorem isSome_pushChild? (built : shape.Built) {decl : Nested Shape}
    (listed : decl ∈ shape.nested) (many : decl.nesting = .many) :
    (entity.pushChild? .record decl.field).isSome := by
  obtain ⟨index, place⟩ := conforms.slotIndex?_of_mem built listed
  obtain ⟨field, nesting, inner⟩ := decl
  obtain rfl : nesting = .many := many
  simp [Entity.pushChild?, place, Conduct.record]

omit conforms in
/-- What a slot holds is of the shape that is declared for it. -/
theorem of_holds {nested : Nested Shape} {slot : Slot Entity} {index : Option Nat} {child : Entity}
    (fits : Slot.Fits Conforms nested slot) (holds : Walk.Holds slot index child) :
    Conforms nested.shape child := by
  cases holds with
  | single =>
    cases fits with
    | one conforms => exact conforms
  | element listed =>
    cases fits with
    | many all => exact all child (List.mem_of_getElem? listed)

/-- Every entity that is stored in one that conforms is reached by steps, and conforms to a shape
that is nested in the shape of the other. -/
theorem reaches_of_stores (built : shape.Built) {places : List (Nat × Option Nat)} {inner : Entity}
    (stores : entity.Stores places inner) :
    inner.shape.Built ∧ Conforms inner.shape inner ∧
      ∃ steps, steps.map Walk.Turn.place = places ∧ Walk.Reaches entity steps inner := by
  induction stores generalizing shape with
  | here entity =>
    obtain rfl := conforms.shape_eq
    exact ⟨built, conforms, [], rfl, .here entity⟩
  | @inside entity child inner position slot index places filled holds _ ih =>
    obtain rfl := conforms.shape_eq
    have bound : position < entity.shape.nested.length :=
      conforms.slots.length_eq ▸ (List.getElem?_eq_some_iff.mp filled).1
    have declared := List.getElem?_eq_getElem bound
    have fits := forall₂_getElem? conforms.slots declared filled
    obtain ⟨made, fine, steps, rfl, reaches⟩ :=
      ih (of_holds fits holds) (built.nested _ (List.getElem_mem bound))
    exact ⟨made, fine, _, rfl, .step (.mk declared filled holds) reaches⟩

end Entity.Conforms

namespace Walk

/-- A walk to the end enters every entity that steps lead to. -/
theorem Reaches.entered {setting : Setting} {entity inner : Entity} {steps : Address}
    (reaches : Reaches entity steps inner) {seed : ErrorMap}
    (goes : flowOf (account setting entity seed) = .proceed) : ∃ lineage,
      .enter ⟨steps, steps.foldl Turn.key "", inner.shape.name, lineage⟩ none ∈
        account setting entity seed := by
  obtain ⟨lineage, failure, member⟩ := reaches.exists_enter setting [] "" []
  obtain ⟨before, after, split⟩ := List.append_of_mem member
  have does : Does setting (acts setting entity [] "" []) seed (account setting entity seed) _ :=
    ⟨rfl, goes, rfl⟩
  rw [split, ← List.singleton_append] at does
  obtain ⟨first, _, rest, whole, _, does⟩ := does.append
  obtain ⟨_, _, last, rfl, enters, _⟩ := does.append
  obtain ⟨rfl, rfl, rfl⟩ := enters.enter
  refine ⟨lineage, ?_⟩
  rw [whole]
  exact List.mem_append_right _ (List.mem_append_left _ (List.mem_singleton_self _))

end Walk

/-- **Records stay well-formed.** Whatever operations are made on a record of a built shape and on
what is nested in it, failing ones included, values stand only under fields that its shape has, each
field for nested entities holds what is declared for it, of the declared shape, and so at all
depths. Every entity that it stores can be written into: a copy is never refused for want of a
field, and each declared field for nested entities can be given an entity. And every entity that it
stores is entered in a validation that goes to the end. -/
theorem Entity.operated_conforms {shape : Shape} (built : shape.Built)
    (operations : List (List Step × Operation)) :
    let record := operated shape operations
    Conforms shape record ∧ ∀ places inner, record.Stores places inner →
      Conforms inner.shape inner ∧
      (∀ converter source error,
        (populate .record converter inner source).failure = some error → error.isRefusal = false) ∧
      (∀ decl ∈ inner.shape.nested, match decl.nesting with
        | .one => (inner.resetChild? .record decl.field).isSome
        | .many => (inner.pushChild? .record decl.field).isSome) ∧
      ∃ steps, steps.map Walk.Turn.place = places ∧ Walk.Reaches record steps inner ∧
        ∀ messages scope seed report,
          let walk := validate .record messages scope seed record
          let path := steps.foldl Walk.Turn.key ""
          walk.outcome = .ok report → report.aborted = false →
            .hook path inner.shape.name scope .before ∈ walk.events ∧
              ∃ lineage, .enter ⟨steps, path, inner.shape.name, lineage⟩ none ∈
                Walk.account ⟨.record, messages, scope⟩ record seed := by
  intro record
  have conforms := (operated_reachable shape operations).conforms
  refine ⟨conforms, fun places inner stores => ?_⟩
  obtain ⟨made, fine, steps, same, reaches⟩ := conforms.reaches_of_stores built stores
  refine ⟨fine, fun converter source error failed => fine.populate_isRefusal made failed, ?_, steps,
    same, reaches, ?_⟩
  · intro decl listed
    split
    · next one => exact fine.isSome_resetChild? made listed one
    · next many => exact fine.isSome_pushChild? made listed many
  · intro messages scope seed report walk path done through
    obtain ⟨events, outcome⟩ := validate_eq_told .record messages scope seed record
    have goes := Stretch.flow_of_outcome (outcome ▸ done) through
    obtain ⟨lineage, member⟩ := reaches.entered goes
    refine ⟨?_, lineage, member⟩
    rw [show walk.events = _ from events]
    exact List.mem_map_of_mem member

/-- The line that is left by an order that refuses a field and a copy is entered. -/
theorem Entity.operated_conforms_order :
    let record := operated orderShape [([], .edit (.set "price" (.string "7"))),
      ([], .edit (.pushChild "lines")),
      ([.element "lines" 0], .inject .record .plain ⟨lineShape, [("qty", .string "two")], []⟩),
      ([], .edit (.populate .plain (.object [("id", .string "8"), ("gift", .bool true)]))),
      ([.child "gift"], .edit (.set "qty" .null))]
    let line : Entity := ⟨lineShape, [("qty", .string "two")], []⟩
    orderShape.Built ∧ record = ⟨orderShape, [("id", .string "8")], [.vacant, .many [line]]⟩ ∧
      Conforms orderShape record ∧ record.Stores [(1, some 0)] line ∧
      ∃ steps, steps.map Walk.Turn.place = [(1, some 0)] ∧ Walk.Reaches record steps line ∧
        .hook (steps.foldl Walk.Turn.key "") "line" .save .before ∈
          (validate .record ⟨[]⟩ .save .empty record).events := by
  intro record line
  obtain ⟨conforms, stored⟩ := operated_conforms orderShape_built _
  have stores : record.Stores [(1, some 0)] line := .inside rfl (.element rfl) (.here line)
  obtain ⟨_, _, _, steps, same, reaches, visits⟩ := stored _ _ stores
  exact ⟨orderShape_built, rfl, conforms, stores, steps, same, reaches,
    (visits ⟨[]⟩ .save .empty ⟨.empty, false⟩ rfl rfl).1⟩

end Scrutiny
