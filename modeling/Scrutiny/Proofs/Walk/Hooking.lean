import Scrutiny.Proofs.Record.Storing
import Scrutiny.Proofs.Walk.Account

/-! # Hooks that reach into what is nested

The hooks of a conduct read and change the values of their own entity. A hook may do more: the one
that is called before the rules may put entities into a field, take them out or change what they
hold. A walk with such hooks is told here by a relation and not by a function, since hooks that put
entity into entity leave it without an end. It has one course at most (`Visits.unique`), and for the
hooks of a conduct this is the walk (`visits_hooks_iff`). It has a course where the hooks come to an
end (`exists_visits`). Then there is a tree that the walk finds, in which each entity is as its hook
`before` leaves it, and hooks that do not fail do no more than to make this tree: the validation has
the events and the report of the validation of it without hooks (`Visits.validates`).
-/

namespace Scrutiny

/-- What is called around the validation of an entity. A hook is given all of the entity and may
change all of it but its shape. -/
structure Hooks where
  before : Scope → Entity → Entity × Option Failure
  complete : Scope → Entity → Entity × Option Failure
  failed : ErrorMap → Scope → Entity → Entity × Option Failure
  before_shape : ∀ scope entity, (before scope entity).1.shape = entity.shape

namespace Hooks

/-- The entity as its hook `before` leaves it. -/
def found (hooks : Hooks) (scope : Scope) (entity : Entity) : Entity :=
  (hooks.before scope entity).1

/-- The entity as its hook `before` leaves it, with other slots. -/
def foundWith (hooks : Hooks) (scope : Scope) (entity : Entity) (slots : List (Slot Entity)) :
    Entity :=
  ⟨(hooks.found scope entity).shape, (hooks.found scope entity).values, slots⟩

/-- Why the hook `before` does not let the walk go on, if it does not. -/
def refusal? (hooks : Hooks) (scope : Scope) (entity : Entity) : Option Failure :=
  (hooks.before scope entity).2

/-- Hooks that never keep a walk from going on. -/
structure Quiet (hooks : Hooks) : Prop where
  before : ∀ scope entity, hooks.refusal? scope entity = none
  complete : ∀ scope entity, (hooks.complete scope entity).2 = none
  failed : ∀ errors scope entity, (hooks.failed errors scope entity).2 = none

end Hooks

/-- The entities that a slot holds. -/
def Slot.entities {ε : Type} : Slot ε → List ε
  | .vacant => []
  | .one child => [child]
  | .many children => children

/-- What stands in a list can be chosen one by one. -/
theorem exists_forall₂ {α β : Type} {related : α → β → Prop} {list : List α}
    (each : ∀ a ∈ list, ∃ b, related a b) : ∃ others, List.Forall₂ related list others := by
  induction list with
  | nil => exact ⟨[], .nil⟩
  | cons a rest ih =>
    obtain ⟨b, holds⟩ := each a List.mem_cons_self
    obtain ⟨others, further⟩ := ih fun other member => each other (List.mem_cons_of_mem _ member)
    exact ⟨b :: others, .cons holds further⟩

/-- A slot has one related to it if each entity that it holds has. -/
theorem Slot.exists_relates {ε δ : Type} {related : ε → δ → Prop} {slot : Slot ε}
    (each : ∀ child ∈ slot.entities, ∃ inner, related child inner) :
    ∃ other, Slot.Relates related slot other := by
  cases slot with
  | vacant => exact ⟨_, .vacant⟩
  | one child =>
    obtain ⟨inner, holds⟩ := each child (List.mem_singleton_self child)
    exact ⟨_, .one holds⟩
  | many children =>
    obtain ⟨inners, all⟩ := exists_forall₂ each
    exact ⟨_, .many all⟩

namespace Conduct

/-- The hooks of a conduct, which leave what is nested as it is. -/
def hooks (conduct : Conduct) : Hooks where
  before scope entity :=
    let reaction := conduct.before entity.shape scope entity.values
    ({ entity with values := reaction.values }, reaction.failure)
  complete scope entity :=
    let reaction := conduct.complete entity.shape scope entity.values
    ({ entity with values := reaction.values }, reaction.failure)
  failed errors scope entity :=
    let reaction := conduct.failed entity.shape errors scope entity.values
    ({ entity with values := reaction.values }, reaction.failure)
  before_shape _ _ := rfl

/-- The hook `before` of a conduct changes the values. -/
theorem found_hooks (conduct : Conduct) (scope : Scope) (entity : Entity) :
    conduct.hooks.found scope entity =
      { entity with values := (conduct.before entity.shape scope entity.values).values } :=
  rfl

theorem refusal_hooks (conduct : Conduct) (scope : Scope) (entity : Entity) :
    conduct.hooks.refusal? scope entity =
      (conduct.before entity.shape scope entity.values).failure :=
  rfl

/-- The conduct without its hooks. -/
def unhooked (conduct : Conduct) : Conduct where
  shows := conduct.shows
  accepts := conduct.accepts
  nests := conduct.nests

/-- A conduct without hooks has hooks that do not fail. -/
theorem quiet_unhooked (conduct : Conduct) : conduct.unhooked.hooks.Quiet where
  before _ _ := rfl
  complete _ _ := rfl
  failed _ _ _ := rfl

end Conduct

namespace Walk

/-- The walk with the hooks of its conduct left out. -/
def Setting.unhooked (setting : Setting) : Setting :=
  { setting with conduct := setting.conduct.unhooked }

/-- The hook `before` and the rules of the entity that it leaves. -/
def opening (setting : Setting) (hooks : Hooks) (entity : Entity) (path : String)
    (lineage : List Snapshot) (errors : ErrorMap) : Stretch Entity :=
  let found := hooks.found setting.scope entity
  let event := Event.hook path entity.shape.name setting.scope .before
  match hooks.refusal? setting.scope entity with
  | some failure => ⟨found, errors, [event], .fail failure⟩
  | none =>
    let own := runFields setting found.shape found.values lineage path found.shape.rules errors
    ⟨found, own.errors, event :: own.events, own.flow⟩

/-- The last hook of an entity. -/
def lastHook (setting : Setting) (hooks : Hooks) (entity : Entity) (path : String)
    (errors : ErrorMap) : Stretch Entity :=
  let own := errors.subtree path
  let (hook, left, failure) :=
    if own.isEmpty then (Hook.complete, hooks.complete setting.scope entity)
    else (Hook.failed own, hooks.failed own setting.scope entity)
  ⟨left, errors, [.hook path entity.shape.name setting.scope hook], afterHook failure⟩

/-- What follows on the walk through what is nested, given what came before it. -/
def afterNested (setting : Setting) (hooks : Hooks) (path : String) (first : Stretch Entity)
    (inner : Stretch (List (Slot Entity))) : Stretch Entity :=
  let entity := { first.result with slots := inner.result }
  match inner.flow with
  | .proceed =>
    let last := lastHook setting hooks entity path inner.errors
    { last with events := first.events ++ inner.events ++ last.events }
  | flow => ⟨entity, inner.errors, first.events ++ inner.events, flow⟩

mutual

/-- The walk through an entity. What is nested is that of the entity that the hook `before`
leaves. -/
inductive Visits (setting : Setting) (hooks : Hooks) :
    Entity → String → List Snapshot → ErrorMap → Stretch Entity → Prop
  | stopped {entity : Entity} {path : String} {lineage : List Snapshot} {errors : ErrorMap}
      (stops : (opening setting hooks entity path lineage errors).flow ≠ .proceed) :
      Visits setting hooks entity path lineage errors
        (opening setting hooks entity path lineage errors)
  | through {entity : Entity} {path : String} {lineage : List Snapshot} {errors : ErrorMap}
      {inner : Stretch (List (Slot Entity))}
      (goes : (opening setting hooks entity path lineage errors).flow = .proceed)
      (nested : VisitsSlots setting hooks (hooks.found setting.scope entity).shape.nested
        (hooks.found setting.scope entity).slots path
        (lineage ++ [(hooks.found setting.scope entity).snapshot setting.conduct])
        (opening setting hooks entity path lineage errors).errors inner) :
      Visits setting hooks entity path lineage errors
        (afterNested setting hooks path (opening setting hooks entity path lineage errors) inner)

/-- The walk through what the fields of an entity hold. -/
inductive VisitsSlots (setting : Setting) (hooks : Hooks) : List (Nested Shape) →
    List (Slot Entity) → String → List Snapshot → ErrorMap → Stretch (List (Slot Entity)) → Prop
  | done {declared : List (Nested Shape)} {slots : List (Slot Entity)} {path : String}
      {lineage : List Snapshot} {errors : ErrorMap} (empty : declared = [] ∨ slots = []) :
      VisitsSlots setting hooks declared slots path lineage errors ⟨slots, errors, [], .proceed⟩
  | stopped {nested : Nested Shape} {others : List (Nested Shape)} {slot : Slot Entity}
      {slots : List (Slot Entity)} {path : String} {lineage : List Snapshot} {errors : ErrorMap}
      {first : Stretch (Slot Entity)}
      (visits :
        VisitsSlot setting hooks slot (Path.fieldKey path nested.field) lineage errors first)
      (stops : first.flow ≠ .proceed) :
      VisitsSlots setting hooks (nested :: others) (slot :: slots) path lineage errors
        ⟨first.result :: slots, first.errors, first.events, first.flow⟩
  | next {nested : Nested Shape} {others : List (Nested Shape)} {slot : Slot Entity}
      {slots : List (Slot Entity)} {path : String} {lineage : List Snapshot} {errors : ErrorMap}
      {first : Stretch (Slot Entity)} {rest : Stretch (List (Slot Entity))}
      (visits :
        VisitsSlot setting hooks slot (Path.fieldKey path nested.field) lineage errors first)
      (goes : first.flow = .proceed)
      (further : VisitsSlots setting hooks others slots path lineage first.errors rest) :
      VisitsSlots setting hooks (nested :: others) (slot :: slots) path lineage errors
        ⟨first.result :: rest.result, rest.errors, first.events ++ rest.events, rest.flow⟩

/-- The walk through what a field holds. -/
inductive VisitsSlot (setting : Setting) (hooks : Hooks) :
    Slot Entity → String → List Snapshot → ErrorMap → Stretch (Slot Entity) → Prop
  | vacant {key : String} {lineage : List Snapshot} {errors : ErrorMap} :
      VisitsSlot setting hooks .vacant key lineage errors ⟨.vacant, errors, [], .proceed⟩
  | one {child : Entity} {key : String} {lineage : List Snapshot} {errors : ErrorMap}
      {visited : Stretch Entity} (visits : Visits setting hooks child key lineage errors visited) :
      VisitsSlot setting hooks (.one child) key lineage errors
        ⟨.one visited.result, visited.errors, visited.events, visited.flow⟩
  | many {children : List Entity} {key : String} {lineage : List Snapshot} {errors : ErrorMap}
      {visited : Stretch (List Entity)}
      (visits : VisitsElements setting hooks children key 0 lineage errors visited) :
      VisitsSlot setting hooks (.many children) key lineage errors
        ⟨.many visited.result, visited.errors, visited.events, visited.flow⟩

/-- The walk through the elements of a list from a position on. -/
inductive VisitsElements (setting : Setting) (hooks : Hooks) : List Entity → String → Nat →
    List Snapshot → ErrorMap → Stretch (List Entity) → Prop
  | done {key : String} {index : Nat} {lineage : List Snapshot} {errors : ErrorMap} :
      VisitsElements setting hooks [] key index lineage errors ⟨[], errors, [], .proceed⟩
  | stopped {child : Entity} {children : List Entity} {key : String} {index : Nat}
      {lineage : List Snapshot} {errors : ErrorMap} {first : Stretch Entity}
      (visits : Visits setting hooks child (Path.elementKey key index) lineage errors first)
      (stops : first.flow ≠ .proceed) :
      VisitsElements setting hooks (child :: children) key index lineage errors
        ⟨first.result :: children, first.errors, first.events, first.flow⟩
  | next {child : Entity} {children : List Entity} {key : String} {index : Nat}
      {lineage : List Snapshot} {errors : ErrorMap} {first : Stretch Entity}
      {rest : Stretch (List Entity)}
      (visits : Visits setting hooks child (Path.elementKey key index) lineage errors first)
      (goes : first.flow = .proceed)
      (further : VisitsElements setting hooks children key (index + 1) lineage first.errors rest) :
      VisitsElements setting hooks (child :: children) key index lineage errors
        ⟨first.result :: rest.result, rest.errors, first.events ++ rest.events, rest.flow⟩

end

/-! ## One course at most -/

section Unique

variable {setting : Setting} {hooks : Hooks}

mutual

/-- A walk has one course at most, whatever its hooks change. -/
theorem Visits.unique : ∀ {entity : Entity} {path : String} {lineage : List Snapshot}
    {errors : ErrorMap} {first second : Stretch Entity},
    Visits setting hooks entity path lineage errors first →
      Visits setting hooks entity path lineage errors second → first = second
  | _, _, _, _, _, _, .stopped stops, other => by
    cases other with
    | stopped => rfl
    | through goes => exact absurd goes stops
  | _, _, _, _, _, _, .through goes nested, other => by
    cases other with
    | stopped stops => exact absurd goes stops
    | through _ again => rw [VisitsSlots.unique nested again]
termination_by structural _ _ _ _ _ _ visits _ => visits

theorem VisitsSlots.unique : ∀ {declared : List (Nested Shape)} {slots : List (Slot Entity)}
    {path : String} {lineage : List Snapshot} {errors : ErrorMap}
    {first second : Stretch (List (Slot Entity))},
    VisitsSlots setting hooks declared slots path lineage errors first →
      VisitsSlots setting hooks declared slots path lineage errors second → first = second
  | _, _, _, _, _, _, _, .done empty, other => by
    cases other with
    | done => rfl
    | stopped => simp at empty
    | next => simp at empty
  | _, _, _, _, _, _, _, .stopped visits stops, other => by
    cases other with
    | done empty => simp at empty
    | stopped again => rw [VisitsSlot.unique visits again]
    | next again goes => exact absurd (VisitsSlot.unique visits again ▸ goes) stops
  | _, _, _, _, _, _, _, .next visits goes further, other => by
    cases other with
    | done empty => simp at empty
    | stopped again stops => exact absurd (VisitsSlot.unique visits again ▸ goes) stops
    | next again _ more =>
      obtain rfl := VisitsSlot.unique visits again
      rw [VisitsSlots.unique further more]
termination_by structural _ _ _ _ _ _ _ visits _ => visits

theorem VisitsSlot.unique : ∀ {slot : Slot Entity} {key : String} {lineage : List Snapshot}
    {errors : ErrorMap} {first second : Stretch (Slot Entity)},
    VisitsSlot setting hooks slot key lineage errors first →
      VisitsSlot setting hooks slot key lineage errors second → first = second
  | _, _, _, _, _, _, .vacant, .vacant => rfl
  | _, _, _, _, _, _, .one visits, .one again => by rw [Visits.unique visits again]
  | _, _, _, _, _, _, .many visits, .many again => by rw [VisitsElements.unique visits again]
termination_by structural _ _ _ _ _ _ visits _ => visits

theorem VisitsElements.unique : ∀ {children : List Entity} {key : String} {index : Nat}
    {lineage : List Snapshot} {errors : ErrorMap} {first second : Stretch (List Entity)},
    VisitsElements setting hooks children key index lineage errors first →
      VisitsElements setting hooks children key index lineage errors second → first = second
  | _, _, _, _, _, _, _, .done, .done => rfl
  | _, _, _, _, _, _, _, .stopped visits stops, other => by
    cases other with
    | stopped again => rw [Visits.unique visits again]
    | next again goes => exact absurd (Visits.unique visits again ▸ goes) stops
  | _, _, _, _, _, _, _, .next visits goes further, other => by
    cases other with
    | stopped again stops => exact absurd (Visits.unique visits again ▸ goes) stops
    | next again _ more =>
      obtain rfl := Visits.unique visits again
      rw [VisitsElements.unique further more]
termination_by structural _ _ _ _ _ _ _ visits _ => visits

end

end Unique

/-! ## The walk of a conduct -/

section Own

variable (setting : Setting)

/-- The last hook of a conduct is called as the walk calls it. -/
theorem lastHook_hooks (entity : Entity) (path : String) (errors : ErrorMap) :
    lastHook setting setting.conduct.hooks entity path errors =
      conclude setting entity path errors := by
  by_cases clean : (errors.subtree path).isEmpty
  · simp only [lastHook, conclude, clean, if_true, Conduct.hooks]
  · simp only [lastHook, conclude, clean, Bool.false_eq_true, if_false, Conduct.hooks]

/-- A walk ends with what comes first, or goes on to what is nested and to the last hook. -/
theorem visit_eq (entity : Entity) (path : String) (lineage : List Snapshot) (errors : ErrorMap) :
    visit setting entity path lineage errors =
      let first := opening setting setting.conduct.hooks entity path lineage errors
      match first.flow with
      | .proceed =>
        let found := setting.conduct.hooks.found setting.scope entity
        afterNested setting setting.conduct.hooks path first
          (visitSlots setting found.shape.nested found.slots path
            (lineage ++ [found.snapshot setting.conduct]) first.errors)
      | _ => first := by
  obtain ⟨shape, values, slots⟩ := entity
  simp only [visit, opening, afterNested, lastHook_hooks, Conduct.found_hooks,
    Conduct.refusal_hooks]
  cases (setting.conduct.before shape setting.scope values).failure with
  | some failure => rfl
  | none =>
    cases (runFields setting shape (setting.conduct.before shape setting.scope values).values
      lineage path shape.rules errors).flow with
    | proceed =>
      cases (visitSlots setting shape.nested slots path _ _).flow <;> rfl
    | abort => rfl
    | fail failure => rfl

/-- A walk that ends with what comes first is no more than that. -/
theorem visit_of_stops {entity : Entity} {path : String} {lineage : List Snapshot}
    {errors : ErrorMap}
    (stops : (opening setting setting.conduct.hooks entity path lineage errors).flow ≠ .proceed) :
    visit setting entity path lineage errors =
      opening setting setting.conduct.hooks entity path lineage errors := by
  rw [visit_eq]
  dsimp only
  split
  · next goes => exact absurd goes stops
  · rfl

/-- A walk that does not goes on to what is nested, and then to the last hook. -/
theorem visit_of_goes {entity : Entity} {path : String} {lineage : List Snapshot}
    {errors : ErrorMap}
    (goes : (opening setting setting.conduct.hooks entity path lineage errors).flow = .proceed) :
    visit setting entity path lineage errors =
      let first := opening setting setting.conduct.hooks entity path lineage errors
      let found := setting.conduct.hooks.found setting.scope entity
      afterNested setting setting.conduct.hooks path first
        (visitSlots setting found.shape.nested found.slots path
          (lineage ++ [found.snapshot setting.conduct]) first.errors) := by
  rw [visit_eq]
  simp only [goes]

theorem visitSlots_of_empty {declared : List (Nested Shape)} {slots : List (Slot Entity)}
    (empty : declared = [] ∨ slots = []) (path : String) (lineage : List Snapshot)
    (errors : ErrorMap) :
    visitSlots setting declared slots path lineage errors = ⟨slots, errors, [], .proceed⟩ := by
  rcases empty with rfl | rfl
  · cases slots <;> rw [visitSlots] <;> simp
  · cases declared <;> rw [visitSlots] <;> simp

/-- A field that ends the walk leaves those after it as they are. -/
theorem visitSlots_of_stops (nested : Nested Shape) (others : List (Nested Shape))
    (slot : Slot Entity) (slots : List (Slot Entity)) {path : String} {lineage : List Snapshot}
    {errors : ErrorMap} {first : Stretch (Slot Entity)}
    (visited : visitSlot setting slot (Path.fieldKey path nested.field) lineage errors = first)
    (stops : first.flow ≠ .proceed) :
    visitSlots setting (nested :: others) (slot :: slots) path lineage errors =
      ⟨first.result :: slots, first.errors, first.events, first.flow⟩ := by
  rw [visitSlots, visited]
  dsimp only
  split
  · next goes => exact absurd goes stops
  · rfl

/-- After a field that does not, the walk goes on to the others. -/
theorem visitSlots_of_goes (nested : Nested Shape) (others : List (Nested Shape))
    (slot : Slot Entity) (slots : List (Slot Entity)) {path : String} {lineage : List Snapshot}
    {errors : ErrorMap} {first : Stretch (Slot Entity)}
    (visited : visitSlot setting slot (Path.fieldKey path nested.field) lineage errors = first)
    (goes : first.flow = .proceed) :
    visitSlots setting (nested :: others) (slot :: slots) path lineage errors =
      let rest := visitSlots setting others slots path lineage first.errors
      ⟨first.result :: rest.result, rest.errors, first.events ++ rest.events, rest.flow⟩ := by
  rw [visitSlots, visited]
  simp only [goes]

/-- An element that ends the walk leaves those after it as they are. -/
theorem visitElements_of_stops (child : Entity) (children : List Entity) {key : String}
    {index : Nat} {lineage : List Snapshot} {errors : ErrorMap} {first : Stretch Entity}
    (visited : visit setting child (Path.elementKey key index) lineage errors = first)
    (stops : first.flow ≠ .proceed) :
    visitElements setting (child :: children) key index lineage errors =
      ⟨first.result :: children, first.errors, first.events, first.flow⟩ := by
  rw [visitElements, visited]
  dsimp only
  split
  · next goes => exact absurd goes stops
  · rfl

/-- After an element that does not, the walk goes on to the others. -/
theorem visitElements_of_goes (child : Entity) (children : List Entity) {key : String}
    {index : Nat} {lineage : List Snapshot} {errors : ErrorMap} {first : Stretch Entity}
    (visited : visit setting child (Path.elementKey key index) lineage errors = first)
    (goes : first.flow = .proceed) :
    visitElements setting (child :: children) key index lineage errors =
      let rest := visitElements setting children key (index + 1) lineage first.errors
      ⟨first.result :: rest.result, rest.errors, first.events ++ rest.events, rest.flow⟩ := by
  rw [visitElements, visited]
  simp only [goes]

mutual

/-- The walk of a conduct is a course of its hooks. -/
theorem visits_visit : ∀ (entity : Entity) (path : String) (lineage : List Snapshot)
    (errors : ErrorMap),
    Visits setting setting.conduct.hooks entity path lineage errors
      (visit setting entity path lineage errors)
  | ⟨shape, values, slots⟩, path, lineage, errors => by
    by_cases goes : (opening setting setting.conduct.hooks ⟨shape, values, slots⟩ path lineage
      errors).flow = .proceed
    · rw [visit_of_goes setting goes]
      exact .through goes (visitsSlots_visitSlots shape.nested slots _ _ _)
    · rw [visit_of_stops setting goes]
      exact .stopped goes

theorem visitsSlots_visitSlots : ∀ (declared : List (Nested Shape)) (slots : List (Slot Entity))
    (path : String) (lineage : List Snapshot) (errors : ErrorMap),
    VisitsSlots setting setting.conduct.hooks declared slots path lineage errors
      (visitSlots setting declared slots path lineage errors)
  | [], slots, path, lineage, errors => by
    rw [visitSlots_of_empty setting (.inl rfl)]
    exact .done (.inl rfl)
  | _ :: _, [], path, lineage, errors => by
    rw [visitSlots_of_empty setting (.inr rfl)]
    exact .done (.inr rfl)
  | nested :: others, slot :: slots, path, lineage, errors => by
    have first := visitsSlot_visitSlot slot (Path.fieldKey path nested.field) lineage errors
    by_cases goes :
        (visitSlot setting slot (Path.fieldKey path nested.field) lineage errors).flow = .proceed
    · rw [visitSlots_of_goes setting _ _ _ _ rfl goes]
      exact .next first goes (visitsSlots_visitSlots others slots path lineage _)
    · rw [visitSlots_of_stops setting _ _ _ _ rfl goes]
      exact .stopped first goes

theorem visitsSlot_visitSlot : ∀ (slot : Slot Entity) (key : String) (lineage : List Snapshot)
    (errors : ErrorMap),
    VisitsSlot setting setting.conduct.hooks slot key lineage errors
      (visitSlot setting slot key lineage errors)
  | .vacant, key, lineage, errors => by
    rw [visitSlot]
    exact .vacant
  | .one child, key, lineage, errors => by
    rw [visitSlot]
    exact .one (visits_visit child key lineage errors)
  | .many children, key, lineage, errors => by
    rw [visitSlot]
    exact .many (visitsElements_visitElements children key 0 lineage errors)

theorem visitsElements_visitElements : ∀ (children : List Entity) (key : String) (index : Nat)
    (lineage : List Snapshot) (errors : ErrorMap),
    VisitsElements setting setting.conduct.hooks children key index lineage errors
      (visitElements setting children key index lineage errors)
  | [], key, index, lineage, errors => by
    rw [visitElements]
    exact .done
  | child :: children, key, index, lineage, errors => by
    have first := visits_visit child (Path.elementKey key index) lineage errors
    by_cases goes :
        (visit setting child (Path.elementKey key index) lineage errors).flow = .proceed
    · rw [visitElements_of_goes setting _ _ rfl goes]
      exact .next first goes (visitsElements_visitElements children key (index + 1) lineage _)
    · rw [visitElements_of_stops setting _ _ rfl goes]
      exact .stopped first goes

end

/-- For the hooks of a conduct, the one course of a walk is the walk of the conduct. -/
theorem visits_hooks_iff (entity : Entity) (path : String) (lineage : List Snapshot)
    (errors : ErrorMap) (stretch : Stretch Entity) :
    Visits setting setting.conduct.hooks entity path lineage errors stretch ↔
      stretch = visit setting entity path lineage errors := by
  constructor
  · intro visits
    exact visits.unique (visits_visit setting entity path lineage errors)
  · rintro rfl
    exact visits_visit setting entity path lineage errors

end Own

/-! ## The tree that a walk finds -/

section Found

variable {setting : Setting} {hooks : Hooks} {scope : Scope}

/-- The tree that a walk finds in an entity, each entity of it as its hook `before` leaves it. -/
inductive Finds (hooks : Hooks) (scope : Scope) : Entity → Entity → Prop
  | mk {entity : Entity} {slots : List (Slot Entity)} :
      List.Forall₂ (Slot.Relates (Finds hooks scope)) (hooks.found scope entity).slots slots →
        Finds hooks scope entity (hooks.foundWith scope entity slots)

/-- The hooks find one entity directly in the other. -/
def Inside (hooks : Hooks) (scope : Scope) (child entity : Entity) : Prop :=
  ∃ slot ∈ (hooks.found scope entity).slots, child ∈ slot.entities

/-- Where the hooks do not put entity into entity without an end, there is a tree to find. -/
theorem exists_finds {entity : Entity} (ends : Acc (Inside hooks scope) entity) :
    ∃ tree, Finds hooks scope entity tree := by
  induction ends with
  | intro entity _ ih =>
    obtain ⟨slots, nested⟩ := exists_forall₂ fun slot member =>
      Slot.exists_relates fun child held => ih child ⟨slot, member, held⟩
    exact ⟨_, .mk nested⟩

/-- A list can be walked through if each of its elements can. -/
theorem exists_visitsElements {children : List Entity}
    (each : ∀ child ∈ children, ∀ path lineage errors,
      ∃ stretch, Visits setting hooks child path lineage errors stretch)
    (key : String) (index : Nat) (lineage : List Snapshot) (errors : ErrorMap) :
    ∃ stretch, VisitsElements setting hooks children key index lineage errors stretch := by
  induction children generalizing index errors with
  | nil => exact ⟨_, .done⟩
  | cons child rest ih =>
    obtain ⟨first, visits⟩ :=
      each child List.mem_cons_self (Path.elementKey key index) lineage errors
    by_cases goes : first.flow = .proceed
    · obtain ⟨others, further⟩ := ih
        (fun other member => each other (List.mem_cons_of_mem _ member))
        (index + 1) first.errors
      exact ⟨_, .next visits goes further⟩
    · exact ⟨_, .stopped visits goes⟩

/-- A field can be walked through if each entity that it holds can. -/
theorem exists_visitsSlot {slot : Slot Entity}
    (each : ∀ child ∈ slot.entities, ∀ path lineage errors,
      ∃ stretch, Visits setting hooks child path lineage errors stretch)
    (key : String) (lineage : List Snapshot) (errors : ErrorMap) :
    ∃ stretch, VisitsSlot setting hooks slot key lineage errors stretch := by
  cases slot with
  | vacant => exact ⟨_, .vacant⟩
  | one child =>
    obtain ⟨visited, visits⟩ := each child (List.mem_singleton_self child) key lineage errors
    exact ⟨_, .one visits⟩
  | many children =>
    obtain ⟨visited, visits⟩ := exists_visitsElements each key 0 lineage errors
    exact ⟨_, .many visits⟩

/-- Fields can be walked through if each entity that they hold can. -/
theorem exists_visitsSlots (declared : List (Nested Shape)) {slots : List (Slot Entity)}
    (each : ∀ slot ∈ slots, ∀ child ∈ slot.entities, ∀ path lineage errors,
      ∃ stretch, Visits setting hooks child path lineage errors stretch)
    (path : String) (lineage : List Snapshot) (errors : ErrorMap) :
    ∃ stretch, VisitsSlots setting hooks declared slots path lineage errors stretch := by
  induction slots generalizing declared errors with
  | nil => exact ⟨_, .done (.inr rfl)⟩
  | cons slot rest ih =>
    cases declared with
    | nil => exact ⟨_, .done (.inl rfl)⟩
    | cons nested others =>
      obtain ⟨first, visits⟩ := exists_visitsSlot (each slot List.mem_cons_self)
        (Path.fieldKey path nested.field) lineage errors
      by_cases goes : first.flow = .proceed
      · obtain ⟨_, further⟩ := ih others
          (fun other member => each other (List.mem_cons_of_mem _ member)) first.errors
        exact ⟨_, .next visits goes further⟩
      · exact ⟨_, .stopped visits goes⟩

/-- The walk has a course there, whatever its hooks do otherwise. -/
theorem exists_visits {entity : Entity} (ends : Acc (Inside hooks setting.scope) entity)
    (path : String) (lineage : List Snapshot) (errors : ErrorMap) :
    ∃ stretch, Visits setting hooks entity path lineage errors stretch := by
  induction ends generalizing path lineage errors with
  | intro entity _ ih =>
    -- What the hook puts into the entity is inside it, so that there is a course for it already.
    by_cases goes : (opening setting hooks entity path lineage errors).flow = .proceed
    · obtain ⟨inner, nested⟩ := exists_visitsSlots
        (hooks.found setting.scope entity).shape.nested
        (fun slot member child held => ih child ⟨slot, member, held⟩) path
        (lineage ++ [(hooks.found setting.scope entity).snapshot setting.conduct])
        (opening setting hooks entity path lineage errors).errors
      exact ⟨_, .through goes nested⟩
    · exact ⟨_, .stopped goes⟩

/-- Rules do not look at hooks. -/
theorem runFields_unhooked (shape : Shape) (values : Entries Value) (lineage : List Snapshot)
    (path : String) (rules : Entries (List Rule)) (errors : ErrorMap) :
    runFields setting.unhooked shape values lineage path rules errors =
      runFields setting shape values lineage path rules errors := by
  have input (field : String) : inputOf setting.unhooked shape values lineage field =
      inputOf setting shape values lineage field := rfl
  induction rules generalizing errors with
  | nil => rfl
  | cons entry rest ih => simp only [runFields, input, ih]

/-- What comes first leaves the entity that is found. -/
theorem opening_result (entity : Entity) (path : String) (lineage : List Snapshot)
    (errors : ErrorMap) :
    (opening setting hooks entity path lineage errors).result =
      hooks.found setting.scope entity := by
  unfold opening
  dsimp only
  split <;> rfl

/-- What comes first on a walk looks at the values of the entity that is found, and at nothing in
it. -/
theorem opening_course (setting : Setting) (quiet : hooks.Quiet) (entity : Entity)
    (slots : List (Slot Entity)) (path : String) (lineage : List Snapshot) (errors : ErrorMap) :
    (opening setting.unhooked setting.unhooked.conduct.hooks
        (hooks.foundWith setting.scope entity slots) path lineage errors).course =
      (opening setting hooks entity path lineage errors).course := by
  have kept : (hooks.found setting.scope entity).shape = entity.shape := hooks.before_shape _ _
  simp only [opening, quiet.before, runFields_unhooked, Stretch.course, Hooks.foundWith, kept]
  rfl

/-- The last hook, if it does not fail, is only called. -/
theorem lastHook_course (quiet : hooks.Quiet) (entity : Entity) (path : String)
    (errors : ErrorMap) :
    (lastHook setting hooks entity path errors).course =
      ⟨(), errors, [.hook path entity.shape.name setting.scope
        (if (errors.subtree path).isEmpty then .complete else .failed (errors.subtree path))],
        .proceed⟩ := by
  by_cases clean : (errors.subtree path).isEmpty
  · simp only [lastHook, clean, if_true, Stretch.course, quiet.complete, afterHook]
  · simp only [lastHook, clean, Bool.false_eq_true, if_false, Stretch.course, quiet.failed,
      afterHook]

/-- With hooks or without, the last hook is called at the same place and for the same errors. -/
theorem lastHook_unhooked (setting : Setting) (quiet : hooks.Quiet) (tree entity : Entity)
    (shape : tree.shape = entity.shape) (path : String) (errors : ErrorMap) :
    (lastHook setting.unhooked setting.unhooked.conduct.hooks tree path errors).course =
      (lastHook setting hooks entity path errors).course := by
  rw [lastHook_course quiet]
  refine (lastHook_course setting.conduct.quiet_unhooked tree path errors).trans ?_
  rw [shape]
  rfl

/-- What follows on what is nested is told by what came before. -/
theorem afterNested_course (quiet : hooks.Quiet) (path : String) {first other : Stretch Entity}
    {inner within : Stretch (List (Slot Entity))} (shape : other.result.shape = first.result.shape)
    (opens : other.course = first.course) (nested : within.course = inner.course) :
    (afterNested setting.unhooked setting.unhooked.conduct.hooks path other within).course =
      (afterNested setting hooks path first inner).course := by
  obtain ⟨-, told, -⟩ := Stretch.course_inj.mp opens
  obtain ⟨errors, events, flow⟩ := Stretch.course_inj.mp nested
  unfold afterNested
  dsimp only
  rw [flow, errors]
  cases inner.flow with
  | proceed =>
    obtain ⟨left, called, ends⟩ := Stretch.course_inj.mp <|
      lastHook_unhooked setting quiet ⟨other.result.shape, other.result.values, within.result⟩
        ⟨first.result.shape, first.result.values, inner.result⟩ shape path inner.errors
    exact Stretch.course_inj.mpr ⟨left, by rw [told, events, called], ends⟩
  | abort => exact Stretch.course_inj.mpr ⟨rfl, by rw [told, events], rfl⟩
  | fail failure => exact Stretch.course_inj.mpr ⟨rfl, by rw [told, events], rfl⟩

mutual

-- The recursion is on the course: what a hook puts into an entity need be no part of the entity.

/-- A walk with hooks that do not fail has the errors, the events and the end of the walk without
hooks over the tree that it finds. -/
theorem Visits.course_eq (quiet : hooks.Quiet) : ∀ {entity : Entity} {path : String}
    {lineage : List Snapshot} {errors : ErrorMap} {stretch : Stretch Entity},
    Visits setting hooks entity path lineage errors stretch → ∀ {tree : Entity},
      Finds hooks setting.scope entity tree →
        (visit setting.unhooked tree path lineage errors).course = stretch.course
  | entity, path, lineage, errors, _, .stopped stops, _, @Finds.mk _ _ _ slots _ => by
    have same := opening_course setting quiet entity slots path lineage errors
    obtain ⟨-, -, flow⟩ := Stretch.course_inj.mp same
    rw [visit_of_stops setting.unhooked fun goes => stops (flow.symm.trans goes), same]
  | entity, path, lineage, errors, _, .through goes visits, _, @Finds.mk _ _ _ slots nested => by
    have same := opening_course setting quiet entity slots path lineage errors
    obtain ⟨left, -, flow⟩ := Stretch.course_inj.mp same
    have inner := VisitsSlots.course_eq quiet visits nested
    rw [visit_of_goes setting.unhooked (flow.trans goes)]
    refine afterNested_course quiet path ?_ same ?_
    · rw [opening_result, opening_result]
      rfl
    · rw [left]
      exact inner
termination_by structural _ _ _ _ _ visits => visits

theorem VisitsSlots.course_eq (quiet : hooks.Quiet) : ∀ {declared : List (Nested Shape)}
    {slots : List (Slot Entity)} {path : String} {lineage : List Snapshot} {errors : ErrorMap}
    {stretch : Stretch (List (Slot Entity))},
    VisitsSlots setting hooks declared slots path lineage errors stretch →
      ∀ {trees : List (Slot Entity)},
        List.Forall₂ (Slot.Relates (Finds hooks setting.scope)) slots trees →
          (visitSlots setting.unhooked declared trees path lineage errors).course =
            stretch.course
  | _, _, _, _, _, _, .done empty, trees, finds => by
    rw [visitSlots_of_empty]
    · rfl
    · exact empty.imp_right fun none => by simpa [none] using finds
  | _, _, _, _, _, _, .stopped visits stops, _, .cons found _ => by
    have same := VisitsSlot.course_eq quiet visits found
    obtain ⟨-, -, flow⟩ := Stretch.course_inj.mp same
    rw [visitSlots_of_stops _ _ _ _ _ rfl fun goes => stops (flow.symm.trans goes)]
    exact same
  | _, _, _, _, _, _, .next visits goes further, _, .cons found others => by
    have same := VisitsSlot.course_eq quiet visits found
    have more := VisitsSlots.course_eq quiet further others
    obtain ⟨left, told, flow⟩ := Stretch.course_inj.mp same
    obtain ⟨errors, events, ends⟩ := Stretch.course_inj.mp more
    rw [visitSlots_of_goes _ _ _ _ _ rfl (flow.trans goes)]
    dsimp only
    rw [left]
    exact Stretch.course_inj.mpr ⟨errors, by rw [told, events], ends⟩
termination_by structural _ _ _ _ _ _ visits => visits

theorem VisitsSlot.course_eq (quiet : hooks.Quiet) : ∀ {slot : Slot Entity} {key : String}
    {lineage : List Snapshot} {errors : ErrorMap} {stretch : Stretch (Slot Entity)},
    VisitsSlot setting hooks slot key lineage errors stretch → ∀ {tree : Slot Entity},
      Slot.Relates (Finds hooks setting.scope) slot tree →
        (visitSlot setting.unhooked tree key lineage errors).course = stretch.course
  | _, _, _, _, _, .vacant, _, .vacant => by
    rw [visitSlot]
  | _, _, _, _, _, .one visits, _, .one found => by
    rw [visitSlot]
    exact Visits.course_eq quiet visits found
  | _, _, _, _, _, .many visits, _, .many found => by
    rw [visitSlot]
    exact VisitsElements.course_eq quiet visits found
termination_by structural _ _ _ _ _ visits => visits

theorem VisitsElements.course_eq (quiet : hooks.Quiet) : ∀ {children : List Entity}
    {key : String} {index : Nat} {lineage : List Snapshot} {errors : ErrorMap}
    {stretch : Stretch (List Entity)},
    VisitsElements setting hooks children key index lineage errors stretch →
      ∀ {trees : List Entity}, List.Forall₂ (Finds hooks setting.scope) children trees →
        (visitElements setting.unhooked trees key index lineage errors).course = stretch.course
  | _, _, _, _, _, _, .done, _, .nil => by
    rw [visitElements]
  | _, _, _, _, _, _, .stopped visits stops, _, .cons found _ => by
    have same := Visits.course_eq quiet visits found
    obtain ⟨-, -, flow⟩ := Stretch.course_inj.mp same
    rw [visitElements_of_stops _ _ _ rfl fun goes => stops (flow.symm.trans goes)]
    exact same
  | _, _, _, _, _, _, .next visits goes further, _, .cons found others => by
    have same := Visits.course_eq quiet visits found
    have more := VisitsElements.course_eq quiet further others
    obtain ⟨left, told, flow⟩ := Stretch.course_inj.mp same
    obtain ⟨errors, events, ends⟩ := Stretch.course_inj.mp more
    rw [visitElements_of_goes _ _ _ rfl (flow.trans goes)]
    dsimp only
    rw [left]
    exact Stretch.course_inj.mpr ⟨errors, by rw [told, events], ends⟩
termination_by structural _ _ _ _ _ _ visits => visits

end

/-- A validation with hooks that do not fail is the validation without hooks of the tree that it
finds: it has its events and its report. -/
theorem Visits.validates (quiet : hooks.Quiet) (conduct : Conduct) (messages : Messages)
    {seed : ErrorMap} {entity tree : Entity} {stretch : Stretch Entity}
    (visits : Visits ⟨conduct, messages, scope⟩ hooks entity "" [] seed stretch)
    (finds : Finds hooks scope entity tree) :
    (validate conduct.unhooked messages scope seed tree).events = stretch.events ∧
      (validate conduct.unhooked messages scope seed tree).outcome = stretch.outcome := by
  obtain ⟨errors, events, flow⟩ := Stretch.course_inj.mp (visits.course_eq quiet finds)
  refine ⟨events, ?_⟩
  change Stretch.outcome (visit ⟨conduct.unhooked, messages, scope⟩ tree "" [] seed) = _
  unfold Stretch.outcome
  rw [← errors, ← flow]
  rfl

end Found

end Walk

end Scrutiny
