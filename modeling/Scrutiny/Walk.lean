import Scrutiny.Entity

/-! # Walking entities

A validation visits an entity and then the entities nested in it. At each entity the hook `before`
comes first, then the rules of its fields in order, then the nested entities, and last the hook
`failed` or `complete`, as there are errors at the entity or below it or not. A check that aborts,
and a failure, end the whole walk. Everything that is called leaves an event.
-/

namespace Scrutiny

/-- How a walk goes on. -/
inductive Flow where
  | proceed
  /-- A check has aborted the walk. -/
  | abort
  | fail (failure : Failure)

/-- A hook of an entity. -/
inductive Hook where
  | before
  | complete
  /-- With the errors at the entity and below it. -/
  | failed (errors : ErrorMap)

/-- What happens in the course of a walk. -/
inductive Event where
  /-- A hook of the entity of a path is called. -/
  | hook (path entity : String) (scope : Scope) (hook : Hook)
  /-- The rules of a field are run. -/
  | field (path key field : String) (lineage : List Snapshot)
  /-- A test is called. -/
  | check (key : String) (rule : RuleDecl) (input : CheckInput)

/-- What a part of a walk leaves: a result, the errors so far, the events of this part, and how the
walk goes on. -/
structure Stretch (α : Type) where
  result : α
  errors : ErrorMap
  events : List Event
  flow : Flow

namespace Walk

/-- Run rules in order. A rule of another scope is passed over. The other rules end the list by
their flags. -/
def runRules (key : String) (input : CheckInput) : List Rule → ErrorMap → Stretch Unit
  | [], errors => ⟨(), errors, [], .proceed⟩
  | rule :: rest, errors =>
    if !rule.decl.scope.intersects input.scope then runRules key input rest errors
    else if rule.decl.control.exitIfAlreadyErrored && errors.has key then
      ⟨(), errors, [], .proceed⟩
    else
      let event := Event.check key rule.decl input
      match rule.test input with
      | .error failure => ⟨(), errors, [event], .fail failure⟩
      | .ok .abort => ⟨(), errors, [event], .abort⟩
      | .ok outcome =>
        let messages := match outcome with
          | .errors messages => messages
          | _ => []
        let errors := errors.extendAt key messages
        let ends := if messages.isEmpty then rule.decl.control.exitOnSuccess
          else rule.decl.control.exitOnFailure
        if ends then ⟨(), errors, [event], .proceed⟩
        else
          let others := runRules key input rest errors
          { others with events := event :: others.events }

/-- What does not change in the course of a walk. -/
structure Setting where
  conduct : Conduct
  messages : Messages
  scope : Scope

/-- What the tests of a field look at. -/
def inputOf (setting : Setting) (shape : Shape) (values : Entries Value)
    (lineage : List Snapshot) (field : String) : CheckInput where
  field := field
  label := shape.label field
  value := setting.conduct.shows values field
  scope := setting.scope
  sibling := setting.conduct.shows values
  labelOf := shape.label
  lineage := lineage
  messages := setting.messages

/-- Run the rules of several fields. -/
def runFields (setting : Setting) (shape : Shape) (values : Entries Value)
    (lineage : List Snapshot) (path : String) : Entries (List Rule) → ErrorMap → Stretch Unit
  | [], errors => ⟨(), errors, [], .proceed⟩
  | (field, rules) :: rest, errors =>
    let key := Path.fieldKey path field
    let event := Event.field path key field lineage
    let first := runRules key (inputOf setting shape values lineage field) rules errors
    match first.flow with
    | .proceed =>
      let others := runFields setting shape values lineage path rest first.errors
      { others with events := event :: first.events ++ others.events }
    | _ => { first with events := event :: first.events }

/-- How a walk goes on after a hook. -/
def afterHook : Option Failure → Flow
  | none => .proceed
  | some failure => .fail failure

/-- Call the last hook of an entity: `failed` if there are errors at its path or below it, and
otherwise `complete`. -/
def conclude (setting : Setting) (entity : Entity) (path : String) (errors : ErrorMap) :
    Stretch Entity :=
  let own := errors.subtree path
  let (hook, reaction) :=
    if own.isEmpty then
      (Hook.complete, setting.conduct.complete entity.shape setting.scope entity.values)
    else
      (Hook.failed own, setting.conduct.failed entity.shape own setting.scope entity.values)
  ⟨{ entity with values := reaction.values }, errors,
    [.hook path entity.shape.name setting.scope hook], afterHook reaction.failure⟩

mutual

/-- Visit an entity and everything in it. -/
def visit (setting : Setting) :
    Entity → String → List Snapshot → ErrorMap → Stretch Entity
  | ⟨shape, values, slots⟩, path, lineage, errors =>
    let reaction := setting.conduct.before shape setting.scope values
    let event := Event.hook path shape.name setting.scope .before
    let entity : Entity := ⟨shape, reaction.values, slots⟩
    match reaction.failure with
    | some failure => ⟨entity, errors, [event], .fail failure⟩
    | none =>
      let own := runFields setting shape reaction.values lineage path shape.rules errors
      match own.flow with
      | .proceed =>
        let around := lineage ++ [entity.snapshot setting.conduct]
        let inner := visitSlots setting shape.nested slots path around own.errors
        let entity : Entity := ⟨shape, reaction.values, inner.result⟩
        match inner.flow with
        | .proceed =>
          let last := conclude setting entity path inner.errors
          { last with events := event :: own.events ++ inner.events ++ last.events }
        | flow => ⟨entity, inner.errors, event :: own.events ++ inner.events, flow⟩
      | flow => ⟨entity, own.errors, event :: own.events, flow⟩

/-- Visit the nested entities of several fields. -/
def visitSlots (setting : Setting) :
    List (Nested Shape) → List (Slot Entity) → String → List Snapshot → ErrorMap →
      Stretch (List (Slot Entity))
  | nested :: others, slot :: slots, path, lineage, errors =>
    let first := visitSlot setting slot (Path.fieldKey path nested.field) lineage errors
    match first.flow with
    | .proceed =>
      let rest := visitSlots setting others slots path lineage first.errors
      ⟨first.result :: rest.result, rest.errors, first.events ++ rest.events, rest.flow⟩
    | flow => ⟨first.result :: slots, first.errors, first.events, flow⟩
  | _, slots, _, _, errors => ⟨slots, errors, [], .proceed⟩

/-- Visit the nested entities of a field. -/
def visitSlot (setting : Setting) :
    Slot Entity → String → List Snapshot → ErrorMap → Stretch (Slot Entity)
  | .vacant, _, _, errors => ⟨.vacant, errors, [], .proceed⟩
  | .one child, key, lineage, errors =>
    let visited := visit setting child key lineage errors
    ⟨.one visited.result, visited.errors, visited.events, visited.flow⟩
  | .many children, key, lineage, errors =>
    let visited := visitElements setting children key 0 lineage errors
    ⟨.many visited.result, visited.errors, visited.events, visited.flow⟩

/-- Visit the elements of a list from a position on. -/
def visitElements (setting : Setting) :
    List Entity → String → Nat → List Snapshot → ErrorMap → Stretch (List Entity)
  | [], _, _, _, errors => ⟨[], errors, [], .proceed⟩
  | child :: children, key, index, lineage, errors =>
    let first := visit setting child (Path.elementKey key index) lineage errors
    match first.flow with
    | .proceed =>
      let rest := visitElements setting children key (index + 1) lineage first.errors
      ⟨first.result :: rest.result, rest.errors, first.events ++ rest.events, rest.flow⟩
    | flow => ⟨first.result :: children, first.errors, first.events, flow⟩

end

end Walk

/-- The result of a validation. -/
structure Report where
  errors : ErrorMap
  aborted : Bool
  deriving Repr, DecidableEq

/-- Whether there are no errors. -/
def Report.isValid (report : Report) : Bool :=
  report.errors.isEmpty

/-- A validation: the entity afterwards, the events, and the report or why there is none. -/
structure Validation where
  entity : Entity
  events : List Event
  outcome : Except Failure Report

/-- Validate an entity for the operations of a scope, with errors that are there already. -/
def validate (conduct : Conduct) (messages : Messages) (scope : Scope) (seed : ErrorMap)
    (entity : Entity) : Validation :=
  let walk := Walk.visit ⟨conduct, messages, scope⟩ entity "" [] seed
  let outcome := match walk.flow with
    | .proceed => .ok ⟨walk.errors, false⟩
    | .abort => .ok ⟨walk.errors, true⟩
    | .fail failure => .error failure
  ⟨walk.result, walk.events, outcome⟩

end Scrutiny
