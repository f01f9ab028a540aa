import Scrutiny.Walk

/-! # A walk as a list of calls

A walk visits entities by recursion. Laid out flat it is a list of calls, one for every entity of
the tree and every field of its shape that has rules: an entity comes before the entities nested in
it, these come in the order of the fields that hold them, and the elements of a list by position.
Running the calls of the list in order, up to the first that does not let the walk go on, leaves the
errors, the events and the flow of the walk (`Walk.visit_work`). Every call sees the values of the
entities around its own, outermost first.
-/

namespace Scrutiny

/-- Hooks that never keep a walk from going on. -/
structure Conduct.Quiet (conduct : Conduct) : Prop where
  before : ∀ shape scope values, (conduct.before shape scope values).failure = none
  complete : ∀ shape scope values, (conduct.complete shape scope values).failure = none
  failed : ∀ shape errors scope values, (conduct.failed shape errors scope values).failure = none

theorem Conduct.record_quiet : Conduct.record.Quiet where
  before _ _ _ := rfl
  complete _ _ _ := rfl
  failed _ _ _ _ := rfl

/-- Whether an event is the work of rules and not the call of a hook. -/
def Event.isWork : Event → Bool
  | hook .. => false
  | field .. => true
  | check .. => true

/-- Whether an event is the run of the rules of a field. -/
def Event.isField : Event → Bool
  | hook .. => false
  | field .. => true
  | check .. => false

/-- Whether an event is the call of a test. -/
def Event.isCheck : Event → Bool
  | hook .. => false
  | field .. => false
  | check .. => true

namespace Stretch

variable {α β : Type}

/-- What the rules do in a part of a walk, its hooks left aside. -/
def work (part : Stretch α) : Stretch Unit where
  result := ()
  errors := part.errors
  events := part.events.filter Event.isWork
  flow := part.flow

/-- A part of a walk and, if that lets the walk go on, a further part. -/
def andThen (first : Stretch Unit) (next : ErrorMap → Stretch Unit) : Stretch Unit :=
  match first.flow with
  | .proceed =>
    let further := next first.errors
    ⟨(), further.errors, first.events ++ further.events, further.flow⟩
  | _ => first

/-- After a part that lets the walk go on, the next one is added. -/
theorem andThen_of_proceed {first : Stretch Unit} (next : ErrorMap → Stretch Unit)
    (proceeds : first.flow = .proceed) :
    first.andThen next = ⟨(), (next first.errors).errors,
      first.events ++ (next first.errors).events, (next first.errors).flow⟩ := by
  unfold andThen
  rw [proceeds]

/-- After a part that ends the walk, nothing is added. -/
theorem andThen_of_stops {first : Stretch Unit} (next : ErrorMap → Stretch Unit)
    (stops : first.flow ≠ .proceed) : first.andThen next = first := by
  unfold andThen
  split
  · next proceeds => exact absurd proceeds stops
  · rfl

/-- Parts of a walk can be put together in any grouping. -/
theorem andThen_assoc (first : Stretch Unit) (second third : ErrorMap → Stretch Unit) :
    (first.andThen second).andThen third =
      first.andThen fun errors => (second errors).andThen third := by
  obtain ⟨_, errors, events, flow⟩ := first
  cases flow with
  | proceed =>
    obtain ⟨middle, defined⟩ : ∃ middle, second errors = middle := ⟨_, rfl⟩
    simp only [andThen, defined]
    obtain ⟨_, _, _, further⟩ := middle
    cases further <;> simp only [List.append_assoc]
  | abort => rfl
  | fail failure => rfl

/-- Nothing happens and the walk goes on. -/
def still (errors : ErrorMap) : Stretch Unit :=
  ⟨(), errors, [], .proceed⟩

theorem still_andThen (errors : ErrorMap) (next : ErrorMap → Stretch Unit) :
    (still errors).andThen next = next errors :=
  andThen_of_proceed next rfl

end Stretch

namespace Walk

/-- An entity of a tree as its tests see it, with its path key and the entities around it, outermost
first. -/
structure Node where
  entity : Entity
  path : String
  around : List Entity

/-- An entity as its hook `before` leaves it. -/
def prepared (setting : Setting) (entity : Entity) : Entity :=
  { entity with
    values := (setting.conduct.before entity.shape setting.scope entity.values).values }

mutual

/-- An entity and everything nested in it, in the order in which a walk comes to it. -/
def nodes (setting : Setting) : Entity → String → List Entity → List Node
  | ⟨shape, values, slots⟩, path, around =>
    let entity := prepared setting ⟨shape, values, slots⟩
    ⟨entity, path, around⟩ :: slotsNodes setting shape.nested slots path (around ++ [entity])

/-- What is nested in an entity: field by field. -/
def slotsNodes (setting : Setting) :
    List (Nested Shape) → List (Slot Entity) → String → List Entity → List Node
  | nested :: others, slot :: slots, path, around =>
    slotNodes setting slot (Path.fieldKey path nested.field) around ++
      slotsNodes setting others slots path around
  | _, _, _, _ => []

/-- What is nested in a field. -/
def slotNodes (setting : Setting) : Slot Entity → String → List Entity → List Node
  | .vacant, _, _ => []
  | .one child, key, around => nodes setting child key around
  | .many children, key, around => elementNodes setting children key 0 around

/-- The elements of a list from a position on. -/
def elementNodes (setting : Setting) : List Entity → String → Nat → List Entity → List Node
  | [], _, _, _ => []
  | child :: children, key, index, around =>
    nodes setting child (Path.elementKey key index) around ++
      elementNodes setting children key (index + 1) around

end

/-- A run of the rules of a field of an entity. -/
structure Call where
  node : Node
  field : String
  rules : List Rule

/-- The calls that an entity makes for the fields of its own shape. -/
def Node.calls (node : Node) : List Call :=
  node.entity.shape.rules.map fun entry => ⟨node, entry.1, entry.2⟩

/-- The calls of a walk in order. -/
def calls (setting : Setting) (entity : Entity) : List Call :=
  (nodes setting entity "" []).flatMap Node.calls

namespace Call

/-- The path key of the field. -/
def key (call : Call) : String :=
  Path.fieldKey call.node.path call.field

/-- What the entities around show, outermost first. -/
def lineage (setting : Setting) (call : Call) : List Snapshot :=
  call.node.around.map (Entity.snapshot setting.conduct)

/-- What the tests of the field look at. -/
def input (setting : Setting) (call : Call) : CheckInput :=
  inputOf setting call.node.entity.shape call.node.entity.values (call.lineage setting) call.field

/-- The event that a call leaves. -/
def event (setting : Setting) (call : Call) : Event :=
  .field call.node.path call.key call.field (call.lineage setting)

/-- A single call. -/
def run (setting : Setting) (call : Call) (errors : ErrorMap) : Stretch Unit :=
  let rules := runRules call.key (call.input setting) call.rules errors
  { rules with events := call.event setting :: rules.events }

end Call

/-- Calls one after another, up to the first that does not let the walk go on. -/
def runCalls (setting : Setting) : List Call → ErrorMap → Stretch Unit
  | [], errors => .still errors
  | call :: rest, errors => (call.run setting errors).andThen (runCalls setting rest)

section Flat

variable (setting : Setting)

/-- Lists of calls are run one after the other. -/
theorem runCalls_append (first second : List Call) (errors : ErrorMap) :
    runCalls setting (first ++ second) errors =
      (runCalls setting first errors).andThen (runCalls setting second) := by
  induction first generalizing errors with
  | nil => exact (Stretch.still_andThen errors _).symm
  | cons call rest ih =>
    simp only [List.cons_append, runCalls, Stretch.andThen_assoc]
    exact congrArg _ (funext ih)

/-- Running rules leaves no event but calls of tests. -/
theorem runRules_events (key : String) (input : CheckInput) (rules : List Rule)
    (errors : ErrorMap) :
    ∀ event ∈ (runRules key input rules errors).events, event.isCheck := by
  fun_induction runRules key input rules errors with
  | case1 => simp
  | case2 _ _ _ _ ih => exact ih
  | case3 => simp
  | case4 => exact fun _ member => List.mem_singleton.mp member ▸ rfl
  | case5 => exact fun _ member => List.mem_singleton.mp member ▸ rfl
  | case6 => exact fun _ member => List.mem_singleton.mp member ▸ rfl
  | case7 _ _ _ _ _ _ _ _ _ _ _ _ _ _ ih =>
    intro event member
    rcases List.mem_cons.mp member with rfl | later
    · rfl
    · exact ih event later

/-- The rules of the fields of an entity are the calls that it makes. -/
theorem runFields_eq (node : Node) (fields : Entries (List Rule)) (errors : ErrorMap) :
    runFields setting node.entity.shape node.entity.values
        (node.around.map (Entity.snapshot setting.conduct)) node.path fields errors =
      runCalls setting (fields.map fun entry => ⟨node, entry.1, entry.2⟩) errors := by
  induction fields generalizing errors with
  | nil => rfl
  | cons entry rest ih =>
    simp only [runFields, List.map_cons, runCalls, Stretch.andThen, Call.run, ← ih]
    rfl

theorem runCalls_events (list : List Call) (errors : ErrorMap) :
    ∀ event ∈ (runCalls setting list errors).events, event.isWork := by
  induction list generalizing errors with
  | nil => simp [runCalls, Stretch.still]
  | cons call rest ih =>
    have own : ∀ event ∈ (call.run setting errors).events, event.isWork := by
      intro event member
      rcases List.mem_cons.mp member with rfl | later
      · rfl
      · have := runRules_events _ _ _ _ event later
        cases event <;> simp_all [Event.isCheck, Event.isWork]
    simp only [runCalls, Stretch.andThen]
    split
    · intro event member
      rcases List.mem_append.mp member with first | later
      · exact own event first
      · exact ih _ event later
    · exact own

/-- The events of calls are all work. -/
theorem work_runCalls (list : List Call) (errors : ErrorMap) :
    (runCalls setting list errors).work = runCalls setting list errors := by
  have kept := List.filter_eq_self.mpr (runCalls_events setting list errors)
  simp only [Stretch.work, kept]

/-- The last hook of an entity changes no error and lets the walk go on. -/
theorem work_conclude (quiet : setting.conduct.Quiet) (entity : Entity) (path : String)
    (errors : ErrorMap) : (conclude setting entity path errors).work = .still errors := by
  by_cases clean : (errors.subtree path).isEmpty
  · simp [conclude, clean, Stretch.work, Stretch.still, Event.isWork, afterHook, quiet.complete]
  · simp [conclude, clean, Stretch.work, Stretch.still, Event.isWork, afterHook, quiet.failed]

mutual

/-- A visit does the work of the calls of its entities in order. -/
theorem visit_work (quiet : setting.conduct.Quiet) : ∀ (entity : Entity) (path : String)
    (around : List Entity) (errors : ErrorMap),
    (visit setting entity path (around.map (Entity.snapshot setting.conduct)) errors).work =
      runCalls setting ((nodes setting entity path around).flatMap Node.calls) errors
  | ⟨shape, values, slots⟩, path, around, errors => by
    obtain ⟨node, defined⟩ : ∃ node : Node,
        node = ⟨prepared setting ⟨shape, values, slots⟩, path, around⟩ := ⟨_, rfl⟩
    have order : nodes setting ⟨shape, values, slots⟩ path around =
        node :: slotsNodes setting shape.nested slots path (around ++ [node.entity]) := by
      rw [defined, nodes]
    have own : runFields setting shape (setting.conduct.before shape setting.scope values).values
        (around.map (Entity.snapshot setting.conduct)) path shape.rules errors =
        runCalls setting node.calls errors := by
      subst defined
      exact runFields_eq setting ⟨prepared setting ⟨shape, values, slots⟩, path, around⟩ _ _
    have shown : (around ++ [node.entity]).map (Entity.snapshot setting.conduct) =
        around.map (Entity.snapshot setting.conduct) ++ [Entity.snapshot setting.conduct
          ⟨shape, (setting.conduct.before shape setting.scope values).values, slots⟩] := by
      simp only [defined, prepared, List.map_append, List.map_cons, List.map_nil]
    have inner := funext (slots_work quiet shape.nested slots path (around ++ [node.entity]))
    have kept := work_runCalls setting node.calls errors
    have calm := quiet.before shape setting.scope values
    have last := work_conclude setting quiet
    simp only [order, List.flatMap_cons, runCalls_append, ← inner, shown, visit, calm, own]
    generalize runCalls setting node.calls errors = mine at kept ⊢
    obtain ⟨_, before, events, flow⟩ := mine
    have all : events.filter Event.isWork = events := congrArg Stretch.events kept
    cases flow with
    | abort => simp [Stretch.work, Stretch.andThen, Event.isWork, all]
    | fail failure => simp [Stretch.work, Stretch.andThen, Event.isWork, all]
    | proceed =>
      simp only [Stretch.andThen]
      generalize visitSlots setting shape.nested slots path _ before = below
      obtain ⟨inside, after, _, flow⟩ := below
      cases flow with
      | abort => simp [Stretch.work, Event.isWork, all]
      | fail failure => simp [Stretch.work, Event.isWork, all]
      | proceed =>
        have closing := last ⟨shape, (setting.conduct.before shape setting.scope values).values,
          inside⟩ path after
        simp only [Stretch.work, Stretch.still, Stretch.mk.injEq, true_and] at closing ⊢
        simp [Event.isWork, all, closing]

/-- The fields of an entity are worked through as the calls of their nodes. -/
theorem slots_work (quiet : setting.conduct.Quiet) : ∀ (nested : List (Nested Shape))
    (slots : List (Slot Entity)) (path : String) (around : List Entity) (errors : ErrorMap),
    (visitSlots setting nested slots path (around.map (Entity.snapshot setting.conduct))
      errors).work =
      runCalls setting ((slotsNodes setting nested slots path around).flatMap Node.calls) errors
  | nested :: others, slot :: slots, path, around, errors => by
    have first := slot_work quiet slot (Path.fieldKey path nested.field) around errors
    have rest := slots_work quiet others slots path around
    simp only [slotsNodes, List.flatMap_append, runCalls_append, ← first, ← funext rest, visitSlots]
    generalize visitSlot setting slot _ _ errors = part
    obtain ⟨_, _, _, flow⟩ := part
    cases flow <;> simp [Stretch.work, Stretch.andThen]
  | [], _, _, _, _ => by simp only [visitSlots, slotsNodes]; rfl
  | _ :: _, [], _, _, _ => by simp only [visitSlots, slotsNodes]; rfl

/-- A field is worked through as the calls of its nodes. -/
theorem slot_work (quiet : setting.conduct.Quiet) : ∀ (slot : Slot Entity) (key : String)
    (around : List Entity) (errors : ErrorMap),
    (visitSlot setting slot key (around.map (Entity.snapshot setting.conduct)) errors).work =
      runCalls setting ((slotNodes setting slot key around).flatMap Node.calls) errors
  | .vacant, _, _, _ => by simp only [visitSlot, slotNodes]; rfl
  | .one child, key, around, errors => by
    simp only [slotNodes, ← visit_work quiet child key around errors, visitSlot]
    rfl
  | .many children, key, around, errors => by
    simp only [slotNodes, ← elements_work quiet children key 0 around errors, visitSlot]
    rfl

/-- A list is worked through as the calls of its nodes. -/
theorem elements_work (quiet : setting.conduct.Quiet) : ∀ (children : List Entity)
    (key : String) (index : Nat) (around : List Entity) (errors : ErrorMap),
    (visitElements setting children key index (around.map (Entity.snapshot setting.conduct))
      errors).work =
      runCalls setting ((elementNodes setting children key index around).flatMap Node.calls)
        errors
  | [], _, _, _, _ => by simp only [visitElements, elementNodes]; rfl
  | child :: children, key, index, around, errors => by
    have first := visit_work quiet child (Path.elementKey key index) around errors
    have rest := elements_work quiet children key (index + 1) around
    simp only [elementNodes, List.flatMap_append, runCalls_append, ← first, ← funext rest,
      visitElements]
    generalize visit setting child _ _ errors = part
    obtain ⟨_, _, _, flow⟩ := part
    cases flow <;> simp [Stretch.work, Stretch.andThen]

end

/-- The calls that are made are the first ones of the list, and all of them if nothing stops. -/
theorem runCalls_fields (list : List Call) (errors : ErrorMap) :
    ∃ made, made <+: list ∧
      (runCalls setting list errors).events.filter Event.isField = made.map (Call.event setting) ∧
      ((runCalls setting list errors).flow = .proceed → made = list) := by
  induction list generalizing errors with
  | nil => exact ⟨[], List.prefix_rfl, rfl, fun _ => rfl⟩
  | cons call rest ih =>
    have own : (call.run setting errors).events.filter Event.isField = [call.event setting] := by
      have quiet : (runRules call.key (call.input setting) call.rules errors).events.filter
          Event.isField = [] := by
        refine List.filter_eq_nil_iff.mpr fun event member => ?_
        have := runRules_events _ _ _ _ event member
        cases event <;> simp_all [Event.isCheck, Event.isField]
      rw [Call.run, Call.event, List.filter_cons_of_pos rfl, quiet]
    by_cases proceeds : (call.run setting errors).flow = .proceed
    · obtain ⟨made, first, events, all⟩ := ih (call.run setting errors).errors
      refine ⟨call :: made, List.cons_prefix_cons.mpr ⟨rfl, first⟩, ?_, ?_⟩
      · simp only [runCalls, Stretch.andThen_of_proceed _ proceeds, List.filter_append, own,
          events, List.map_cons, List.singleton_append]
      · intro goes
        rw [runCalls, Stretch.andThen_of_proceed _ proceeds] at goes
        rw [all goes]
    · refine ⟨[call], List.cons_prefix_cons.mpr ⟨rfl, List.nil_prefix⟩, ?_, ?_⟩
      · simp only [runCalls, Stretch.andThen_of_stops _ proceeds, own, List.map_cons, List.map_nil]
      · intro goes
        rw [runCalls, Stretch.andThen_of_stops _ proceeds] at goes
        exact absurd goes proceeds

/-- No test of a call ever fails to give an outcome. -/
def ErrorFree (list : List Call) : Prop :=
  ∀ call ∈ list, ∀ rule ∈ call.rules, ∀ input, ∃ outcome, rule.test input = .ok outcome

/-- Rules whose tests do not fail for what they look at do not make a walk fail. -/
theorem runRules_flow (key : String) (input : CheckInput) (rules : List Rule) (errors : ErrorMap)
    (answers : ∀ rule ∈ rules, ∃ outcome, rule.test input = .ok outcome)
    (failure : Failure) : (runRules key input rules errors).flow ≠ .fail failure := by
  fun_induction runRules key input rules errors with
  | case1 => exact Flow.noConfusion
  | case2 _ _ _ _ ih => exact ih fun rule member => answers rule (List.mem_cons_of_mem _ member)
  | case3 => exact Flow.noConfusion
  | case4 rule _ _ _ _ _ raised failed =>
    obtain ⟨outcome, passed⟩ := answers rule List.mem_cons_self
    exact absurd (failed.symm.trans passed) (by simp)
  | case5 => exact Flow.noConfusion
  | case6 => exact Flow.noConfusion
  | case7 _ _ _ _ _ _ _ _ _ _ _ _ _ _ ih =>
    exact ih fun rule member => answers rule (List.mem_cons_of_mem _ member)

/-- Calls whose tests all answer do not fail. -/
theorem runCalls_flow (list : List Call) (errors : ErrorMap)
    (answers : ∀ call ∈ list, ∀ rule ∈ call.rules,
      ∃ outcome, rule.test (call.input setting) = .ok outcome)
    (failure : Failure) : (runCalls setting list errors).flow ≠ .fail failure := by
  induction list generalizing errors with
  | nil => exact Flow.noConfusion
  | cons call rest ih =>
    have own := runRules_flow call.key (call.input setting) call.rules errors
      (answers call List.mem_cons_self)
    by_cases proceeds : (call.run setting errors).flow = .proceed
    · rw [runCalls, Stretch.andThen_of_proceed _ proceeds]
      exact ih _ fun other member => answers other (List.mem_cons_of_mem _ member)
    · rw [runCalls, Stretch.andThen_of_stops _ proceeds]
      exact own failure

end Flat

end Walk

/-- Whether a check has aborted a part of a walk. -/
def Stretch.aborted (part : Stretch Unit) : Bool :=
  match part.flow with
  | .abort => true
  | _ => false

/-- The fields that nested entities can look at are those that hold a value or have rules. -/
theorem Shape.mem_visibleFields {shape : Shape} {field : String} (known : shape.hasField field) :
    field ∈ shape.visibleFields := by
  by_cases declared : field ∈ shape.fields
  · exact List.mem_append_left _ declared
  · have ruled : shape.rules.has field := by simpa [Shape.hasField, declared] using known
    refine List.mem_append_right _ (List.mem_filter.mpr ⟨Entries.mem_keys_of_has ruled, ?_⟩)
    simpa using declared

/-- A snapshot gives every field that holds a value or has rules the value that the entity shows. -/
theorem Entity.snapshot_get (conduct : Conduct) (entity : Entity) {field : String}
    (known : entity.shape.hasField field) :
    (entity.snapshot conduct).get field = conduct.shows entity.values field := by
  have visible := Shape.mem_visibleFields known
  simp only [Snapshot.get, Entity.snapshot, Entries.get?_map _ visible, Option.getD_some]

/-- A walk over records is a fold over the list of its calls. The report is that of running the
calls in order up to the first that aborts; the same tests are called with the same input; the runs
of rules are those of the calls, each once and in order; and every call sees the values of the
entities around its own. -/
theorem validate_record_preOrder (messages : Messages) (scope : Scope) (seed : ErrorMap)
    (entity : Entity) (free : Walk.ErrorFree (Walk.calls ⟨.record, messages, scope⟩ entity)) :
    let setting : Walk.Setting := ⟨.record, messages, scope⟩
    let list := Walk.calls setting entity
    let flat := Walk.runCalls setting list seed
    let walk := validate .record messages scope seed entity
    walk.outcome = .ok ⟨flat.errors, flat.aborted⟩ ∧
      walk.events.filter Event.isWork = flat.events ∧
      (∃ made, made <+: list ∧
        walk.events.filter Event.isField = made.map (Walk.Call.event setting) ∧
        (flat.aborted = false → made = list)) ∧
      ∀ call ∈ list, ∀ ancestor ∈ call.node.around, ∀ field, ancestor.shape.hasField field →
        (ancestor.snapshot .record).get field = Conduct.stored ancestor.values field := by
  intro setting list flat walk
  have done : (Walk.visit setting entity "" [] seed).work = flat :=
    Walk.visit_work setting Conduct.record_quiet entity "" [] seed
  have flow : (Walk.visit setting entity "" [] seed).flow = flat.flow := congrArg Stretch.flow done
  have errors : (Walk.visit setting entity "" [] seed).errors = flat.errors :=
    congrArg Stretch.errors done
  have events : walk.events.filter Event.isWork = flat.events := congrArg Stretch.events done
  have never := Walk.runCalls_flow setting list seed
    fun call member rule listed => free call member rule listed _
  refine ⟨?_, events, ?_, fun _ _ ancestor _ _ known => ancestor.snapshot_get .record known⟩
  · simp only [walk, validate, Stretch.aborted, flow, errors, setting]
    cases ended : flat.flow with
    | proceed => rfl
    | abort => rfl
    | fail failure => exact absurd ended (never failure)
  · obtain ⟨made, first, fields, all⟩ := Walk.runCalls_fields setting list seed
    refine ⟨made, first, ?_, fun goes => all ?_⟩
    · rw [← fields, show (Walk.runCalls setting list seed).events = flat.events from rfl, ← events,
        List.filter_filter]
      refine List.filter_congr fun event _ => ?_
      cases event <;> rfl
    · cases ended : flat.flow with
      | proceed => rfl
      | abort => simp [Stretch.aborted, ended] at goes
      | fail failure => exact absurd ended (never failure)

namespace Walk

/-- A rule for every operation, whose test always has the same outcome. -/
def fixedRule (outcome : Outcome) : Rule :=
  ⟨{ check := "fixed", args := [], scope := .all, control := .none }, fun _ => .ok outcome⟩

/-- After a single entity a list of two, of which the first is wrong and the second aborts. -/
def twoLines : Entity :=
  let line (outcome : Outcome) : Shape := ⟨"line", ["qty"], [], [("qty", [fixedRule outcome])], []⟩
  let address : Shape := ⟨"address", ["city"], [], [("city", [fixedRule .pass])], []⟩
  ⟨⟨"order", ["id"], [], [("id", [fixedRule .pass])],
      [⟨"to", .one, address⟩, ⟨"lines", .many, line .pass⟩]⟩,
    [("id", .null)],
    [.one ⟨address, [], []⟩,
      .many [⟨line (.error "too few"), [], []⟩, ⟨line .abort, [], []⟩, ⟨line .pass, [], []⟩]]⟩

end Walk

/-- The walk over two lines ends at the second, with the error of the first. -/
theorem validate_record_preOrder_twoLines :
    Walk.ErrorFree (Walk.calls ⟨.record, ⟨[]⟩, .save⟩ Walk.twoLines) ∧
      (validate .record ⟨[]⟩ .save .empty Walk.twoLines).outcome =
        .ok ⟨⟨[("lines[0][qty]", ["too few"])]⟩, true⟩ := by
  have free : Walk.ErrorFree (Walk.calls ⟨.record, ⟨[]⟩, .save⟩ Walk.twoLines) := by
    intro call member rule listed input
    simp [Walk.calls, Walk.nodes, Walk.slotsNodes, Walk.slotNodes, Walk.elementNodes,
      Walk.Node.calls, Walk.twoLines, Walk.prepared] at member
    rcases member with rfl | rfl | rfl | rfl | rfl <;>
      · obtain rfl := List.mem_singleton.mp listed
        exact ⟨_, rfl⟩
  exact ⟨free, (validate_record_preOrder ⟨[]⟩ .save .empty Walk.twoLines free).1.trans
    (congrArg Except.ok (by decide +kernel))⟩

end Scrutiny
