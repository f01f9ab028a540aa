import Scrutiny.Proofs.Walk.PreOrder

/-! # A walk deed by deed

Laid out with its hooks, a walk is a list of acts: it enters an entity, inspects the fields of its
shape, goes on to the entities nested in it, and leaves it. Acts come with the place of their entity
in the tree, its address, which tells entities apart whatever their path keys are. Doing the acts in
order, up to the first that does not let the walk go on, gives an account: the hooks called, the
runs of rules begun and the tests called, each with the rule it belongs to. The account says all of
a walk: its events, its errors and how it goes on (`Walk.visit_perform`).
-/

namespace Scrutiny

/-- What follows matters only for the errors that are there. -/
theorem Stretch.andThen_congr {first : Stretch Unit} {next other : ErrorMap → Stretch Unit}
    (same : next first.errors = other first.errors) : first.andThen next = first.andThen other := by
  by_cases proceeds : first.flow = .proceed
  · rw [andThen_of_proceed _ proceeds, andThen_of_proceed _ proceeds, same]
  · rw [andThen_of_stops _ proceeds, andThen_of_stops _ proceeds]

/-- A part of a walk, its result left aside. -/
def Stretch.course {α : Type} (part : Stretch α) : Stretch Unit :=
  ⟨(), part.errors, part.events, part.flow⟩

/-- Parts of walks have the same course if they leave the same errors and events and end alike. -/
theorem Stretch.course_inj {α β : Type} {first : Stretch α} {second : Stretch β} :
    first.course = second.course ↔
      first.errors = second.errors ∧ first.events = second.events ∧ first.flow = second.flow := by
  simp only [course, mk.injEq, true_and]

/-- The report of a walk, or why there is none. -/
def Stretch.outcome {α : Type} (part : Stretch α) : Except Failure Report :=
  match part.flow with
  | .proceed => .ok ⟨part.errors, false⟩
  | .abort => .ok ⟨part.errors, true⟩
  | .fail failure => .error failure

/-- A part of a walk is aborted if this is how it ends. -/
theorem Stretch.aborted_iff {part : Stretch Unit} : part.aborted ↔ part.flow = .abort := by
  unfold aborted
  split <;> simp_all

/-- A part of a walk that does not fail has a report. -/
theorem Stretch.outcome_eq {part : Stretch Unit} (never : ∀ failure, part.flow ≠ .fail failure) :
    part.outcome = .ok ⟨part.errors, part.aborted⟩ := by
  unfold outcome aborted
  cases flow : part.flow with
  | proceed => rfl
  | abort => rfl
  | fail failure => exact absurd flow (never failure)

/-- The errors of a report are those that the walk leaves. -/
theorem Stretch.errors_of_outcome {α : Type} {part : Stretch α} {report : Report}
    (done : part.outcome = .ok report) : report.errors = part.errors := by
  unfold outcome at done
  split at done
  · rw [← Except.ok.inj done]
  · rw [← Except.ok.inj done]
  · exact absurd done (by simp)

/-- A walk that is reported as not aborted has gone on to its end. -/
theorem Stretch.flow_of_outcome {α : Type} {part : Stretch α} {report : Report}
    (done : part.outcome = .ok report) (through : report.aborted = false) :
    part.flow = .proceed := by
  cases flow : part.flow with
  | proceed => rfl
  | abort =>
    simp only [outcome, flow, Except.ok.injEq] at done
    simp [← done] at through
  | fail failure => simp [outcome, flow] at done

namespace Walk

/-- A step from an entity to one nested in it: the position and the name of the field that holds it,
and its position there if the field holds a list. -/
structure Turn where
  slot : Nat
  field : String
  index : Option Nat
  deriving DecidableEq

def Turn.key (path : String) (turn : Turn) : String :=
  match turn.index with
  | none => Path.fieldKey path turn.field
  | some index => Path.elementKey (Path.fieldKey path turn.field) index

/-- The steps from the root of a tree to an entity. -/
abbrev Address := List Turn

/-- Where a walk is: the entity by its address, its path key and its name, and what the entities
around it show. -/
structure Site where
  address : Address
  path : String
  name : String
  lineage : List Snapshot

/-- The rules of a field of an entity, by their position in its shape, and what their tests look
at. -/
structure Inspection where
  site : Site
  position : Nat
  field : String
  rules : List Rule
  input : CheckInput

def Inspection.key (inspection : Inspection) : String :=
  Path.fieldKey inspection.site.path inspection.field

/-- What a walk does at an entity. -/
inductive Act where
  /-- Call `before`, which may fail. -/
  | enter (site : Site) (failure : Option Failure)
  | inspect (inspection : Inspection)
  /-- Call `failed` or `complete`, whichever it is. -/
  | leave (site : Site) (shape : Shape) (values : Entries Value)

def Act.site : Act → Site
  | enter site _ => site
  | inspect inspection => inspection.site
  | leave site _ _ => site

/-- The inspections of fields of an entity, the first of which has a given position. -/
def Site.inspections (setting : Setting) (site : Site) (shape : Shape) (values : Entries Value) :
    Nat → Entries (List Rule) → List Inspection
  | _, [] => []
  | position, (field, rules) :: rest =>
    ⟨site, position, field, rules, inputOf setting shape values site.lineage field⟩ ::
      site.inspections setting shape values (position + 1) rest

mutual

/-- The acts at an entity and at everything nested in it. -/
def acts (setting : Setting) : Entity → Address → String → List Snapshot → List Act
  | ⟨shape, values, slots⟩, address, path, lineage =>
    let reaction := setting.conduct.before shape setting.scope values
    let site : Site := ⟨address, path, shape.name, lineage⟩
    let around := lineage ++ [Entity.snapshot setting.conduct ⟨shape, reaction.values, slots⟩]
    .enter site reaction.failure ::
      ((site.inspections setting shape reaction.values 0 shape.rules).map .inspect ++
        (slotsActs setting shape.nested slots 0 address path around ++
          [.leave site shape reaction.values]))

/-- The acts at what several fields hold, from a position on. -/
def slotsActs (setting : Setting) : List (Nested Shape) → List (Slot Entity) → Nat → Address →
    String → List Snapshot → List Act
  | nested :: others, slot :: slots, position, address, path, lineage =>
    slotActs setting slot ⟨position, nested.field, none⟩ address path lineage ++
      slotsActs setting others slots (position + 1) address path lineage
  | _, _, _, _, _, _ => []

def slotActs (setting : Setting) : Slot Entity → Turn → Address → String → List Snapshot → List Act
  | .vacant, _, _, _, _ => []
  | .one child, turn, address, path, lineage =>
    let turn := { turn with index := none }
    acts setting child (address ++ [turn]) (turn.key path) lineage
  | .many children, turn, address, path, lineage =>
    elementActs setting children turn 0 address path lineage

def elementActs (setting : Setting) : List Entity → Turn → Nat → Address → String →
    List Snapshot → List Act
  | [], _, _, _, _, _ => []
  | child :: children, turn, index, address, path, lineage =>
    let turn := { turn with index := some index }
    acts setting child (address ++ [turn]) (turn.key path) lineage ++
      elementActs setting children turn (index + 1) address path lineage

end

/-- A call of a test: the rule and its position in its list. -/
structure Trial where
  inspection : Inspection
  number : Nat
  rule : Rule

namespace Trial

def answer (trial : Trial) : Except Failure Outcome :=
  trial.rule.test trial.inspection.input

/-- What the answer records. -/
def messages (trial : Trial) : List String :=
  match trial.answer with
  | .ok (.errors messages) => messages
  | _ => []

/-- How a walk goes on after the answer. -/
def flow (trial : Trial) : Flow :=
  match trial.answer with
  | .error failure => .fail failure
  | .ok .abort => .abort
  | .ok _ => .proceed

/-- Whether the rules after this one are not looked at. -/
def ends (trial : Trial) : Bool :=
  match trial.flow with
  | .proceed =>
    if trial.messages.isEmpty then trial.rule.decl.control.exitOnSuccess
    else trial.rule.decl.control.exitOnFailure
  | _ => true

def record (errors : ErrorMap) (trial : Trial) : ErrorMap :=
  errors.extendAt trial.inspection.key trial.messages

end Trial

/-- A trial that does not end its list lets the walk go on. -/
theorem Trial.flow_of_not_ends {trial : Trial} (goes : ¬ trial.ends) : trial.flow = .proceed := by
  unfold Trial.ends at goes
  split at goes
  · assumption
  · exact absurd rfl goes

/-- The tests that are called when rules are run, the first of which has a given number. -/
def trials (inspection : Inspection) : Nat → List Rule → ErrorMap → List Trial
  | _, [], _ => []
  | number, rule :: rest, errors =>
    let trial : Trial := ⟨inspection, number, rule⟩
    if !rule.decl.scope.intersects inspection.input.scope then
      trials inspection (number + 1) rest errors
    else if rule.decl.control.exitIfAlreadyErrored && errors.has inspection.key then []
    else if trial.ends then [trial]
    else trial :: trials inspection (number + 1) rest (trial.record errors)

/-- What is done in the course of a walk. -/
inductive Deed where
  | enter (site : Site) (failure : Option Failure)
  | inspect (inspection : Inspection)
  | trial (trial : Trial)
  | leave (site : Site) (hook : Hook) (failure : Option Failure)

namespace Deed

def site : Deed → Site
  | enter site _ => site
  | inspect inspection => inspection.site
  | trial called => called.inspection.site
  | leave site _ _ => site

def event (setting : Setting) : Deed → Event
  | enter site _ => .hook site.path site.name setting.scope .before
  | inspect inspection =>
    .field inspection.site.path inspection.key inspection.field inspection.site.lineage
  | trial called => .check called.inspection.key called.rule.decl called.inspection.input
  | leave site hook _ => .hook site.path site.name setting.scope hook

def flow : Deed → Flow
  | enter _ failure => afterHook failure
  | inspect _ => .proceed
  | trial called => called.flow
  | leave _ _ failure => afterHook failure

def record (errors : ErrorMap) : Deed → ErrorMap
  | trial called => called.record errors
  | _ => errors

def trial? : Deed → Option Trial
  | trial called => some called
  | _ => none

end Deed

/-- How a walk goes on after several deeds. -/
def flowOf : List Deed → Flow
  | [] => .proceed
  | deed :: rest =>
    match deed.flow with
    | .proceed => flowOf rest
    | flow => flow

/-- The deeds of an act. -/
def Act.deeds (setting : Setting) (errors : ErrorMap) : Act → List Deed
  | enter site failure => [.enter site failure]
  | inspect inspection =>
    .inspect inspection :: (trials inspection 0 inspection.rules errors).map .trial
  | leave site shape values =>
    let own := errors.subtree site.path
    if own.isEmpty then
      [.leave site .complete (setting.conduct.complete shape setting.scope values).failure]
    else [.leave site (.failed own) (setting.conduct.failed shape own setting.scope values).failure]

/-- The deeds of acts in order, up to the first deed that does not let the walk go on. -/
def deeds (setting : Setting) : List Act → ErrorMap → List Deed
  | [], _ => []
  | act :: rest, errors =>
    let own := act.deeds setting errors
    match flowOf own with
    | .proceed => own ++ deeds setting rest (own.foldl Deed.record errors)
    | _ => own

/-- All that a walk does. -/
def account (setting : Setting) (entity : Entity) (seed : ErrorMap) : List Deed :=
  deeds setting (acts setting entity [] "" []) seed

/-- What deeds leave. -/
def told (setting : Setting) (deeds : List Deed) (errors : ErrorMap) : Stretch Unit :=
  ⟨(), deeds.foldl Deed.record errors, deeds.map (Deed.event setting), flowOf deeds⟩

def perform (setting : Setting) (acts : List Act) (errors : ErrorMap) : Stretch Unit :=
  told setting (deeds setting acts errors) errors

/-- A list of deeds ends as its last part does, if the first part lets the walk go on. -/
theorem flowOf_append_of_proceed {first : List Deed} (second : List Deed)
    (proceeds : flowOf first = .proceed) : flowOf (first ++ second) = flowOf second := by
  induction first with
  | nil => rfl
  | cons deed rest ih =>
    cases flow : deed.flow with
    | proceed =>
      simp only [flowOf, flow, List.cons_append] at proceeds ⊢
      exact ih proceeds
    | abort => simp [flowOf, flow] at proceeds
    | fail failure => simp [flowOf, flow] at proceeds

section Perform

variable (setting : Setting)

/-- A single deed has its own record, event and flow. -/
theorem told_singleton (deed : Deed) (errors : ErrorMap) :
    told setting [deed] errors =
      ⟨(), deed.record errors, [deed.event setting], deed.flow⟩ := by
  cases flow : deed.flow <;> simp [told, flowOf, flow]

/-- Deeds after others are told after them, if those let the walk go on. -/
theorem told_append {first : List Deed} (second : List Deed) (errors : ErrorMap)
    (proceeds : flowOf first = .proceed) :
    told setting (first ++ second) errors =
      (told setting first errors).andThen (told setting second) := by
  have goes : (told setting first errors).flow = .proceed := proceeds
  rw [Stretch.andThen_of_proceed _ goes]
  simp only [told, List.foldl_append, List.map_append, flowOf_append_of_proceed second proceeds]

/-- Acts after others are done after them, with the errors that those leave. -/
theorem deeds_append_of_proceed {first : List Act} (second : List Act) {errors : ErrorMap}
    (proceeds : flowOf (deeds setting first errors) = .proceed) :
    deeds setting (first ++ second) errors = deeds setting first errors ++
      deeds setting second ((deeds setting first errors).foldl Deed.record errors) := by
  induction first generalizing errors with
  | nil => rfl
  | cons act rest ih =>
    simp only [deeds, List.cons_append] at proceeds ⊢
    cases flow : flowOf (act.deeds setting errors) with
    | proceed =>
      simp only [flow, flowOf_append_of_proceed _ flow] at proceeds ⊢
      rw [ih proceeds, List.foldl_append, List.append_assoc]
    | abort => simp [flow] at proceeds
    | fail failure => simp [flow] at proceeds

/-- Acts after others that end the walk are not done. -/
theorem deeds_append_of_stops {first : List Act} (second : List Act) {errors : ErrorMap}
    (stops : flowOf (deeds setting first errors) ≠ .proceed) :
    deeds setting (first ++ second) errors = deeds setting first errors := by
  induction first generalizing errors with
  | nil => exact absurd rfl stops
  | cons act rest ih =>
    simp only [deeds, List.cons_append] at stops ⊢
    cases flow : flowOf (act.deeds setting errors) with
    | proceed =>
      simp only [flow, flowOf_append_of_proceed _ flow] at stops ⊢
      rw [ih stops]
    | abort => rfl
    | fail failure => rfl

/-- A single act is done with what it finds. -/
theorem deeds_singleton (act : Act) (errors : ErrorMap) :
    deeds setting [act] errors = act.deeds setting errors := by
  simp only [deeds, List.append_nil]
  split <;> rfl

/-- A walk does all of several acts, and goes on with the errors that they leave. -/
structure Does (list : List Act) (errors : ErrorMap) (done : List Deed) (left : ErrorMap) :
    Prop where
  deeds : deeds setting list errors = done
  flow : flowOf done = .proceed
  errors : done.foldl Deed.record errors = left

variable {setting} in
/-- What is done of two lists in turn is done of the first and then of the second. -/
theorem Does.append {first second : List Act} {errors left : ErrorMap} {done : List Deed}
    (does : Does setting (first ++ second) errors done left) :
    ∃ one between other, done = one ++ other ∧ Does setting first errors one between ∧
      Does setting second between other left := by
  obtain ⟨whole, flow, recorded⟩ := does
  by_cases proceeds : flowOf (Walk.deeds setting first errors) = .proceed
  · rw [deeds_append_of_proceed setting second proceeds] at whole
    rw [← whole, flowOf_append_of_proceed _ proceeds] at flow
    rw [← whole, List.foldl_append] at recorded
    exact ⟨_, _, _, whole.symm, ⟨rfl, proceeds, rfl⟩, ⟨rfl, flow, recorded⟩⟩
  · rw [deeds_append_of_stops setting second proceeds] at whole
    exact absurd (whole ▸ flow) proceeds

/-- Two lists of acts are performed one after the other, as far as the walk goes on. -/
theorem perform_append (first second : List Act) (errors : ErrorMap) :
    perform setting (first ++ second) errors =
      (perform setting first errors).andThen (perform setting second) := by
  by_cases proceeds : flowOf (deeds setting first errors) = .proceed
  · have goes : (perform setting first errors).flow = .proceed := proceeds
    rw [perform, deeds_append_of_proceed setting second proceeds, told_append setting _ _ proceeds]
    exact (Stretch.andThen_of_proceed _ goes).trans (Stretch.andThen_of_proceed _ goes).symm
  · have stops : (perform setting first errors).flow ≠ .proceed := proceeds
    rw [Stretch.andThen_of_stops _ stops]
    simp only [perform, deeds_append_of_stops setting second proceeds]

theorem perform_singleton (act : Act) (errors : ErrorMap) :
    perform setting [act] errors = told setting (act.deeds setting errors) errors := by
  rw [perform, deeds_singleton]

/-- A first act is performed and, if the walk goes on, the rest. -/
theorem perform_cons (act : Act) (rest : List Act) (errors : ErrorMap) :
    perform setting (act :: rest) errors =
      (told setting (act.deeds setting errors) errors).andThen (perform setting rest) := by
  rw [← perform_singleton, ← perform_append, List.singleton_append]

/-- A rule that is in scope and not kept back is tried, and may end its list. -/
theorem runRules_cons (inspection : Inspection) (number : Nat) (rule : Rule) (rest : List Rule)
    (errors : ErrorMap) (inside : rule.decl.scope.intersects inspection.input.scope = true)
    (free : (rule.decl.control.exitIfAlreadyErrored && errors.has inspection.key) = false) :
    let trial : Trial := ⟨inspection, number, rule⟩
    runRules inspection.key inspection.input (rule :: rest) errors =
      if trial.ends then told setting [.trial trial] errors
      else (told setting [.trial trial] errors).andThen
        (runRules inspection.key inspection.input rest) := by
  intro trial
  have answered : trial.answer = rule.test inspection.input := rfl
  simp only [runRules, inside, free, Bool.not_true, Bool.false_eq_true, ↓reduceIte, Trial.ends,
    told, flowOf, Deed.flow, Deed.event, Deed.record, Trial.record, Trial.flow, Trial.messages,
    answered, List.foldl_cons, List.foldl_nil, List.map_cons, List.map_nil]
  cases rule.test inspection.input with
  | error failure => rfl
  | ok outcome =>
    cases outcome with
    | abort => rfl
    | pass =>
      cases rule.decl.control.exitOnSuccess <;> rfl
    | errors messages =>
      cases messages with
      | nil => cases rule.decl.control.exitOnSuccess <;> rfl
      | cons => cases rule.decl.control.exitOnFailure <;> rfl

/-- Running rules is calling the tests of the trials in order. -/
theorem runRules_eq_told (inspection : Inspection) (number : Nat) (rules : List Rule)
    (errors : ErrorMap) :
    runRules inspection.key inspection.input rules errors =
      told setting ((trials inspection number rules errors).map .trial) errors := by
  induction rules generalizing number errors with
  | nil => rfl
  | cons rule rest ih =>
    by_cases inside : rule.decl.scope.intersects inspection.input.scope
    · cases guarded : rule.decl.control.exitIfAlreadyErrored && errors.has inspection.key with
      | true => simp [runRules, trials, inside, guarded, told, flowOf]
      | false =>
        rw [runRules_cons setting inspection number rule rest errors inside guarded]
        simp only [trials, inside, guarded, Bool.not_true, Bool.false_eq_true, ↓reduceIte]
        split
        · rfl
        · next goes =>
          have onward : flowOf [.trial ⟨inspection, number, rule⟩] = .proceed := by
            simp only [flowOf, Deed.flow, Trial.flow_of_not_ends goes]
          have later := ih (number + 1) (Trial.record errors ⟨inspection, number, rule⟩)
          exact (Stretch.andThen_congr later).trans (told_append setting _ errors onward).symm
    · simp only [runRules, trials, inside, Bool.not_false, ↓reduceIte]
      exact ih (number + 1) errors

/-- Inspecting a field is beginning the run of its rules, and running them. -/
theorem told_inspect (inspection : Inspection) (errors : ErrorMap) :
    let rules := runRules inspection.key inspection.input inspection.rules errors
    told setting ((Act.inspect inspection).deeds setting errors) errors =
      { rules with events := (Deed.inspect inspection).event setting :: rules.events } := by
  intro rules
  simp only [rules, runRules_eq_told setting inspection 0]
  rfl

/-- The rules of several fields are run field by field. -/
theorem runFields_cons (shape : Shape) (values : Entries Value) (lineage : List Snapshot)
    (path field : String) (rules : List Rule) (rest : Entries (List Rule)) (errors : ErrorMap) :
    let key := Path.fieldKey path field
    let first := runRules key (inputOf setting shape values lineage field) rules errors
    runFields setting shape values lineage path ((field, rules) :: rest) errors =
      Stretch.andThen { first with events := .field path key field lineage :: first.events }
        (runFields setting shape values lineage path rest) := by
  intro key first
  simp only [runFields, Stretch.andThen]
  rfl

/-- Running the rules of an entity is inspecting its fields in order. -/
theorem runFields_eq_perform (site : Site) (shape : Shape) (values : Entries Value)
    (position : Nat) (fields : Entries (List Rule)) (errors : ErrorMap) :
    runFields setting shape values site.lineage site.path fields errors =
      perform setting ((site.inspections setting shape values position fields).map .inspect)
        errors := by
  induction fields generalizing position errors with
  | nil => rfl
  | cons entry rest ih =>
    rw [runFields_cons, Site.inspections, List.map_cons, perform_cons, funext (ih (position + 1)),
      told_inspect]
    rfl

/-- Entering an entity calls its hook `before`, and ends the walk if this fails. -/
theorem perform_enter (site : Site) (failure : Option Failure) (rest : List Act)
    (errors : ErrorMap) :
    perform setting (.enter site failure :: rest) errors =
      Stretch.andThen ⟨(), errors, [.hook site.path site.name setting.scope .before],
        afterHook failure⟩ (perform setting rest) := by
  rw [perform_cons]
  cases failure <;> rfl

/-- Leaving an entity calls the hook that is due. -/
theorem perform_leave (site : Site) (entity : Entity) (named : site.name = entity.shape.name)
    (errors : ErrorMap) :
    perform setting [.leave site entity.shape entity.values] errors =
      (conclude setting entity site.path errors).course := by
  rw [perform_singleton]
  by_cases clean : (errors.subtree site.path).isEmpty
  · simp only [Act.deeds, clean, ↓reduceIte, told_singleton, Deed.event, Deed.record, Deed.flow,
      named, conclude, Stretch.course]
  · simp only [Act.deeds, clean, Bool.false_eq_true, ↓reduceIte, told_singleton, Deed.event,
      Deed.record, Deed.flow, named, conclude, Stretch.course]

/-- A visit is its first hook, the rules of the fields, the nested entities and the last hook. -/
theorem visit_course (shape : Shape) (values : Entries Value) (slots : List (Slot Entity))
    (path : String) (lineage : List Snapshot) (errors : ErrorMap) :
    let reaction := setting.conduct.before shape setting.scope values
    let entity : Entity := ⟨shape, reaction.values, slots⟩
    let around := lineage ++ [entity.snapshot setting.conduct]
    (visit setting ⟨shape, values, slots⟩ path lineage errors).course =
      Stretch.andThen ⟨(), errors, [.hook path shape.name setting.scope .before],
          afterHook reaction.failure⟩ fun errors =>
        (runFields setting shape reaction.values lineage path shape.rules errors).andThen
          fun errors =>
            (visitSlots setting shape.nested slots path around errors).course.andThen fun errors =>
              (conclude setting entity path errors).course := by
  intro reaction entity around
  simp only [visit, entity, around, reaction]
  generalize setting.conduct.before shape setting.scope values = reaction
  obtain ⟨values, failure⟩ := reaction
  cases failure with
  | some failure => rfl
  | none =>
    simp only [afterHook, Stretch.andThen]
    generalize runFields setting shape values lineage path shape.rules errors = own
    obtain ⟨_, _, _, flow⟩ := own
    cases flow with
    | abort => rfl
    | fail failure => rfl
    | proceed =>
      simp only [Stretch.course]
      generalize visitSlots setting shape.nested slots path _ _ = inner
      obtain ⟨_, _, _, flow⟩ := inner
      cases flow with
      | abort => rfl
      | fail failure => rfl
      | proceed =>
        simp only [List.cons_append, List.append_assoc]
        rfl

mutual

/-- A visit does the acts of its entities in order. -/
theorem visit_perform : ∀ (entity : Entity) (address : Address) (path : String)
    (lineage : List Snapshot) (errors : ErrorMap),
    (visit setting entity path lineage errors).course =
      perform setting (acts setting entity address path lineage) errors
  | ⟨shape, values, slots⟩, address, path, lineage, errors => by
    let site : Site := ⟨address, path, shape.name, lineage⟩
    rw [visit_course, acts, perform_enter]
    refine Stretch.andThen_congr ?_
    rw [perform_append, ← runFields_eq_perform setting site]
    refine Stretch.andThen_congr ?_
    rw [perform_append, ← slots_perform]
    exact Stretch.andThen_congr (perform_leave setting site ⟨shape, _, slots⟩ rfl _).symm

/-- Visiting what the fields of an entity hold is performing the acts there. -/
theorem slots_perform : ∀ (nested : List (Nested Shape)) (slots : List (Slot Entity))
    (position : Nat) (address : Address) (path : String) (lineage : List Snapshot)
    (errors : ErrorMap),
    (visitSlots setting nested slots path lineage errors).course =
      perform setting (slotsActs setting nested slots position address path lineage) errors
  | nested :: others, slot :: slots, position, address, path, lineage, errors => by
    have first := slot_perform slot ⟨position, nested.field, none⟩ address path lineage errors
    have rest := slots_perform others slots (position + 1) address path lineage
    simp only [slotsActs, perform_append, ← first, ← funext rest, visitSlots]
    generalize visitSlot setting slot _ _ errors = part
    obtain ⟨_, _, _, flow⟩ := part
    cases flow <;> rfl
  | [], _, _, _, _, _, _ => by simp only [visitSlots, slotsActs]; rfl
  | _ :: _, [], _, _, _, _, _ => by simp only [visitSlots, slotsActs]; rfl

/-- Visiting what a field holds is performing the acts there. -/
theorem slot_perform : ∀ (slot : Slot Entity) (turn : Turn) (address : Address) (path : String)
    (lineage : List Snapshot) (errors : ErrorMap),
    (visitSlot setting slot (Path.fieldKey path turn.field) lineage errors).course =
      perform setting (slotActs setting slot turn address path lineage) errors
  | .vacant, _, _, _, _, _ => by simp only [visitSlot, slotActs]; rfl
  | .one child, turn, address, path, lineage, errors => by
    rw [slotActs, ← visit_perform child, visitSlot]
    rfl
  | .many children, turn, address, path, lineage, errors => by
    rw [slotActs, ← elements_perform children turn 0, visitSlot]
    rfl

/-- Visiting the elements of a list is performing the acts there. -/
theorem elements_perform : ∀ (children : List Entity) (turn : Turn) (index : Nat)
    (address : Address) (path : String) (lineage : List Snapshot) (errors : ErrorMap),
    (visitElements setting children (Path.fieldKey path turn.field) index lineage errors).course =
      perform setting (elementActs setting children turn index address path lineage) errors
  | [], _, _, _, _, _, _ => by simp only [visitElements, elementActs]; rfl
  | child :: children, turn, index, address, path, lineage, errors => by
    have first := visit_perform child (address ++ [{ turn with index := some index }])
      (Path.elementKey (Path.fieldKey path turn.field) index) lineage errors
    have rest := elements_perform children { turn with index := some index } (index + 1) address
      path lineage
    rw [elementActs, perform_append, ← funext rest]
    refine Eq.trans ?_ (congrArg (Stretch.andThen · _) first)
    rw [visitElements]
    generalize visit setting child _ _ errors = part
    obtain ⟨_, _, _, flow⟩ := part
    cases flow <;> rfl

end

end Perform

end Walk

/-- The account of a walk gives the events and the outcome of a validation. -/
theorem validate_eq_told (conduct : Conduct) (messages : Messages) (scope : Scope)
    (seed : ErrorMap) (entity : Entity) :
    let setting : Walk.Setting := ⟨conduct, messages, scope⟩
    let account := Walk.account setting entity seed
    let walk := validate conduct messages scope seed entity
    walk.events = account.map (Walk.Deed.event setting) ∧
      walk.outcome = (Walk.told setting account seed).outcome := by
  intro setting account walk
  have course : (Walk.visit setting entity "" [] seed).course = Walk.told setting account seed :=
    Walk.visit_perform setting entity [] "" [] seed
  exact ⟨congrArg Stretch.events course, congrArg Stretch.outcome course⟩

end Scrutiny
