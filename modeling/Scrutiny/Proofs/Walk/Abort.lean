import Scrutiny.Proofs.ErrorMap.Recording
import Scrutiny.Proofs.Walk.Ancestry

/-! # Walks that are aborted

A check that aborts ends the walk there and then: what has happened is what happens, up to the call
of this check, in a walk over the same tree in which this one rule passes instead
(`validate_abort`). The rule is found again by the address of its entity, the position of its field
and its number in the list of the field; passing there changes nothing that comes before.
-/

namespace Scrutiny

/-- Hooks that may note that they are called, and do nothing else. -/
structure Conduct.OnlyLogs (conduct : Conduct) : Prop where
  before : ∀ shape scope values, conduct.before shape scope values = ⟨values, none⟩
  complete : ∀ shape scope values, conduct.complete shape scope values = ⟨values, none⟩
  failed : ∀ shape errors scope values, conduct.failed shape errors scope values = ⟨values, none⟩

theorem Conduct.record_onlyLogs : Conduct.record.OnlyLogs where
  before _ _ _ := rfl
  complete _ _ _ := rfl
  failed _ _ _ _ := rfl

/-- Hooks that only log let a walk go on. -/
theorem Conduct.OnlyLogs.quiet {conduct : Conduct} (logs : conduct.OnlyLogs) : conduct.Quiet where
  before shape scope values := by rw [logs.before]
  complete shape scope values := by rw [logs.complete]
  failed shape errors scope values := by rw [logs.failed]

/-- The rule with a test that always passes. -/
def Rule.passing (rule : Rule) : Rule :=
  { rule with test := fun _ => .ok .pass }

/-- The shape with one rule passing: that of a number in the list of the field of a position. -/
def Shape.passing (shape : Shape) (position number : Nat) : Shape :=
  { shape with
    rules := shape.rules.modify position fun entry =>
      (entry.1, entry.2.modify number Rule.passing) }

/-- Change the single entity of a field, or an element of its list. -/
def Slot.modify {ε : Type} (change : ε → ε) : Option Nat → Slot ε → Slot ε
  | none, .one child => .one (change child)
  | some index, .many children => .many (children.modify index change)
  | _, slot => slot

/-- The entity with one rule passing, of the entity at an address in it. -/
def Entity.passing (position number : Nat) : Walk.Address → Entity → Entity
  | [], entity => { entity with shape := entity.shape.passing position number }
  | turn :: rest, entity =>
    { entity with
      slots := entity.slots.modify turn.slot
        (Slot.modify (Entity.passing position number rest) turn.index) }

namespace Walk

section Lists

variable {α : Type}

/-- An element of two lists in a row stands in the first or in the second. -/
theorem append_eq_append_cons {first second pre post : List α} {a : α}
    (whole : first ++ second = pre ++ a :: post) :
    (∃ rest, first = pre ++ a :: rest) ∨ ∃ before, pre = first ++ before ∧
      second = before ++ a :: post := by
  rcases List.append_eq_append_iff.mp whole with ⟨before, start, rest⟩ | ⟨rest, start, finish⟩
  · exact .inr ⟨before, start, rest⟩
  · cases rest with
    | nil => exact .inr ⟨[], by simpa using start.symm, finish.symm⟩
    | cons other rest =>
      obtain ⟨rfl, _⟩ := List.cons.inj finish
      exact .inl ⟨rest, start⟩

end Lists

section Passing

variable (setting : Setting)

/-- The inspection with one rule passing. -/
def Inspection.passing (inspection : Inspection) (number : Nat) : Inspection :=
  { inspection with rules := inspection.rules.modify number Rule.passing }

/-- An inspection is of the rules of the field of its position; with one of the rules passing it is
the inspection in the same place. -/
theorem inspections_passing {site : Site} {shape : Shape} (changed : Shape) {values : Entries Value}
    (label : changed.label = shape.label) {rules : Entries (List Rule)} {position : Nat}
    {pre post : List Inspection} {inspection : Inspection}
    (split : site.inspections setting shape values position rules = pre ++ inspection :: post) :
    ∃ place, inspection.position = position + place ∧
      rules[place]? = some (inspection.field, inspection.rules) ∧
      ∀ number, site.inspections setting changed values position
          (rules.modify place fun entry => (entry.1, entry.2.modify number Rule.passing)) =
        pre ++ inspection.passing number :: post := by
  have input (field : String) : inputOf setting changed values site.lineage field =
      inputOf setting shape values site.lineage field := by
    simp only [inputOf, label]
  induction rules generalizing position pre with
  | nil => exact absurd split (by simp [Site.inspections])
  | cons entry rest ih =>
    obtain ⟨field, own⟩ := entry
    have later (list : Entries (List Rule)) (position : Nat) :
        site.inspections setting changed values position list =
          site.inspections setting shape values position list := by
      induction list generalizing position with
      | nil => rfl
      | cons entry list ih => simp only [Site.inspections, input, ih]
    cases pre with
    | nil =>
      obtain ⟨rfl, rfl⟩ := List.cons.inj split
      refine ⟨0, rfl, rfl, fun number => ?_⟩
      simp only [List.modify_zero_cons, Site.inspections, later, Inspection.passing,
        List.nil_append]
    | cons first pre =>
      obtain ⟨rfl, others⟩ := List.cons.inj split
      obtain ⟨place, position, listed, passing⟩ := ih others
      refine ⟨place + 1, by omega, listed, fun number => ?_⟩
      simp only [List.modify_succ_cons, Site.inspections, input, passing, List.cons_append]

/-- Before an inspection of an entity, its other inspections are the same with a rule passing in
this one. -/
theorem ownInspections_passing {site : Site} {shape : Shape} {values : Entries Value}
    {pre post : List Act} {inspection : Inspection}
    (split : (site.inspections setting shape values 0 shape.rules).map .inspect =
      pre ++ .inspect inspection :: post) :
    inspection.site = site ∧ ∀ number,
      let changed := shape.passing inspection.position number
      pre ++ [.inspect (inspection.passing number)] <+:
        (site.inspections setting changed values 0 changed.rules).map .inspect := by
  obtain ⟨one, other, parts, rfl, others⟩ := List.map_eq_append_iff.mp split
  obtain ⟨same, after, rfl, also, -⟩ := List.map_eq_cons_iff.mp others
  obtain rfl := Act.inspect.inj also
  have member : same ∈ site.inspections setting shape values 0 shape.rules := by
    rw [parts]
    exact List.mem_append_right one List.mem_cons_self
  refine ⟨(site_of_mem_inspections member).1, fun number => ?_⟩
  have label : (shape.passing same.position number).label = shape.label := rfl
  obtain ⟨place, position, -, passing⟩ := inspections_passing setting _ label parts
  rw [Nat.zero_add] at position
  subst position
  have changed : (shape.passing same.position number).rules = shape.rules.modify same.position
      fun entry => (entry.1, entry.2.modify number Rule.passing) := rfl
  simp only [changed, passing number, List.map_append, List.map_cons]
  exact (List.prefix_append_right_inj _).mpr ⟨_, rfl⟩

mutual

/-- The acts before an inspection are the same with a rule passing in it. -/
theorem acts_passing (logs : setting.conduct.OnlyLogs) : ∀ (entity : Entity)
    (address : Address) (path : String) (lineage : List Snapshot) (pre post : List Act)
    (inspection : Inspection),
    acts setting entity address path lineage = pre ++ .inspect inspection :: post →
    ∃ rest, inspection.site.address = address ++ rest ∧ ∀ number,
      pre ++ [.inspect (inspection.passing number)] <+:
        acts setting (entity.passing inspection.position number rest) address path lineage
  | ⟨shape, values, slots⟩, address, path, lineage, pre, post, inspection, split => by
    -- What comes before the inspection shows no rules but those of inspections that are complete,
    -- so it is the same list for the changed entity.
    have calm := logs.before
    rw [acts] at split
    simp only [calm] at split
    cases pre with
    | nil => exact absurd (List.cons.inj split).1 (by simp)
    | cons first pre =>
    rw [List.cons_append] at split
    obtain ⟨rfl, inside⟩ := List.cons.inj split
    rcases append_eq_append_cons inside with ⟨rest, own⟩ | ⟨before, rfl, nested⟩
    · obtain ⟨site, passing⟩ := ownInspections_passing setting own
      refine ⟨[], by rw [site, List.append_nil], fun number => ?_⟩
      rw [Entity.passing, acts]
      simp only [calm]
      rw [List.cons_append]
      exact List.cons_prefix_cons.mpr ⟨rfl, (passing number).trans (List.prefix_append _ _)⟩
    rcases append_eq_append_cons nested with ⟨rest, below⟩ | ⟨before, rfl, last⟩
    · obtain ⟨turn, rest, site, place, slot, passing⟩ :=
        slotsActs_passing logs shape.nested slots 0 address path _ _ _ inspection below
      refine ⟨turn :: rest, site, fun number => ?_⟩
      rw [Nat.zero_add] at slot
      rw [Entity.passing, acts, slot]
      simp only [calm]
      rw [List.cons_append]
      refine List.cons_prefix_cons.mpr ⟨rfl, ?_⟩
      rw [List.append_assoc]
      exact (List.prefix_append_right_inj _).mpr
        ((passing number).trans (List.prefix_append _ _))
    · have member : .inspect inspection ∈ before ++ .inspect inspection :: post :=
        List.mem_append_right before List.mem_cons_self
      rw [← last] at member
      exact absurd (List.mem_singleton.mp member) (by simp)

theorem slotsActs_passing (logs : setting.conduct.OnlyLogs) : ∀ (nested : List (Nested Shape))
    (slots : List (Slot Entity)) (position : Nat) (address : Address) (path : String)
    (lineage : List Snapshot) (pre post : List Act) (inspection : Inspection),
    slotsActs setting nested slots position address path lineage =
      pre ++ .inspect inspection :: post →
    ∃ turn rest, inspection.site.address = address ++ turn :: rest ∧
      ∃ place, turn.slot = position + place ∧ ∀ number,
        pre ++ [.inspect (inspection.passing number)] <+:
          slotsActs setting nested
            (slots.modify place
              (Slot.modify (Entity.passing inspection.position number rest) turn.index))
            position address path lineage
  | nested :: others, slot :: slots, position, address, path, lineage, pre, post, inspection,
    split => by
    rw [slotsActs] at split
    rcases append_eq_append_cons split with ⟨further, first⟩ | ⟨before, rfl, second⟩
    · obtain ⟨index, rest, site, passing⟩ :=
        slotActs_passing logs slot ⟨position, nested.field, none⟩ address path lineage _ _
          inspection first
      refine ⟨_, rest, site, 0, rfl, fun number => ?_⟩
      rw [List.modify_zero_cons, slotsActs]
      exact (passing number).trans (List.prefix_append _ _)
    · obtain ⟨turn, rest, site, place, slot, passing⟩ :=
        slotsActs_passing logs others slots (position + 1) address path lineage _ _ inspection
          second
      refine ⟨turn, rest, site, place + 1, by omega, fun number => ?_⟩
      rw [List.modify_succ_cons, slotsActs, List.append_assoc]
      exact (List.prefix_append_right_inj _).mpr (passing number)
  | [], _, _, _, _, _, _, _, _, split => by
    rw [slotsActs] at split
    · exact absurd split (by simp)
    · simp
  | _ :: _, [], _, _, _, _, _, _, _, split => by
    rw [slotsActs] at split
    · exact absurd split (by simp)
    · simp

theorem slotActs_passing (logs : setting.conduct.OnlyLogs) : ∀ (slot : Slot Entity)
    (turn : Turn) (address : Address) (path : String) (lineage : List Snapshot)
    (pre post : List Act) (inspection : Inspection),
    slotActs setting slot turn address path lineage = pre ++ .inspect inspection :: post →
    ∃ index rest, inspection.site.address = address ++ { turn with index := index } :: rest ∧
      ∀ number,
        pre ++ [.inspect (inspection.passing number)] <+:
          slotActs setting (slot.modify (Entity.passing inspection.position number rest) index) turn
            address path lineage
  | .vacant, _, _, _, _, _, _, _, split => by
    rw [slotActs] at split
    exact absurd split (by simp)
  | .one child, turn, address, path, lineage, pre, post, inspection, split => by
    rw [slotActs] at split
    obtain ⟨rest, site, passing⟩ := acts_passing logs child _ _ lineage pre post inspection split
    rw [List.append_assoc] at site
    refine ⟨none, rest, site, fun number => ?_⟩
    simpa only [Slot.modify, slotActs] using passing number
  | .many children, turn, address, path, lineage, pre, post, inspection, split => by
    rw [slotActs] at split
    obtain ⟨place, rest, site, passing⟩ :=
      elementActs_passing logs children turn 0 address path lineage pre post inspection split
    rw [Nat.zero_add] at site
    refine ⟨some place, rest, site, fun number => ?_⟩
    simpa only [Slot.modify, slotActs] using passing number

theorem elementActs_passing (logs : setting.conduct.OnlyLogs) : ∀ (children : List Entity)
    (turn : Turn) (index : Nat) (address : Address) (path : String) (lineage : List Snapshot)
    (pre post : List Act) (inspection : Inspection),
    elementActs setting children turn index address path lineage =
      pre ++ .inspect inspection :: post →
    ∃ place rest,
      inspection.site.address = address ++ { turn with index := some (index + place) } :: rest ∧
      ∀ number, pre ++ [.inspect (inspection.passing number)] <+:
        elementActs setting
          (children.modify place (Entity.passing inspection.position number rest)) turn index
          address path lineage
  | [], _, _, _, _, _, _, _, _, split => by
    rw [elementActs] at split
    exact absurd split (by simp)
  | child :: children, turn, index, address, path, lineage, pre, post, inspection, split => by
    rw [elementActs] at split
    rcases append_eq_append_cons split with ⟨further, first⟩ | ⟨before, rfl, second⟩
    · obtain ⟨rest, site, passing⟩ := acts_passing logs child _ _ lineage _ _ inspection first
      rw [List.append_assoc] at site
      refine ⟨0, rest, site, fun number => ?_⟩
      rw [List.modify_zero_cons, elementActs]
      exact (passing number).trans (List.prefix_append _ _)
    · obtain ⟨place, rest, site, passing⟩ := elementActs_passing logs children
        { turn with index := some index } (index + 1) address path lineage _ _ inspection second
      rw [Nat.add_right_comm] at site
      refine ⟨place + 1, rest, site, fun number => ?_⟩
      rw [List.modify_succ_cons, elementActs, List.append_assoc]
      exact (List.prefix_append_right_inj _).mpr (passing number)

end

/-- The rules that are inspected stand at the address and the position of the inspection. -/
theorem exists_rules_of_mem_acts {entity : Entity} {lineage : List Snapshot}
    {inspection : Inspection} (member : .inspect inspection ∈ acts setting entity [] "" lineage) :
    ∃ far, Reaches entity inspection.site.address far ∧
      far.shape.rules[inspection.position]? = some (inspection.field, inspection.rules) := by
  obtain ⟨steps, far, around, reaches, own⟩ :=
    doneAt_of_mem_acts setting entity [] "" lineage _ member
  have address : inspection.site.address = steps := congrArg Site.address (site_of_mem_ownActs own)
  refine ⟨far, address ▸ reaches, ?_⟩
  rcases List.mem_cons.mp own with same | own
  · exact absurd same (by simp)
  rcases List.mem_append.mp own with own | own
  · obtain ⟨other, listed, same⟩ := List.mem_map.mp own
    obtain rfl := Act.inspect.inj same
    obtain ⟨pre, post, split⟩ := List.append_of_mem listed
    obtain ⟨place, position, rules, -⟩ := inspections_passing setting _ rfl split
    rw [position, Nat.zero_add, rules]
  · exact absurd (List.mem_singleton.mp own) (by simp)

end Passing

section Stopping

variable (setting : Setting)

section Congruence

variable {inspection changed : Inspection} (input : changed.input = inspection.input)
  (number : Nat) (rule : Rule)
include input

/-- A call of a test records the same in an inspection with the same input. -/
theorem Trial.messages_congr :
    Trial.messages ⟨changed, number, rule⟩ = Trial.messages ⟨inspection, number, rule⟩ := by
  simp only [messages, answer, input]

/-- A call of a test lets the walk go on alike there. -/
theorem Trial.flow_congr :
    Trial.flow ⟨changed, number, rule⟩ = Trial.flow ⟨inspection, number, rule⟩ := by
  simp only [flow, answer, input]

/-- A call of a test ends its list alike there. -/
theorem Trial.ends_congr :
    Trial.ends ⟨changed, number, rule⟩ = Trial.ends ⟨inspection, number, rule⟩ := by
  simp only [ends, flow_congr input, messages_congr input]

/-- A call of a test records under the same key there. -/
theorem Trial.record_congr (key : changed.key = inspection.key) (errors : ErrorMap) :
    Trial.record errors ⟨changed, number, rule⟩ =
      Trial.record errors ⟨inspection, number, rule⟩ := by
  simp only [record, messages_congr input, key]

end Congruence

/-- A rule that is in scope and not kept back is tried. -/
theorem trials_cons_of_free {inspection : Inspection} (number : Nat) (rule : Rule)
    (rest : List Rule) {errors : ErrorMap}
    (inside : ¬ (!rule.decl.scope.intersects inspection.input.scope) = true)
    (free : ¬ (rule.decl.control.exitIfAlreadyErrored && errors.has inspection.key) = true) :
    ∃ further,
      trials inspection number (rule :: rest) errors = ⟨inspection, number, rule⟩ :: further := by
  rw [trials, if_neg inside, if_neg free]
  split
  · exact ⟨[], rfl⟩
  · exact ⟨_, rfl⟩

/-- The trial that stops the rules of a field is the last, and if its rule passes instead the trials
up to it are called all the same. -/
theorem trials_stop {inspection : Inspection} {number : Nat} {rules : List Rule}
    {errors : ErrorMap} {trial : Trial} (member : trial ∈ trials inspection number rules errors)
    (stops : trial.flow ≠ .proceed) :
    ∃ first place, trials inspection number rules errors = first ++ [trial] ∧
      flowOf (first.map .trial) = .proceed ∧ trial.inspection = inspection ∧
      trial.number = number + place ∧ rules[place]? = some trial.rule ∧
      ∀ changed : Inspection, changed.key = inspection.key → changed.input = inspection.input →
        ∃ others further,
          trials changed number (rules.modify place Rule.passing) errors =
            others ++ ⟨changed, trial.number, trial.rule.passing⟩ :: further ∧
          others.map (Deed.event setting ∘ .trial) = first.map (Deed.event setting ∘ .trial) := by
  -- The trials before are the same because they look at the same input and record under the same
  -- key; only the list of rules that the inspection carries is another.
  induction rules generalizing number errors with
  | nil => exact absurd member List.not_mem_nil
  | cons rule rest ih =>
    simp only [trials] at member ⊢
    split at member
    · next outside =>
      obtain ⟨first, place, whole, goes, mine, numbered, listed, passing⟩ := ih member
      refine ⟨first, place + 1, ?_, goes, mine, by omega, listed, fun changed key input => ?_⟩
      · rw [if_pos outside, whole]
      · obtain ⟨others, further, called, events⟩ := passing changed key input
        refine ⟨others, further, ?_, events⟩
        rw [List.modify_succ_cons, trials, input, if_pos outside, called]
    next inside =>
    split at member
    · exact absurd member List.not_mem_nil
    next free =>
    have unchanged (changed : Inspection) (key : changed.key = inspection.key)
        (input : changed.input = inspection.input) :
        ¬ (!rule.decl.scope.intersects changed.input.scope) = true ∧
          ¬ (rule.decl.control.exitIfAlreadyErrored && errors.has changed.key) = true := by
      rw [key, input]
      exact ⟨inside, free⟩
    rw [if_neg inside, if_neg free]
    split at member
    · next ends =>
      obtain rfl := List.mem_singleton.mp member
      refine ⟨[], 0, by rw [if_pos ends, List.nil_append], rfl, rfl, rfl, rfl,
        fun changed key input => ⟨[], ?_⟩⟩
      obtain ⟨inside, free⟩ := unchanged changed key input
      obtain ⟨further, called⟩ := trials_cons_of_free number rule.passing rest inside free
      exact ⟨further, called, rfl⟩
    · next goes =>
      have onward := Trial.flow_of_not_ends goes
      rcases List.mem_cons.mp member with rfl | member
      · exact absurd onward stops
      obtain ⟨first, place, whole, through, mine, numbered, listed, passing⟩ := ih member
      refine ⟨_ :: first, place + 1, by rw [if_neg goes, whole, List.cons_append], ?_, mine,
        by omega, listed, fun changed key input => ?_⟩
      · rw [List.map_cons, ← List.singleton_append, flowOf_append_of_proceed _ ?_, through]
        simp only [flowOf, Deed.flow, onward]
      · obtain ⟨others, further, called, events⟩ := passing changed key input
        obtain ⟨inside, free⟩ := unchanged changed key input
        refine ⟨⟨changed, number, rule⟩ :: others, further, ?_, ?_⟩
        · rw [List.modify_succ_cons, trials, if_neg inside, if_neg free, Trial.ends_congr input,
            if_neg goes, Trial.record_congr input _ _ key, called, List.cons_append]
        · simp only [List.map_cons, events, Function.comp_apply, Deed.event, key, input]

/-- Where all deeds let a walk go on, each of them does. -/
theorem flow_of_mem {list : List Deed} {deed : Deed} (goes : flowOf list = .proceed)
    (member : deed ∈ list) : deed.flow = .proceed := by
  induction list with
  | nil => exact absurd member List.not_mem_nil
  | cons first rest ih =>
    cases flow : first.flow with
    | proceed =>
      rw [← List.singleton_append, flowOf_append_of_proceed _ (by simp [flowOf, flow])] at goes
      rcases List.mem_cons.mp member with rfl | later
      · exact flow
      · exact ih goes later
    | abort => exact absurd goes (by simp [flowOf, flow])
    | fail failure => exact absurd goes (by simp [flowOf, flow])

/-- After an act that lets the walk go on, the rest is done. -/
theorem deeds_cons_of_proceed {act : Act} {errors : ErrorMap} (rest : List Act)
    (goes : flowOf (act.deeds setting errors) = .proceed) :
    deeds setting (act :: rest) errors = act.deeds setting errors ++
      deeds setting rest ((act.deeds setting errors).foldl Deed.record errors) := by
  simp only [deeds, goes]

/-- After an act that ends the walk, nothing is done. -/
theorem deeds_cons_of_stops {act : Act} {errors : ErrorMap} (rest : List Act)
    (stops : flowOf (act.deeds setting errors) ≠ .proceed) :
    deeds setting (act :: rest) errors = act.deeds setting errors := by
  rw [deeds]
  split
  · next goes => exact absurd goes stops
  · rfl

/-- What is done of a first act comes first. -/
theorem deeds_cons_prefix (act : Act) (rest : List Act) (errors : ErrorMap) :
    act.deeds setting errors <+: deeds setting (act :: rest) errors := by
  by_cases goes : flowOf (act.deeds setting errors) = .proceed
  · rw [deeds_cons_of_proceed setting rest goes]
    exact List.prefix_append _ _
  · exact ⟨[], by rw [List.append_nil, deeds_cons_of_stops setting rest goes]⟩

/-- The trial that stops an inspection is its last deed. -/
theorem act_deeds_stop {act : Act} {errors : ErrorMap} {trial : Trial}
    (member : .trial trial ∈ act.deeds setting errors) (stops : trial.flow ≠ .proceed) :
    ∃ done, act = .inspect trial.inspection ∧
      act.deeds setting errors = done ++ [.trial trial] ∧ flowOf done = .proceed ∧
      trial.inspection.rules[trial.number]? = some trial.rule ∧
      ∃ others passed further,
        (Act.inspect (trial.inspection.passing trial.number)).deeds setting errors =
          others ++ .trial passed :: further ∧
        passed.rule = trial.rule.passing ∧
        (others ++ [.trial passed]).map (Deed.event setting) =
          (done ++ [Deed.trial trial]).map (Deed.event setting) := by
  cases act with
  | enter site failure => exact absurd (List.mem_singleton.mp member) (by simp)
  | leave site shape values =>
    simp only [Act.deeds] at member
    split at member
    all_goals exact absurd (List.mem_singleton.mp member) (by simp)
  | inspect inspection =>
    rcases List.mem_cons.mp member with same | member
    · exact absurd same (by simp)
    obtain ⟨other, called, same⟩ := List.mem_map.mp member
    obtain rfl := Deed.trial.inj same
    obtain ⟨first, place, whole, goes, rfl, numbered, listed, passing⟩ :=
      trials_stop setting called stops
    rw [Nat.zero_add] at numbered
    subst numbered
    obtain ⟨others, further, changed, events⟩ :=
      passing (other.inspection.passing other.number) rfl rfl
    refine ⟨.inspect other.inspection :: first.map .trial, rfl, ?_, goes, listed,
      .inspect (other.inspection.passing other.number) :: others.map .trial,
      ⟨other.inspection.passing other.number, other.number, other.rule.passing⟩,
      further.map .trial, ?_, rfl, ?_⟩
    · rw [Act.deeds, whole, List.map_append, List.map_singleton, List.cons_append]
    · rw [Act.deeds]
      simp only [Inspection.passing] at changed ⊢
      rw [changed, List.map_append, List.map_cons, List.cons_append]
    · simp only [List.cons_append, List.map_cons, List.map_append, List.map_map, events]
      rfl

/-- A walk stops with the first trial that does not let it go on. Where the rule of this trial
passes instead, the walk comes to the same trial in the same way. -/
theorem deeds_stop {list : List Act} {errors : ErrorMap} {trial : Trial}
    (member : .trial trial ∈ deeds setting list errors) (stops : trial.flow ≠ .proceed) :
    ∃ pre post done, list = pre ++ .inspect trial.inspection :: post ∧
      deeds setting list errors = done ++ [.trial trial] ∧ flowOf done = .proceed ∧
      trial.inspection.rules[trial.number]? = some trial.rule ∧
      ∀ later, ∃ others passed further,
        deeds setting (pre ++ .inspect (trial.inspection.passing trial.number) :: later) errors =
          others ++ .trial passed :: further ∧
        passed.rule = trial.rule.passing ∧
        (others ++ [.trial passed]).map (Deed.event setting) =
          (done ++ [Deed.trial trial]).map (Deed.event setting) := by
  induction list generalizing errors with
  | nil => exact absurd member List.not_mem_nil
  | cons act rest ih =>
    by_cases goes : flowOf (act.deeds setting errors) = .proceed
    · rw [deeds_cons_of_proceed setting rest goes] at member ⊢
      have further := (List.mem_append.mp member).resolve_left fun here =>
        stops (flow_of_mem goes here)
      obtain ⟨pre, post, done, split, whole, through, listed, passing⟩ := ih further
      refine ⟨act :: pre, post, act.deeds setting errors ++ done, ?_, ?_, ?_, listed,
        fun later => ?_⟩
      · rw [split, List.cons_append]
      · rw [whole, List.append_assoc]
      · rw [flowOf_append_of_proceed _ goes, through]
      · obtain ⟨others, passed, further, called, rule, events⟩ := passing later
        refine ⟨act.deeds setting errors ++ others, passed, further, ?_, rule, ?_⟩
        · rw [List.cons_append, deeds_cons_of_proceed setting _ goes, called, List.append_assoc]
        · rw [List.append_assoc, List.append_assoc, List.map_append, events,
            ← List.map_append]
    · -- The act that stops the walk is the inspection that the trial belongs to.
      rw [deeds_cons_of_stops setting rest goes] at member ⊢
      obtain ⟨done, rfl, whole, through, listed, others, passed, further, called, rule, events⟩ :=
        act_deeds_stop setting member stops
      refine ⟨[], rest, done, rfl, whole, through, listed, fun later => ?_⟩
      obtain ⟨more, all⟩ := deeds_cons_prefix setting
        (.inspect (trial.inspection.passing trial.number)) later errors
      refine ⟨others, passed, further ++ more, ?_, rule, events⟩
      rw [List.nil_append, ← all, called, List.append_assoc, List.cons_append]

/-- What stops a walk is one of its deeds. -/
theorem exists_of_flowOf {list : List Deed} (aborts : flowOf list = .abort) :
    ∃ trial, .trial trial ∈ list ∧ trial.flow = .abort := by
  induction list with
  | nil => exact absurd aborts (by simp [flowOf])
  | cons deed rest ih =>
    cases flow : deed.flow with
    | proceed =>
      simp only [flowOf, flow] at aborts
      obtain ⟨trial, member, same⟩ := ih aborts
      exact ⟨trial, List.mem_cons_of_mem _ member, same⟩
    | abort =>
      have never (failure : Option Failure) : afterHook failure ≠ .abort := by
        cases failure <;> simp [afterHook]
      cases deed with
      | enter _ failure => exact absurd flow (never failure)
      | inspect _ => exact absurd flow (by simp [Deed.flow])
      | trial called => exact ⟨called, List.mem_cons_self, flow⟩
      | leave _ _ failure => exact absurd flow (never failure)
    | fail failure => exact absurd aborts (by simp [flowOf, flow])

/-- A trial aborts the walk if its test answers so. -/
theorem flow_eq_abort_iff {trial : Trial} : trial.flow = .abort ↔ trial.answer = .ok .abort := by
  unfold Trial.flow
  split <;> simp_all

end Stopping

end Walk

/-- **An abort cuts a walk to a prefix.** Where hooks only log and no test fails, a walk gives a
report. It is that of an aborted walk exactly if a test that is called has answered so. Then the
call of this test is the last thing that happens; the errors are what was there and what was
recorded before; and the events are those, up to the call of the same test, of the walk in which the
rule passes at this place. -/
theorem validate_abort (conduct : Conduct) (messages : Messages) (scope : Scope) (seed : ErrorMap)
    (entity : Entity) (logs : conduct.OnlyLogs)
    (free : Walk.ErrorFree (Walk.calls ⟨conduct, messages, scope⟩ entity)) :
    let setting : Walk.Setting := ⟨conduct, messages, scope⟩
    let account := Walk.account setting entity seed
    let walk := validate conduct messages scope seed entity
    walk.events = account.map (Walk.Deed.event setting) ∧
      ∃ report, walk.outcome = .ok report ∧
        (report.aborted ↔ ∃ trial, .trial trial ∈ account ∧ trial.answer = .ok .abort) ∧
        ∀ trial, .trial trial ∈ account → trial.answer = .ok .abort →
          (∃ before, account = before ++ [.trial trial] ∧
            report.errors = before.foldl Walk.Deed.record seed) ∧
          (∃ far, Walk.Reaches entity trial.inspection.site.address far ∧
            ∃ field rules, far.shape.rules[trial.inspection.position]? = some (field, rules) ∧
              rules[trial.number]? = some trial.rule) ∧
          let changed := entity.passing trial.inspection.position trial.number
            trial.inspection.site.address
          ∃ others passed further,
            Walk.account setting changed seed = others ++ .trial passed :: further ∧
            passed.rule = trial.rule.passing ∧
            (others ++ [Walk.Deed.trial passed]).map (Walk.Deed.event setting) = walk.events ∧
            (validate conduct messages scope seed changed).events =
              walk.events ++ further.map (Walk.Deed.event setting) := by
  intro setting account walk
  obtain ⟨events, outcome⟩ := validate_eq_told conduct messages scope seed entity
  have never (failure : Failure) : Walk.flowOf account ≠ .fail failure := by
    intro fails
    have course : (Walk.visit setting entity "" [] seed).course = Walk.told setting account seed :=
      Walk.visit_perform setting entity [] "" [] seed
    have flow : (Walk.visit setting entity "" [] seed).flow = .fail failure :=
      (congrArg Stretch.flow course).trans fails
    have work := congrArg Stretch.flow (Walk.visit_work setting logs.quiet entity "" [] seed)
    exact Walk.runCalls_flow setting _ seed
      (fun call member rule listed => free call member rule listed _) failure (work.symm.trans flow)
  have report := outcome.trans (Stretch.outcome_eq never)
  refine ⟨events, _, report, ?_, fun trial member aborts => ?_⟩
  · refine Stretch.aborted_iff.trans ⟨fun ended => ?_, ?_⟩
    · obtain ⟨trial, member, flow⟩ := Walk.exists_of_flowOf ended
      exact ⟨trial, member, Walk.flow_eq_abort_iff.mp flow⟩
    · rintro ⟨trial, member, aborts⟩
      have flow := Walk.flow_eq_abort_iff.mpr aborts
      obtain ⟨pre, post, before, -, whole, goes, -⟩ :=
        Walk.deeds_stop setting member (by simp [flow])
      show Walk.flowOf account = .abort
      rw [show account = before ++ [.trial trial] from whole, Walk.flowOf_append_of_proceed _ goes]
      simp only [Walk.flowOf, Walk.Deed.flow, flow]
  · have flow := Walk.flow_eq_abort_iff.mpr aborts
    obtain ⟨pre, post, before, split, whole, goes, listed, passing⟩ :=
      Walk.deeds_stop setting member (by simp [flow])
    have whole : account = before ++ [.trial trial] := whole
    have silent : trial.messages = [] := by simp only [Walk.Trial.messages, aborts]
    refine ⟨⟨before, whole, ?_⟩, ?_, ?_⟩
    · show account.foldl Walk.Deed.record seed = before.foldl Walk.Deed.record seed
      rw [whole, List.foldl_append]
      simp only [List.foldl_cons, List.foldl_nil, Walk.Deed.record, Walk.Trial.record, silent,
        ErrorMap.extendAt_nil]
    · obtain ⟨far, reaches, rules⟩ := Walk.exists_rules_of_mem_acts setting
        (split ▸ List.mem_append_right pre List.mem_cons_self)
      exact ⟨far, reaches, _, _, rules, listed⟩
    · obtain ⟨rest, address, changes⟩ := Walk.acts_passing setting logs entity [] "" [] _ _ _ split
      obtain rfl : trial.inspection.site.address = rest := address
      obtain ⟨later, same⟩ := changes trial.number
      obtain ⟨others, passed, further, called, rule, prior⟩ := passing later
      rw [List.append_assoc, List.singleton_append] at same
      rw [same] at called
      have prior : (others ++ [Walk.Deed.trial passed]).map (Walk.Deed.event setting) =
          walk.events := by rw [prior, ← whole, events]
      refine ⟨others, passed, further, called, rule, prior, ?_⟩
      have changed := (validate_eq_told conduct messages scope seed
        (entity.passing trial.inspection.position trial.number trial.inspection.site.address)).1
      rw [changed, ← prior, ← List.map_append, List.append_assoc, List.singleton_append]
      exact congrArg (List.map _) called

theorem Walk.errorFree_twoLines :
    Walk.ErrorFree (Walk.calls ⟨.record, ⟨[]⟩, .save⟩ Walk.twoLines) := by
  intro call member rule listed input
  simp [Walk.calls, Walk.nodes, Walk.slotsNodes, Walk.slotNodes, Walk.elementNodes,
    Walk.Node.calls, Walk.twoLines, Walk.prepared] at member
  rcases member with rfl | rfl | rfl | rfl | rfl <;>
    · obtain rfl := List.mem_singleton.mp listed
      exact ⟨_, rfl⟩

/-- The second line aborts the walk; where its rule passes, the third line and the hooks still
come. -/
theorem validate_abort_twoLines :
    let setting : Walk.Setting := ⟨.record, ⟨[]⟩, .save⟩
    let walk := validate .record ⟨[]⟩ .save .empty Walk.twoLines
    Conduct.record.OnlyLogs ∧ Walk.ErrorFree (Walk.calls setting Walk.twoLines) ∧
      ∃ trial before,
        Walk.account setting Walk.twoLines .empty = before ++ [.trial trial] ∧
        trial.inspection.key = "lines[1][qty]" ∧ trial.answer = .ok .abort ∧
        ∃ further, further ≠ [] ∧
          (validate .record ⟨[]⟩ .save .empty (Walk.twoLines.passing trial.inspection.position
            trial.number trial.inspection.site.address)).events = walk.events ++ further := by
  intro setting walk
  refine ⟨Conduct.record_onlyLogs, Walk.errorFree_twoLines, ?_⟩
  obtain ⟨-, report, outcome, ended, each⟩ := validate_abort .record ⟨[]⟩ .save .empty Walk.twoLines
    Conduct.record_onlyLogs Walk.errorFree_twoLines
  have aborted : report.aborted = true := by
    have known : walk.outcome = .ok ⟨⟨[("lines[0][qty]", ["too few"])]⟩, true⟩ := by rfl
    rw [← Except.ok.inj (known.symm.trans outcome)]
  obtain ⟨trial, member, aborts⟩ := ended.mp aborted
  obtain ⟨⟨before, whole, -⟩, -, _, _, further, -, -, -, events⟩ := each trial member aborts
  -- Where the trial is, is seen from the last deed.
  have last : ((Walk.account setting Walk.twoLines .empty).getLast?.bind Walk.Deed.trial?).map
      (fun trial => (trial.inspection.key, trial.inspection.position, trial.number,
        trial.inspection.site.address)) =
      some ("lines[1][qty]", 0, 0, [⟨1, "lines", some 1⟩]) := by decide +kernel
  rw [whole, List.getLast?_concat] at last
  obtain ⟨key, position, number, address⟩ :
      trial.inspection.key = "lines[1][qty]" ∧ trial.inspection.position = 0 ∧
        trial.number = 0 ∧ trial.inspection.site.address = [⟨1, "lines", some 1⟩] := by
    simpa [Walk.Deed.trial?] using last
  refine ⟨trial, before, whole, key, aborts, _, fun nothing => ?_, events⟩
  have lengths := congrArg List.length events
  rw [nothing, List.append_nil, position, number, address] at lengths
  revert lengths
  decide +kernel

end Scrutiny
