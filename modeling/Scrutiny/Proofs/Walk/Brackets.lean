import Scrutiny.Proofs.ErrorMap.Recording
import Scrutiny.Proofs.Walk.Ancestry

/-! # Hooks bracket what happens at an entity

In the course of a walk everything that is done at an entity or at one nested in it lies between the
entity's two hooks. What the last hook is told is found by comparing path keys; where names are
plain, it is what the tests recorded that bear on the entity: those of its own rules, those of the
entities nested in it, and those that the entity around it has for the field that holds it as its
single one (`validate_brackets`).
-/

namespace Scrutiny

namespace Walk

/-- Whether an act calls a hook. -/
def Act.isHook : Act → Bool
  | inspect _ => false
  | _ => true

def Deed.isHook : Deed → Bool
  | enter .. => true
  | leave .. => true
  | _ => false

/-- The entity that an act enters. -/
def Act.entered? : Act → Option Site
  | enter site _ => some site
  | _ => none

/-- An act that enters a place is the call of `before` there. -/
theorem Act.exists_of_entered? {act : Act} {site : Site} (entered : act.entered? = some site) :
    ∃ failure, act = .enter site failure := by
  cases act with
  | enter other failure => exact ⟨failure, by rw [Option.some.inj entered]⟩
  | inspect => exact absurd entered (by simp [Act.entered?])
  | leave => exact absurd entered (by simp [Act.entered?])

/-- The entities of a tree in the order in which a walk enters them. -/
def sites (setting : Setting) (entity : Entity) : List Site :=
  (acts setting entity [] "" []).filterMap Act.entered?

/-- What lies before, within and after the hooks of an entity. -/
structure Brackets (site : Site) (before inner after : List Act) : Prop where
  outside : ∀ act ∈ before ++ after, ¬ site.address <+: act.site.address
  inside : ∀ act ∈ inner, site.address <+: act.site.address
  /-- No other hook of the entity is called. -/
  hooks : ∀ act ∈ inner, act.isHook → act.site.address ≠ site.address
  /-- The rules of the entities around are run before. -/
  later : ∀ inspection, .inspect inspection ∈ after → ¬ inspection.site.address <+: site.address

section Enclosing

variable {setting : Setting}

/-- What is done in an entity is done at or below its address. -/
theorem prefix_of_doneAt {entity : Entity} {address : Address} {path : String} {act : Act}
    (done : DoneAt setting entity address path act) : address <+: act.site.address := by
  obtain ⟨steps, far, lineage, _, member⟩ := done
  rw [site_of_mem_ownActs member]
  exact List.prefix_append address steps

/-- Addresses that part at a step are not below one another. -/
theorem not_prefix_of_parted {address first second : Address} {turn other : Turn}
    (one : address ++ [turn] <+: first) (another : address ++ [other] <+: second)
    (parted : turn ≠ other) : ¬ first <+: second := by
  intro below
  obtain ⟨rest, whole⟩ := one.trans below
  obtain ⟨further, same⟩ := another
  rw [← whole, List.append_assoc, List.append_assoc, List.append_cancel_left_eq] at same
  exact parted (List.cons.inj same).1.symm

/-- An address is not below one that goes further. -/
theorem not_prefix_of_below {address first : Address} {turn : Turn}
    (below : address ++ [turn] <+: first) : ¬ first <+: address := by
  intro above
  have := (below.trans above).length_le
  rw [List.length_append, List.length_singleton] at this
  omega

/-- Acts elsewhere in the tree can be put in front. -/
theorem Brackets.prepend {site : Site} {before inner after : List Act}
    (brackets : Brackets site before inner after) (more : List Act)
    (apart : ∀ act ∈ more, ¬ site.address <+: act.site.address) :
    Brackets site (more ++ before) inner after where
  outside act member := by
    rw [List.append_assoc] at member
    exact (List.mem_append.mp member).elim (apart act) (brackets.outside act)
  inside := brackets.inside
  hooks := brackets.hooks
  later := brackets.later

/-- Acts that have nothing to do with an entity can come after those that its hooks bracket. -/
theorem Brackets.append {site : Site} {before inner after : List Act}
    (brackets : Brackets site before inner after) (more : List Act)
    (apart : ∀ act ∈ more, ¬ site.address <+: act.site.address)
    (beside : ∀ inspection, .inspect inspection ∈ more →
      ¬ inspection.site.address <+: site.address) :
    Brackets site before inner (after ++ more) where
  outside act member := by
    rw [← List.append_assoc] at member
    exact (List.mem_append.mp member).elim (brackets.outside act) (apart act)
  inside := brackets.inside
  hooks := brackets.hooks
  later inspection member :=
    (List.mem_append.mp member).elim (brackets.later inspection) (beside inspection)

/-- The acts of a part of a tree are bracketed by the hooks of each entity that is entered there. -/
def Bracketed (list : List Act) : Prop :=
  ∀ site failure, .enter site failure ∈ list → ∃ before inner after shape values,
    list = before ++ .enter site failure :: (inner ++ .leave site shape values :: after) ∧
      Brackets site before inner after

theorem Bracketed.nil : Bracketed [] :=
  fun _ _ member => absurd member List.not_mem_nil

/-- No entity of one part of a tree is, or is nested in, an entity of the other. -/
def ActsApart (first second : List Act) : Prop :=
  ∀ act ∈ first, ∀ further ∈ second,
    ¬ act.site.address <+: further.site.address ∧ ¬ further.site.address <+: act.site.address

/-- Two bracketed parts side by side are bracketed. -/
theorem Bracketed.append {first second : List Act} (one : Bracketed first)
    (other : Bracketed second)
    (apart : ActsApart first second) : Bracketed (first ++ second) := by
  intro site failure member
  rcases List.mem_append.mp member with member | member
  · obtain ⟨before, inner, after, shape, values, split, brackets⟩ := one site failure member
    refine ⟨before, inner, after ++ second, shape, values, by simp [split], ?_⟩
    exact brackets.append second (fun act listed => (apart _ member act listed).1)
      fun inspection listed => (apart _ member _ listed).2
  · obtain ⟨before, inner, after, shape, values, split, brackets⟩ := other site failure member
    refine ⟨first ++ before, inner, after, shape, values, by simp [split], ?_⟩
    exact brackets.prepend first fun act listed => (apart act listed _ member).2

/-- The hooks of an entity around its own rules and what is nested in it. -/
theorem Bracketed.enclose {site : Site} {failure : Option Failure} {shape : Shape}
    {values : Entries Value} {own below : List Act} (bracketed : Bracketed below)
    (mine : ∀ act ∈ own, act.site = site ∧ act.isHook = false)
    (deeper : ∀ act ∈ below, ∃ turn, site.address ++ [turn] <+: act.site.address) :
    Bracketed (.enter site failure :: (own ++ (below ++ [.leave site shape values]))) := by
  intro node reason member
  rcases List.mem_cons.mp member with same | member
  · obtain ⟨rfl, rfl⟩ := Act.enter.inj same
    refine ⟨[], own ++ below, [], shape, values, by simp, ?_, ?_, ?_, ?_⟩
    · exact fun _ listed => absurd listed List.not_mem_nil
    · intro act listed
      rcases List.mem_append.mp listed with here | there
      · exact (mine act here).1 ▸ List.prefix_rfl
      · obtain ⟨turn, below⟩ := deeper act there
        exact (List.prefix_append _ _).trans below
    · intro act listed hook same
      rcases List.mem_append.mp listed with here | there
      · rw [(mine act here).2] at hook
        exact absurd hook (by simp)
      · obtain ⟨turn, below⟩ := deeper act there
        exact not_prefix_of_below below (same ▸ List.prefix_rfl)
    · exact fun _ listed => absurd listed List.not_mem_nil
  rcases List.mem_append.mp member with member | member
  · exact absurd (mine _ member).2 (by simp [Act.isHook])
  rcases List.mem_append.mp member with member | member
  · obtain ⟨turn, nested⟩ := deeper _ member
    have above : ¬ node.address <+: site.address := not_prefix_of_below nested
    obtain ⟨before, inner, after, held, kept, split, brackets⟩ := bracketed node reason member
    refine ⟨.enter site failure :: own ++ before, inner, after ++ [.leave site shape values], held,
      kept, by simp [split], ?_⟩
    refine (brackets.prepend (.enter site failure :: own) ?_).append
      [.leave site shape values] ?_ ?_
    · intro act listed
      rcases List.mem_cons.mp listed with rfl | listed
      · exact above
      · rwa [(mine act listed).1]
    · intro act listed
      rwa [List.mem_singleton.mp listed]
    · exact fun _ listed => absurd (List.mem_singleton.mp listed) (by simp)
  · exact absurd (List.mem_singleton.mp member) (by simp)

variable (setting)

/-- The acts in a field are among those in the fields of the entity. -/
theorem mem_slotsActs {nested : List (Nested Shape)} {slots : List (Slot Entity)} {place : Nat}
    {decl : Nested Shape} {slot : Slot Entity} (declared : nested[place]? = some decl)
    (filled : slots[place]? = some slot) (position : Nat) {address : Address} {path : String}
    {lineage : List Snapshot} {act : Act}
    (member : act ∈
      slotActs setting slot ⟨position + place, decl.field, none⟩ address path lineage) :
    act ∈ slotsActs setting nested slots position address path lineage := by
  induction place generalizing nested slots position with
  | zero =>
    cases nested with
    | nil => exact absurd declared (by simp)
    | cons first others =>
      cases slots with
      | nil => exact absurd filled (by simp)
      | cons held slots =>
        obtain rfl := Option.some.inj declared
        obtain rfl := Option.some.inj filled
        rw [slotsActs]
        exact List.mem_append_left _ member
  | succ place ih =>
    cases nested with
    | nil => exact absurd declared (by simp)
    | cons first others =>
      cases slots with
      | nil => exact absurd filled (by simp)
      | cons held slots =>
        rw [slotsActs]
        refine List.mem_append_right _ (ih declared filled (position + 1) ?_)
        rwa [Nat.add_right_comm, Nat.add_assoc]

/-- The acts in an element are among those in the list. -/
theorem mem_elementActs {children : List Entity} {place : Nat} {child : Entity}
    (listed : children[place]? = some child) (turn : Turn) (index : Nat) {address : Address}
    {path : String} {lineage : List Snapshot} {act : Act}
    (member : let turn := { turn with index := some (index + place) }
      act ∈ acts setting child (address ++ [turn]) (turn.key path) lineage) :
    act ∈ elementActs setting children turn index address path lineage := by
  induction place generalizing children turn index with
  | zero =>
    cases children with
    | nil => exact absurd listed (by simp)
    | cons first rest =>
      obtain rfl := Option.some.inj listed
      rw [elementActs]
      exact List.mem_append_left _ member
  | succ place ih =>
    cases children with
    | nil => exact absurd listed (by simp)
    | cons first rest =>
      rw [elementActs]
      refine List.mem_append_right _ (ih listed { turn with index := some index } (index + 1) ?_)
      rwa [Nat.add_right_comm, Nat.add_assoc]

/-- The acts in a nested entity are among those in the entity around it. -/
theorem Leads.mem_acts {entity child : Entity} {turn : Turn} (leads : Leads entity turn child)
    (address : Address) (path : String) (lineage : List Snapshot) :
    ∃ around, ∀ act ∈ acts setting child (address ++ [turn]) (turn.key path) around,
      act ∈ acts setting entity address path lineage := by
  obtain @⟨position, nested, slot, index, _, declared, filled, holds⟩ := leads
  obtain ⟨shape, values, slots⟩ := entity
  refine ⟨lineage ++ [Entity.snapshot setting.conduct ⟨shape,
    (setting.conduct.before shape setting.scope values).values, slots⟩], fun act member => ?_⟩
  rw [acts]
  refine List.mem_cons_of_mem _ (List.mem_append_right _ (List.mem_append_left _ ?_))
  refine mem_slotsActs setting declared filled 0 ?_
  cases holds with
  | single =>
    rwa [slotActs, Nat.zero_add]
  | element listed =>
    rw [slotActs, Nat.zero_add]
    exact mem_elementActs setting listed _ 0 (by rwa [Nat.zero_add])

/-- A walk to the end enters every entity of the tree. -/
theorem Reaches.exists_enter {entity far : Entity} {steps : Address}
    (reaches : Reaches entity steps far) (address : Address) (path : String)
    (lineage : List Snapshot) : ∃ around failure,
      .enter ⟨address ++ steps, steps.foldl Turn.key path, far.shape.name, around⟩ failure ∈
        acts setting entity address path lineage := by
  induction reaches generalizing address path lineage with
  | here entity =>
    obtain ⟨shape, values, slots⟩ := entity
    rw [acts, List.append_nil]
    exact ⟨_, _, List.mem_cons_self⟩
  | @step entity turn child rest far leads _ ih =>
    obtain ⟨inner, all⟩ := leads.mem_acts setting address path lineage
    obtain ⟨around, failure, member⟩ := ih (address ++ [turn]) (turn.key path) inner
    rw [List.append_assoc] at member
    exact ⟨around, failure, all _ member⟩

/-- Each entity that is reached has its place in the walk, with its address, key and name. -/
theorem Reaches.exists_site {entity far : Entity} {steps : Address}
    (reaches : Reaches entity steps far) : ∃ site ∈ sites setting entity,
      site.address = steps ∧ site.path = steps.foldl Turn.key "" ∧ site.name = far.shape.name := by
  obtain ⟨around, failure, member⟩ := reaches.exists_enter setting [] "" []
  exact ⟨_, List.mem_filterMap.mpr ⟨_, member, rfl⟩, rfl, rfl, rfl⟩

/-- What a field holds is apart from what later fields hold. -/
theorem apart_slotsActs (nested : Nested Shape) (others : List (Nested Shape)) (slot : Slot Entity)
    (slots : List (Slot Entity)) (position : Nat) (address : Address) (path : String)
    (lineage : List Snapshot) :
    ActsApart (slotActs setting slot ⟨position, nested.field, none⟩ address path lineage)
      (slotsActs setting others slots (position + 1) address path lineage) := by
  intro act here further there
  obtain ⟨index, child, _, done⟩ := doneAt_of_mem_slotActs setting _ _ _ _ _ act here
  obtain ⟨place, decl, held, number, other, _, _, _, also⟩ :=
    doneAt_of_mem_slotsActs setting _ _ _ _ _ _ further there
  have parted : (⟨position, nested.field, index⟩ : Turn) ≠
      ⟨position + 1 + place, decl.field, number⟩ := by
    intro same
    have := congrArg Turn.slot same
    simp only at this
    omega
  exact ⟨not_prefix_of_parted (prefix_of_doneAt done) (prefix_of_doneAt also) parted,
    not_prefix_of_parted (prefix_of_doneAt also) (prefix_of_doneAt done) (Ne.symm parted)⟩

/-- An element of a list is apart from the later ones. -/
theorem apart_elementActs (child : Entity) (children : List Entity) (turn : Turn) (index : Nat)
    (address : Address) (path : String) (lineage : List Snapshot) :
    let here : Turn := { turn with index := some index }
    ActsApart (acts setting child (address ++ [here]) (here.key path) lineage)
      (elementActs setting children here (index + 1) address path lineage) := by
  intro _ act here further there
  have done := doneAt_of_mem_acts setting _ _ _ _ act here
  obtain ⟨place, other, _, also⟩ := doneAt_of_mem_elementActs setting _ _ _ _ _ _ further there
  have parted : ({ turn with index := some index } : Turn) ≠
      { turn with index := some (index + 1 + place) } := by
    intro same
    have := Option.some.inj (congrArg Turn.index same)
    omega
  exact ⟨not_prefix_of_parted (prefix_of_doneAt done) (prefix_of_doneAt also) parted,
    not_prefix_of_parted (prefix_of_doneAt also) (prefix_of_doneAt done) (Ne.symm parted)⟩

mutual

/-- In a walk, the hooks of each entity bracket what is done at it and below. -/
theorem bracketed_acts : ∀ (entity : Entity) (address : Address) (path : String)
    (lineage : List Snapshot), Bracketed (acts setting entity address path lineage)
  | ⟨shape, values, slots⟩, address, path, lineage => by
    rw [acts]
    refine (bracketed_slotsActs shape.nested slots 0 address path _).enclose ?_ ?_
    · intro act listed
      obtain ⟨inspection, mine, rfl⟩ := List.mem_map.mp listed
      exact ⟨(site_of_mem_inspections mine).1, rfl⟩
    · intro act listed
      obtain ⟨place, decl, slot, index, child, _, _, _, done⟩ :=
        doneAt_of_mem_slotsActs setting _ _ _ _ _ _ act listed
      exact ⟨_, prefix_of_doneAt done⟩

theorem bracketed_slotsActs : ∀ (nested : List (Nested Shape)) (slots : List (Slot Entity))
    (position : Nat) (address : Address) (path : String) (lineage : List Snapshot),
    Bracketed (slotsActs setting nested slots position address path lineage)
  | nested :: others, slot :: slots, position, address, path, lineage => by
    rw [slotsActs]
    exact (bracketed_slotActs slot ⟨position, nested.field, none⟩ address path lineage).append
      (bracketed_slotsActs others slots (position + 1) address path lineage)
      (apart_slotsActs setting nested others slot slots position address path lineage)
  | [], _, _, _, _, _ => by
    rw [slotsActs]
    · exact .nil
    · simp
  | _ :: _, [], _, _, _, _ => by
    rw [slotsActs]
    · exact .nil
    · simp

theorem bracketed_slotActs : ∀ (slot : Slot Entity) (turn : Turn) (address : Address)
    (path : String) (lineage : List Snapshot),
    Bracketed (slotActs setting slot turn address path lineage)
  | .vacant, _, _, _, _ => by
    rw [slotActs]
    exact .nil
  | .one child, turn, address, path, lineage => by
    rw [slotActs]
    exact bracketed_acts child _ _ lineage
  | .many children, turn, address, path, lineage => by
    rw [slotActs]
    exact bracketed_elementActs children turn 0 address path lineage

theorem bracketed_elementActs : ∀ (children : List Entity) (turn : Turn) (index : Nat)
    (address : Address) (path : String) (lineage : List Snapshot),
    Bracketed (elementActs setting children turn index address path lineage)
  | [], _, _, _, _, _ => by
    rw [elementActs]
    exact .nil
  | child :: children, turn, index, address, path, lineage => by
    rw [elementActs]
    exact (bracketed_acts child _ _ lineage).append
      (bracketed_elementActs children _ (index + 1) address path lineage)
      (apart_elementActs setting child children turn index address path lineage)

end

end Enclosing

/-- The address of the entity that holds another one as its single one, and the field. -/
def Site.holder? (site : Site) : Option (Address × String) :=
  match site.address.getLast? with
  | some ⟨_, field, none⟩ => some (site.address.dropLast, field)
  | _ => none

/-- A trial bears on an entity if the rule is one of the entity or of one nested in it, or if the
rule is one of the entity around, for the field that holds the entity as its single one. -/
def Trial.BearsOn (trial : Trial) (site : Site) : Prop :=
  site.address <+: trial.inspection.site.address ∨
    site.holder? = some (trial.inspection.site.address, trial.inspection.field)

instance (trial : Trial) (site : Site) : Decidable (trial.BearsOn site) :=
  inferInstanceAs (Decidable (_ ∨ _))

/-- What trials record in an empty map, one after another. -/
def recordOf (trials : List Trial) : ErrorMap :=
  trials.foldl Trial.record .empty

/-- An entity is held as the single one of a field if its last turn goes there. -/
theorem holder?_eq_some {site : Site} {address : Address} {field : String} :
    site.holder? = some (address, field) ↔
      ∃ slot, site.address = address ++ [⟨slot, field, none⟩] := by
  unfold Site.holder?
  constructor
  · intro held
    split at held
    · next slot name last =>
      obtain ⟨rfl, rfl⟩ := Prod.mk.inj (Option.some.inj held)
      obtain ⟨address, whole⟩ := List.getLast?_eq_some_iff.mp last
      exact ⟨slot, by rw [whole, List.dropLast_concat]⟩
    · exact absurd held (by simp)
  · rintro ⟨slot, whole⟩
    simp [whole]

section Deeds

variable (setting : Setting)

/-- The trials of an inspection are of this inspection. -/
theorem inspection_of_mem_trials {inspection : Inspection} {number : Nat} {rules : List Rule}
    {errors : ErrorMap} {trial : Trial} (member : trial ∈ trials inspection number rules errors) :
    trial.inspection = inspection := by
  induction rules generalizing number errors with
  | nil => exact absurd member List.not_mem_nil
  | cons rule rest ih =>
    simp only [trials] at member
    split at member
    · exact ih member
    split at member
    · exact absurd member List.not_mem_nil
    split at member
    · rw [List.mem_singleton.mp member]
    rcases List.mem_cons.mp member with rfl | member
    · rfl
    · exact ih member

/-- What is done of an act is done at its place, hooks by hooks and trials by inspections. -/
theorem of_mem_act_deeds {act : Act} {errors : ErrorMap} {deed : Deed}
    (member : deed ∈ act.deeds setting errors) :
    deed.site = act.site ∧ (deed.isHook → act.isHook) ∧
      ∀ trial, deed = .trial trial → act = .inspect trial.inspection := by
  cases act with
  | enter site failure =>
    obtain rfl := List.mem_singleton.mp member
    exact ⟨rfl, fun _ => rfl, fun _ same => absurd same (by simp)⟩
  | inspect inspection =>
    rcases List.mem_cons.mp member with rfl | member
    · exact ⟨rfl, fun hook => absurd hook (by simp [Deed.isHook]),
        fun _ same => absurd same (by simp)⟩
    · obtain ⟨trial, called, rfl⟩ := List.mem_map.mp member
      have mine := inspection_of_mem_trials called
      refine ⟨congrArg Inspection.site mine, fun hook => absurd hook (by simp [Deed.isHook]), ?_⟩
      intro other same
      rw [← Deed.trial.inj same, mine]
  | leave site shape values =>
    simp only [Act.deeds] at member
    split at member
    all_goals
      obtain rfl := List.mem_singleton.mp member
      exact ⟨rfl, fun _ => rfl, fun _ same => absurd same (by simp)⟩

/-- One of the acts leads to a deed. -/
def Deed.ComesFrom (deed : Deed) (list : List Act) : Prop :=
  ∃ act ∈ list, ∃ errors, deed ∈ act.deeds setting errors

theorem comesFrom_of_mem_deeds {list : List Act} {errors : ErrorMap} {deed : Deed}
    (member : deed ∈ deeds setting list errors) : deed.ComesFrom setting list := by
  induction list generalizing errors with
  | nil => exact absurd member List.not_mem_nil
  | cons act rest ih =>
    simp only [deeds] at member
    split at member
    · rcases List.mem_append.mp member with here | later
      · exact ⟨act, List.mem_cons_self, errors, here⟩
      · obtain ⟨other, listed, before, mine⟩ := ih later
        exact ⟨other, List.mem_cons_of_mem _ listed, before, mine⟩
    · exact ⟨act, List.mem_cons_self, errors, member⟩

/-- Only trials record anything. -/
theorem foldl_record (list : List Deed) (errors : ErrorMap) :
    list.foldl Deed.record errors = (list.filterMap Deed.trial?).foldl Trial.record errors := by
  induction list generalizing errors with
  | nil => rfl
  | cons deed rest ih => cases deed <;> exact ih _

/-- What is recorded at or below a key is what the trials there record. -/
theorem subtree_foldl_record (list : List Trial) (errors : ErrorMap) (path : String) :
    (list.foldl Trial.record errors).subtree path =
      (list.filter fun trial => Path.isUnder trial.inspection.key path).foldl Trial.record
        (errors.subtree path) := by
  induction list generalizing errors with
  | nil => rfl
  | cons trial rest ih =>
    rw [List.foldl_cons, ih, Trial.record, ErrorMap.subtree_extendAt]
    by_cases under : Path.isUnder trial.inspection.key path <;> simp [under, Trial.record]

/-- Nothing is recorded if there was nothing and no trial has messages. -/
theorem foldl_record_isEmpty (list : List Trial) (errors : ErrorMap) :
    (list.foldl Trial.record errors).isEmpty ↔
      errors.isEmpty ∧ ∀ trial ∈ list, trial.messages = [] := by
  induction list generalizing errors with
  | nil => simp
  | cons trial rest ih =>
    rw [List.foldl_cons, ih, Trial.record, ErrorMap.isEmpty_extendAt, List.forall_mem_cons,
      and_assoc]

/-- The last hook of an entity that has recorded some errors. -/
def closing (own : ErrorMap) : Hook :=
  if own.isEmpty then .complete else .failed own

/-- A hook that lets the walk go on does not fail. -/
theorem eq_none_of_goes {deed : Deed} {failure : Option Failure}
    (flow : deed.flow = afterHook failure) (goes : flowOf [deed] = .proceed) : failure = none := by
  cases failure with
  | none => rfl
  | some failure => exact absurd goes (by simp [flowOf, flow, afterHook])

variable {setting} in
/-- Where a walk gets past entering, the hook did not fail and nothing was recorded. -/
theorem Does.enter {site : Site} {failure : Option Failure} {errors left : ErrorMap}
    {done : List Deed} (does : Does setting [.enter site failure] errors done left) :
    failure = none ∧ done = [.enter site none] ∧ left = errors := by
  obtain ⟨rfl, flow, rfl⟩ := does
  rw [deeds_singleton] at flow ⊢
  obtain rfl := eq_none_of_goes rfl flow
  exact ⟨rfl, rfl, rfl⟩

variable {setting} in
/-- Leaving calls the hook that is due for the errors at or below the key of the entity. -/
theorem Does.leave {site : Site} {shape : Shape} {values : Entries Value}
    {errors left : ErrorMap} {done : List Deed}
    (does : Does setting [.leave site shape values] errors done left) :
    done = [.leave site (closing (errors.subtree site.path)) none] ∧ left = errors := by
  obtain ⟨rfl, flow, rfl⟩ := does
  rw [deeds_singleton] at flow ⊢
  by_cases clean : (errors.subtree site.path).isEmpty
  · simp only [Act.deeds, clean, ↓reduceIte] at flow ⊢
    rw [eq_none_of_goes rfl flow]
    exact ⟨by rw [closing, if_pos clean], rfl⟩
  · simp only [Act.deeds, clean, Bool.false_eq_true, ↓reduceIte] at flow ⊢
    rw [eq_none_of_goes rfl flow]
    exact ⟨by rw [closing, if_neg clean], rfl⟩

/-- In a walk to the end an entity is entered and left, and its last hook is told what was recorded
at or below its path key until then. -/
theorem exists_brackets {entity : Entity} {site : Site} (member : site ∈ sites setting entity)
    (goes : flowOf (account setting entity .empty) = .proceed) :
    ∃ before inner after first middle last,
      Brackets site before inner after ∧
        (∀ act ∈ before ++ (inner ++ after), act ∈ acts setting entity [] "" []) ∧
        (∀ deed ∈ first, deed.ComesFrom setting before) ∧
        (∀ deed ∈ middle, deed.ComesFrom setting inner) ∧
        (∀ deed ∈ last, deed.ComesFrom setting after) ∧
        let hook := closing (((first ++ middle).foldl Deed.record .empty).subtree site.path)
        account setting entity .empty =
          first ++ .enter site none :: (middle ++ .leave site hook none :: last) := by
  obtain ⟨act, listed, entered⟩ := List.mem_filterMap.mp member
  obtain ⟨failure, rfl⟩ := Act.exists_of_entered? entered
  obtain ⟨before, inner, after, shape, values, split, brackets⟩ :=
    bracketed_acts setting entity [] "" [] site failure listed
  have parts : acts setting entity [] "" [] =
      before ++ ([.enter site failure] ++ (inner ++ ([.leave site shape values] ++ after))) := split
  have does : Does setting (acts setting entity [] "" []) .empty
      (account setting entity .empty) _ := ⟨rfl, goes, rfl⟩
  rw [parts] at does
  -- The walk does each of the five parts with the errors that those before it have left.
  obtain ⟨first, _, rest, whole, starts, does⟩ := does.append
  obtain ⟨_, _, rest, rfl, enters, does⟩ := does.append
  obtain ⟨middle, _, rest, rfl, within, does⟩ := does.append
  obtain ⟨_, _, last, rfl, leaves, ends⟩ := does.append
  obtain ⟨rfl, rfl, rfl⟩ := enters.enter
  obtain ⟨rfl, rfl⟩ := leaves.leave
  refine ⟨before, inner, after, first, middle, last, brackets, ?_, ?_, ?_, ?_, ?_⟩
  · intro act member
    rw [split]
    grind
  · exact fun deed member => comesFrom_of_mem_deeds setting (starts.deeds ▸ member)
  · exact fun deed member => comesFrom_of_mem_deeds setting (within.deeds ▸ member)
  · exact fun deed member => comesFrom_of_mem_deeds setting (ends.deeds ▸ member)
  · rw [whole, List.foldl_append, starts.errors, within.errors]
    rfl

/-- Where keys tell fields apart, the trials that bear on an entity are those whose keys are at or
below its key. -/
theorem bearsOn_iff {entity : Entity} (plain : ∀ shape ∈ entity.shapes, shape.Plain) {site : Site}
    (entered : site ∈ sites setting entity) {trial : Trial}
    (inspected : .inspect trial.inspection ∈ acts setting entity [] "" []) :
    trial.BearsOn site ↔ Path.isUnder trial.inspection.key site.path := by
  obtain ⟨act, listed, enters⟩ := List.mem_filterMap.mp entered
  obtain ⟨failure, rfl⟩ := Act.exists_of_entered? enters
  have under := isUnder_key_iff plain inspected listed
  rw [Trial.BearsOn, holder?_eq_some]
  exact under.symm

/-- A trial after the last hook of an entity does not bear on it. -/
theorem not_bearsOn_of_after {site : Site} {before inner after : List Act}
    (brackets : Brackets site before inner after) {trial : Trial}
    (later : .inspect trial.inspection ∈ after) : ¬ trial.BearsOn site := by
  rintro (below | held)
  · exact brackets.outside _ (List.mem_append_right _ later) below
  · obtain ⟨slot, whole⟩ := holder?_eq_some.mp held
    exact brackets.later _ later (whole ▸ List.prefix_append _ _)

/-- A trial among deeds that come from some acts belongs to an inspection among these. -/
theorem inspect_of_comesFrom {list : List Act} {trial : Trial} {done : List Deed}
    (all : ∀ deed ∈ done, deed.ComesFrom setting list)
    (member : trial ∈ done.filterMap Deed.trial?) : .inspect trial.inspection ∈ list := by
  obtain ⟨deed, listed, called⟩ := List.mem_filterMap.mp member
  obtain rfl : deed = .trial trial := by
    cases deed with
    | trial other => rw [Option.some.inj called]
    | _ => exact absurd called (by simp [Deed.trial?])
  obtain ⟨act, known, errors, mine⟩ := all _ listed
  exact (of_mem_act_deeds setting mine).2.2 trial rfl ▸ known

/-- What lies at or below an entity when it is left is what the trials recorded that bear on it. -/
theorem subtree_eq_recordOf {entity : Entity} (plain : ∀ shape ∈ entity.shapes, shape.Plain)
    {site : Site} (entered : site ∈ sites setting entity) {before inner after : List Act}
    (brackets : Brackets site before inner after) {done last : List Deed}
    (soFar : ∀ deed ∈ done, deed.ComesFrom setting (acts setting entity [] "" []))
    (later : ∀ deed ∈ last, deed.ComesFrom setting after) :
    (done.foldl Deed.record .empty).subtree site.path =
      recordOf (((done ++ last).filterMap Deed.trial?).filter (·.BearsOn site)) := by
  -- Nothing that is called after the entity is left bears on it: not even the rules of the entity
  -- around, which have been run before.
  have beside : (last.filterMap Deed.trial?).filter (·.BearsOn site) = [] := by
    refine List.filter_eq_nil_iff.mpr fun trial member bears => ?_
    exact not_bearsOn_of_after brackets (inspect_of_comesFrom setting later member)
      (of_decide_eq_true bears)
  have same : (done.filterMap Deed.trial?).filter (fun trial =>
      Path.isUnder trial.inspection.key site.path) =
      (done.filterMap Deed.trial?).filter (·.BearsOn site) := by
    refine List.filter_congr fun trial member => ?_
    have bears := bearsOn_iff setting plain entered (inspect_of_comesFrom setting soFar member)
    exact Bool.eq_iff_iff.mpr (bears.symm.trans decide_eq_true_iff.symm)
  rw [foldl_record, subtree_foldl_record, same, List.filterMap_append, List.filter_append, beside,
    List.append_nil]
  rfl

end Deeds

/-- The last hook is `failed` if one of the trials that it is told of has a message. -/
theorem exists_failed_iff (list : List Trial) :
    (∃ errors, closing (recordOf list) = .failed errors) ↔ ∃ trial ∈ list, trial.messages ≠ [] := by
  have clean : (recordOf list).isEmpty ↔ ∀ trial ∈ list, trial.messages = [] :=
    (foldl_record_isEmpty list .empty).trans (and_iff_right rfl)
  unfold closing
  split
  · next empty => simpa using clean.mp empty
  · next some => simpa using mt clean.mpr some

end Walk

/-- **Hooks bracket the walk, and `failed` is told what bears on its entity.** In a walk to the end
every entity is entered once, before anything that is done at it or below it, and left once, after
all of that. The hook that it is left with is `failed` exactly if a test that bears on the entity
has answered with messages, and it is told what those tests recorded, in the order in which they
were called. -/
theorem validate_brackets (conduct : Conduct) (messages : Messages) (scope : Scope)
    (entity : Entity) (report : Report) (plain : ∀ shape ∈ entity.shapes, shape.Plain)
    (done : (validate conduct messages scope .empty entity).outcome = .ok report)
    (through : report.aborted = false) :
    let setting : Walk.Setting := ⟨conduct, messages, scope⟩
    let account := Walk.account setting entity .empty
    (validate conduct messages scope .empty entity).events =
        account.map (Walk.Deed.event setting) ∧
      (∀ steps far, Walk.Reaches entity steps far → ∃ site ∈ Walk.sites setting entity,
        site.address = steps ∧ site.path = steps.foldl Walk.Turn.key "" ∧
          site.name = far.shape.name) ∧
      ∀ site ∈ Walk.sites setting entity, ∃ before inner after hook,
        account = before ++ .enter site none :: (inner ++ .leave site hook none :: after) ∧
        (∀ deed ∈ before ++ after, ¬ site.address <+: deed.site.address) ∧
        (∀ deed ∈ inner, site.address <+: deed.site.address ∧
          (deed.isHook → deed.site.address ≠ site.address)) ∧
        let bearing := (account.filterMap Walk.Deed.trial?).filter (·.BearsOn site)
        hook = Walk.closing (Walk.recordOf bearing) ∧
          ((∃ errors, hook = .failed errors) ↔ ∃ trial ∈ bearing, trial.messages ≠ []) := by
  intro setting account
  obtain ⟨events, outcome⟩ := validate_eq_told conduct messages scope .empty entity
  have goes : Walk.flowOf account = .proceed :=
    Stretch.flow_of_outcome (outcome.symm.trans done) through
  refine ⟨events, fun steps far reaches => reaches.exists_site setting, fun site entered => ?_⟩
  obtain ⟨before, inner, after, first, middle, last, brackets, parts, starts, within, ends,
    whole⟩ := Walk.exists_brackets setting entered goes
  have all (deed : Walk.Deed) (member : deed ∈ first ++ middle) :
      deed.ComesFrom setting (Walk.acts setting entity [] "" []) := by
    rcases List.mem_append.mp member with member | member
    · obtain ⟨act, listed, mine⟩ := starts deed member
      exact ⟨act, parts act (List.mem_append_left _ listed), mine⟩
    · obtain ⟨act, listed, mine⟩ := within deed member
      exact ⟨act, parts act (List.mem_append_right _ (List.mem_append_left _ listed)), mine⟩
  have trials : account.filterMap Walk.Deed.trial? =
      ((first ++ middle) ++ last).filterMap Walk.Deed.trial? := by
    simp only [account, whole, List.filterMap_append, List.filterMap_cons, Walk.Deed.trial?,
      List.append_assoc]
  have closes := Walk.subtree_eq_recordOf setting plain entered brackets all ends
  rw [← trials] at closes
  refine ⟨first, middle, last, _, whole, ?_, ?_, congrArg Walk.closing closes, ?_⟩
  · intro deed member
    rcases List.mem_append.mp member with member | member
    · obtain ⟨act, listed, _, mine⟩ := starts deed member
      rw [(Walk.of_mem_act_deeds setting mine).1]
      exact brackets.outside act (List.mem_append_left _ listed)
    · obtain ⟨act, listed, _, mine⟩ := ends deed member
      rw [(Walk.of_mem_act_deeds setting mine).1]
      exact brackets.outside act (List.mem_append_right _ listed)
  · intro deed member
    obtain ⟨act, listed, _, mine⟩ := within deed member
    obtain ⟨place, hooks, -⟩ := Walk.of_mem_act_deeds setting mine
    rw [place]
    exact ⟨brackets.inside act listed, fun hook => brackets.hooks act listed (hooks hook)⟩
  · rw [closes]
    exact Walk.exists_failed_iff _

namespace Walk

/-- An order with rules for the address it holds and for its list of lines. -/
def latePost : Entity :=
  let line (outcome : Outcome) : Shape := ⟨"line", ["qty"], [], [("qty", [fixedRule outcome])], []⟩
  let address : Shape := ⟨"address", ["city"], [], [("city", [fixedRule .pass])], []⟩
  ⟨⟨"order", ["id"], [],
      [("to", [fixedRule (.error "too far")]), ("lines", [fixedRule (.error "too many")])],
      [⟨"to", .one, address⟩, ⟨"lines", .many, line .pass⟩]⟩,
    [("id", .null)],
    [.one ⟨address, [], []⟩,
      .many [⟨line .pass, [], []⟩, ⟨line (.error "too few"), [], []⟩]]⟩

end Walk

/-- The address is left with the error that the order has for it, not with that of a line. -/
theorem validate_brackets_latePost :
    let setting : Walk.Setting := ⟨.record, ⟨[]⟩, .save⟩
    (∀ shape ∈ Walk.latePost.shapes, shape.Plain) ∧
      (validate .record ⟨[]⟩ .save .empty Walk.latePost).outcome = .ok ⟨⟨[("to", ["too far"]),
        ("lines", ["too many"]), ("lines[1][qty]", ["too few"])]⟩, false⟩ ∧
      ∃ site, (Walk.sites setting Walk.latePost)[1]? = some site ∧ site.path = "to" ∧
        ∃ before inner after, Walk.account setting Walk.latePost .empty =
          before ++ .enter site none ::
            (inner ++ .leave site (.failed ⟨[("to", ["too far"])]⟩) none :: after) := by
  intro setting
  have plain : ∀ shape ∈ Walk.latePost.shapes, shape.Plain := by decide +kernel
  have done : (validate .record ⟨[]⟩ .save .empty Walk.latePost).outcome =
      .ok ⟨⟨[("to", ["too far"]), ("lines", ["too many"]), ("lines[1][qty]", ["too few"])]⟩,
        false⟩ := by rfl
  have each := (validate_brackets .record ⟨[]⟩ .save Walk.latePost _ plain done rfl).2.2
  refine ⟨plain, done, _, rfl, rfl, ?_⟩
  obtain ⟨before, inner, after, _, whole, -, -, rfl, -⟩ :=
    each _ (List.mem_of_getElem? (i := 1) rfl)
  exact ⟨before, inner, after, whole⟩

end Scrutiny
