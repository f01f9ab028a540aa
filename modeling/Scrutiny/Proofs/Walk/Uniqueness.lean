import Mathlib.Data.List.Nodup
import Scrutiny.Proofs.Record.Fitting

/-! # Path keys are unique

In a tree of records whose shapes are built and have names that can stand between brackets, no two
entities have the same path key, no two fields with rules have it, and what lies at or below the key
of an entity is its own, that of an entity nested in it, or the field that holds it as its single
one. So in the course of one walk no path key is used twice, whatever the walk is done with
(`Walk.path_keys_unique`).
-/

namespace Scrutiny

/-- Names of fields with rules or nested entities that can stand between brackets. -/
structure Shape.Named (shape : Shape) : Prop where
  rules : ∀ field ∈ shape.rules.keys, Path.isPlainName field
  nested : ∀ nested ∈ shape.nested, Path.isPlainName nested.field

/-- The fields of a plain shape that have rules have plain names. -/
theorem Shape.Plain.isPlainName_of_getElem? {shape : Shape} (plain : shape.Plain) {place : Nat}
    {field : String} (known : shape.rules.keys[place]? = some field) : Path.isPlainName field := by
  obtain ⟨entry, listed, rfl⟩ := List.mem_map.mp (List.mem_of_getElem? known)
  exact plain.rules entry listed

/-- The shapes of a record are as those that its shape is built from. -/
theorem Entity.Conforms.plain {shape : Shape} {record : Entity}
    (conforms : Entity.Conforms shape record) (built : shape.Built)
    (named : shape.Everywhere Shape.Named) : ∀ inner ∈ record.shapes, inner.Plain := by
  intro inner member
  obtain ⟨decl, registry, made⟩ := conforms.of_everywhere built inner member
  obtain ⟨rules, nested⟩ := conforms.of_everywhere named inner member
  exact ⟨fun entry listed => rules _ (List.mem_map_of_mem listed), nested,
    ShapeDecl.nodup_of_build made⟩

/-- The path key of the entity that a hook prepares. -/
def Event.entered? : Event → Option String
  | hook path _ _ .before => some path
  | _ => none

/-- The path key of the field whose rules are run. -/
def Event.inspected? : Event → Option String
  | field _ key _ _ => some key
  | _ => none

namespace Walk

/-- What an act begins with: an entity, by its address, or the rules of one of its fields, by their
position. -/
def Act.mark? : Act → Option (Address × Option Nat)
  | enter site _ => some (site.address, none)
  | inspect inspection => some (inspection.site.address, some inspection.position)
  | leave .. => none

def Deed.mark? : Deed → Option (Address × Option Nat)
  | enter site _ => some (site.address, none)
  | inspect inspection => some (inspection.site.address, some inspection.position)
  | _ => none

/-- The mark of an act has the address of its place. -/
theorem Act.address_of_mark? {act : Act} {mark : Address × Option Nat}
    (marked : act.mark? = some mark) : mark.1 = act.site.address := by
  cases act with
  | enter site failure => exact Option.some.inj marked ▸ rfl
  | inspect inspection => exact Option.some.inj marked ▸ rfl
  | leave site shape values => exact nomatch marked

/-- The entities and fields of parts of a tree that are apart are different. -/
theorem nodup_marks_append {first second : List Act} (one : (first.filterMap Act.mark?).Nodup)
    (other : (second.filterMap Act.mark?).Nodup)
    (apart : ∀ act ∈ first, ∀ further ∈ second, act.site.address ≠ further.site.address) :
    ((first ++ second).filterMap Act.mark?).Nodup := by
  rw [List.filterMap_append]
  refine List.nodup_append.mpr ⟨one, other, fun mark here later there same => ?_⟩
  obtain ⟨act, listed, marked⟩ := List.mem_filterMap.mp here
  obtain ⟨further, also, again⟩ := List.mem_filterMap.mp there
  apply apart act listed further also
  rw [← Act.address_of_mark? marked, ← Act.address_of_mark? again, same]

theorem ActsApart.addresses {first second : List Act} (apart : ActsApart first second) :
    ∀ act ∈ first, ∀ further ∈ second, act.site.address ≠ further.site.address :=
  fun act here further there same => (apart act here further there).1 (same ▸ List.prefix_rfl)

section Marks

variable (setting : Setting)

/-- Inspections are marked by the position of their fields. -/
theorem marks_inspections (site : Site) (shape : Shape) (values : Entries Value) (position : Nat)
    (rules : Entries (List Rule)) :
    ((site.inspections setting shape values position rules).map Act.inspect).filterMap Act.mark? =
      (List.range' position rules.length).map fun place => (site.address, some place) := by
  induction rules generalizing position with
  | nil => rfl
  | cons entry rest ih =>
    rw [Site.inspections, List.map_cons, List.filterMap_cons, ih, List.length_cons,
      List.range'_succ, List.map_cons]
    rfl

/-- An entity is entered once, and each list of its rules is run once. -/
theorem nodup_marks_own (site : Site) (failure : Option Failure) (shape : Shape)
    (values : Entries Value) (rules : Entries (List Rule)) :
    ((.enter site failure :: (site.inspections setting shape values 0 rules).map
      Act.inspect).filterMap Act.mark?).Nodup := by
  have marks := marks_inspections setting site shape values 0 rules
  simp only [List.filterMap_cons, Act.mark?, marks]
  refine List.nodup_cons.mpr ⟨by simp, ?_⟩
  exact List.Nodup.map (fun _ _ same => Option.some.inj (congrArg Prod.snd same))
    List.nodup_range'

mutual

/-- No entity of a tree is entered twice, and the rules of no field are run twice. -/
theorem nodup_marks_acts : ∀ (entity : Entity) (address : Address) (path : String)
    (lineage : List Snapshot),
    ((acts setting entity address path lineage).filterMap Act.mark?).Nodup
  | ⟨shape, values, slots⟩, address, path, lineage => by
    let reaction := setting.conduct.before shape setting.scope values
    let site : Site := ⟨address, path, shape.name, lineage⟩
    let own : List Act := .enter site reaction.failure ::
      (site.inspections setting shape reaction.values 0 shape.rules).map .inspect
    let around := lineage ++ [Entity.snapshot setting.conduct ⟨shape, reaction.values, slots⟩]
    have whole : acts setting ⟨shape, values, slots⟩ address path lineage =
        own ++ slotsActs setting shape.nested slots 0 address path around ++
          [.leave site shape reaction.values] := by
      rw [acts, List.append_assoc]
      rfl
    have mine : ∀ act ∈ own, act.site.address = address := by
      intro act listed
      rcases List.mem_cons.mp listed with rfl | listed
      · rfl
      · obtain ⟨inspection, member, rfl⟩ := List.mem_map.mp listed
        exact congrArg Site.address (site_of_mem_inspections member).1
    have below : ∀ act ∈ slotsActs setting shape.nested slots 0 address path around,
        address ≠ act.site.address := by
      intro act listed same
      obtain ⟨place, decl, slot, index, child, _, _, _, done⟩ :=
        doneAt_of_mem_slotsActs setting _ _ _ _ _ _ act listed
      exact not_prefix_of_below (prefix_of_doneAt done) (same ▸ List.prefix_rfl)
    have inner := nodup_marks_append
      (nodup_marks_own setting site reaction.failure shape reaction.values shape.rules)
      (nodup_marks_slotsActs shape.nested slots 0 address path around)
      fun act here further there => mine act here ▸ below further there
    rw [whole, List.filterMap_append]
    exact (List.append_nil _).symm ▸ inner

/-- The acts in the fields of an entity have different marks. -/
theorem nodup_marks_slotsActs : ∀ (nested : List (Nested Shape)) (slots : List (Slot Entity))
    (position : Nat) (address : Address) (path : String) (lineage : List Snapshot),
    ((slotsActs setting nested slots position address path lineage).filterMap Act.mark?).Nodup
  | nested :: others, slot :: slots, position, address, path, lineage => by
    rw [slotsActs]
    exact nodup_marks_append
      (nodup_marks_slotActs slot ⟨position, nested.field, none⟩ address path lineage)
      (nodup_marks_slotsActs others slots (position + 1) address path lineage)
      (apart_slotsActs setting nested others slot slots position address path lineage).addresses
  | [], _, _, _, _, _ => by
    rw [slotsActs]
    · exact .nil
    · simp
  | _ :: _, [], _, _, _, _ => by
    rw [slotsActs]
    · exact .nil
    · simp

theorem nodup_marks_slotActs : ∀ (slot : Slot Entity) (turn : Turn) (address : Address)
    (path : String) (lineage : List Snapshot),
    ((slotActs setting slot turn address path lineage).filterMap Act.mark?).Nodup
  | .vacant, _, _, _, _ => by
    rw [slotActs]
    exact .nil
  | .one child, turn, address, path, lineage => by
    rw [slotActs]
    exact nodup_marks_acts child _ _ lineage
  | .many children, turn, address, path, lineage => by
    rw [slotActs]
    exact nodup_marks_elementActs children turn 0 address path lineage

theorem nodup_marks_elementActs : ∀ (children : List Entity) (turn : Turn) (index : Nat)
    (address : Address) (path : String) (lineage : List Snapshot),
    ((elementActs setting children turn index address path lineage).filterMap Act.mark?).Nodup
  | [], _, _, _, _, _ => by
    rw [elementActs]
    exact .nil
  | child :: children, turn, index, address, path, lineage => by
    rw [elementActs]
    exact nodup_marks_append (nodup_marks_acts child _ _ lineage)
      (nodup_marks_elementActs children _ (index + 1) address path lineage)
      (apart_elementActs setting child children turn index address path lineage).addresses

end

/-- What is done of an act has the mark of the act. -/
theorem marks_of_act (act : Act) (errors : ErrorMap) :
    (act.deeds setting errors).filterMap Deed.mark? = act.mark?.toList := by
  cases act with
  | enter site failure => rfl
  | inspect inspection =>
    have silent : ((trials inspection 0 inspection.rules errors).map Deed.trial).filterMap
        Deed.mark? = [] := by
      rw [List.filterMap_map]
      exact List.filterMap_eq_nil_iff.mpr fun _ _ => rfl
    simp only [Act.deeds, List.filterMap_cons, Deed.mark?, silent]
    rfl
  | leave site shape values =>
    simp only [Act.deeds]
    split <;> rfl

/-- A walk enters entities and runs rules as its acts say, as far as it goes. -/
theorem marks_deeds (list : List Act) (errors : ErrorMap) :
    ((deeds setting list errors).filterMap Deed.mark?).Sublist (list.filterMap Act.mark?) := by
  induction list generalizing errors with
  | nil => exact .slnil
  | cons act rest ih =>
    have own := marks_of_act setting act errors
    have parts : (act :: rest).filterMap Act.mark? =
        act.mark?.toList ++ rest.filterMap Act.mark? := by
      cases marked : act.mark? <;> simp [marked]
    rw [deeds, parts]
    split
    · rw [List.filterMap_append, own]
      exact (List.Sublist.refl _).append (ih _)
    · rw [own]
      exact List.sublist_append_left _ _

/-- In the course of a walk no mark comes twice. -/
theorem nodup_marks_account (entity : Entity) (seed : ErrorMap) :
    ((account setting entity seed).filterMap Deed.mark?).Nodup :=
  (marks_deeds setting _ seed).nodup (nodup_marks_acts setting entity [] "" [])

end Marks

section Keys

variable {entity near far : Entity} {steps others : Address}

/-- The same steps lead to one entity. -/
theorem Reaches.unique (plain : ∀ shape ∈ entity.shapes, shape.Plain)
    (reaches : Reaches entity steps near) (arrives : Reaches entity steps far) : near = far := by
  induction reaches with
  | here =>
    cases arrives
    rfl
  | @step entity turn child rest near leads _ ih =>
    cases arrives with
    | step also arrives =>
      have own := plain _ (shape_mem_shapes entity)
      obtain ⟨-, rfl, -⟩ := leads.eq_of_segments own also (rfl : _ ++ [] = _)
      exact ih (fun shape member => plain shape (leads.shapes shape member)) arrives

/-- Keys that are cut into the same parts lead to the same entity. -/
theorem Reaches.eq_of_segments (plain : ∀ shape ∈ entity.shapes, shape.Plain)
    (reaches : Reaches entity steps near) (arrives : Reaches entity others far)
    (same : Path.segments (keyOf steps) = Path.segments (keyOf others)) : steps = others := by
  unfold keyOf at same
  rw [reaches.segments_foldl "" plain, arrives.segments_foldl "" plain,
    List.append_cancel_left_eq] at same
  obtain ⟨rest, rfl, none⟩ :=
    reaches.append_of_segments plain arrives ((List.append_nil _).trans same)
  cases rest with
  | nil => exact (List.append_nil steps).symm
  | cons turn rest => exact absurd none (by simp [Turn.segments])

/-- The key of a field tells the entity and the field. -/
theorem Reaches.eq_of_fieldKey (plain : ∀ shape ∈ entity.shapes, shape.Plain)
    (reaches : Reaches entity steps near) (arrives : Reaches entity others far)
    {field name : String} (named : Path.isPlainName field) (also : Path.isPlainName name)
    (same : Path.fieldKey (keyOf steps) field = Path.fieldKey (keyOf others) name) :
    steps = others ∧ field = name := by
  have segments := congrArg Path.segments same
  rw [Path.segments_fieldKey _ named, Path.segments_fieldKey _ also] at segments
  obtain ⟨around, own⟩ := List.append_inj' segments rfl
  exact ⟨reaches.eq_of_segments plain arrives around,
    String.toList_inj.mp (List.singleton_inj.mp own)⟩

end Keys

section Pass

variable {setting : Setting}

/-- An inspection is of the field at its position. -/
theorem keys_of_mem_inspections {site : Site} {shape : Shape} {values : Entries Value}
    {position : Nat} {rules : Entries (List Rule)} {inspection : Inspection}
    (member : inspection ∈ site.inspections setting shape values position rules) :
    ∃ place, inspection.position = position + place ∧
      rules.keys[place]? = some inspection.field := by
  induction rules generalizing position with
  | nil => exact absurd member List.not_mem_nil
  | cons entry rest ih =>
    rcases List.mem_cons.mp member with rfl | member
    · exact ⟨0, rfl, rfl⟩
    · obtain ⟨place, here, listed⟩ := ih member
      exact ⟨place + 1, by omega, listed⟩

/-- Where rules are run: at an entity, for the field at a position of its shape. -/
theorem place_of_mem_acts {entity : Entity} {inspection : Inspection}
    (member : .inspect inspection ∈ acts setting entity [] "" []) :
    ∃ far, Reaches entity inspection.site.address far ∧
      inspection.site.path = keyOf inspection.site.address ∧
      far.shape.rules.keys[inspection.position]? = some inspection.field := by
  obtain ⟨steps, far, lineage, reaches, own⟩ := doneAt_of_mem_acts _ entity [] "" [] _ member
  have site : inspection.site = _ := site_of_mem_ownActs own
  refine ⟨far, by rw [site]; exact reaches, by rw [site]; rfl, ?_⟩
  rcases List.mem_cons.mp own with same | own
  · exact nomatch same
  rcases List.mem_append.mp own with own | own
  · obtain ⟨other, listed, same⟩ := List.mem_map.mp own
    obtain rfl := Act.inspect.inj same
    obtain ⟨place, here, known⟩ := keys_of_mem_inspections listed
    rwa [here, Nat.zero_add]
  · exact nomatch List.mem_singleton.mp own

/-- Each act is at a place that the tree has, under the key of its address. -/
theorem site_of_mem_acts {entity : Entity} {act : Act}
    (member : act ∈ acts setting entity [] "" []) :
    ∃ far, Reaches entity act.site.address far ∧ act.site.path = keyOf act.site.address := by
  obtain ⟨steps, far, lineage, reaches, own⟩ := doneAt_of_mem_acts _ entity [] "" [] _ member
  rw [site_of_mem_ownActs own]
  exact ⟨far, reaches, rfl⟩

/-- The deeds of an act begin with what it opens, and open nothing after that. -/
theorem opens_of_mem_deeds {act : Act} {errors : ErrorMap} {deed : Deed}
    (member : deed ∈ act.deeds setting errors) :
    (∃ site failure, deed = .enter site failure ∧ act = .enter site failure) ∨
      (∃ inspection, deed = .inspect inspection ∧ act = .inspect inspection) ∨
      (deed.event setting).entered? = none ∧ (deed.event setting).inspected? = none := by
  cases act with
  | enter site failure => exact .inl ⟨site, failure, List.mem_singleton.mp member, rfl⟩
  | inspect inspection =>
    rcases List.mem_cons.mp member with rfl | member
    · exact .inr (.inl ⟨inspection, rfl, rfl⟩)
    · obtain ⟨trial, _, rfl⟩ := List.mem_map.mp member
      exact .inr (.inr ⟨rfl, rfl⟩)
  | leave site shape values =>
    simp only [Act.deeds] at member
    split at member
    all_goals
      obtain rfl := List.mem_singleton.mp member
      exact .inr (.inr ⟨rfl, rfl⟩)

variable {entity : Entity} {seed : ErrorMap}

/-- An entity that is entered is one of the tree, under its key. -/
theorem site_of_entered? {deed : Deed} {path : String}
    (member : deed ∈ account setting entity seed)
    (entered : (deed.event setting).entered? = some path) :
    ∃ address far, deed.mark? = some (address, none) ∧ Reaches entity address far ∧
      path = keyOf address := by
  obtain ⟨act, listed, errors, mine⟩ := comesFrom_of_mem_deeds setting member
  obtain ⟨far, reaches, key⟩ := site_of_mem_acts listed
  rcases opens_of_mem_deeds mine with ⟨site, failure, rfl, rfl⟩ | ⟨inspection, rfl, rfl⟩ | silent
  · obtain rfl := Option.some.inj entered
    exact ⟨_, far, rfl, reaches, key⟩
  · exact nomatch entered
  · exact nomatch silent.1.symm.trans entered

/-- A list of rules that is run is that of a field of an entity of the tree, under its key. -/
theorem place_of_inspected? {deed : Deed} {key : String}
    (member : deed ∈ account setting entity seed)
    (inspected : (deed.event setting).inspected? = some key) :
    ∃ inspection far, deed = .inspect inspection ∧ Reaches entity inspection.site.address far ∧
      inspection.site.path = keyOf inspection.site.address ∧
      far.shape.rules.keys[inspection.position]? = some inspection.field ∧
      key = inspection.key := by
  obtain ⟨act, listed, errors, mine⟩ := comesFrom_of_mem_deeds setting member
  rcases opens_of_mem_deeds mine with ⟨site, failure, rfl, rfl⟩ | ⟨inspection, rfl, rfl⟩ | silent
  · exact nomatch inspected
  · obtain ⟨far, reaches, path, known⟩ := place_of_mem_acts listed
    exact ⟨inspection, far, rfl, reaches, path, known, (Option.some.inj inspected).symm⟩
  · exact nomatch silent.2.symm.trans inspected

/-- What deeds show is shown once, if only deeds at one place show the same. -/
theorem nodup_of_marks {α : Type} {shown : Deed → Option α} {list : List Deed}
    (marks : (list.filterMap Deed.mark?).Nodup)
    (apart : ∀ deed ∈ list, ∀ other ∈ list, ∀ value, shown deed = some value →
      shown other = some value → ∃ mark, deed.mark? = some mark ∧ other.mark? = some mark) :
    (list.filterMap shown).Nodup := by
  -- The marks of two deeds are different wherever they stand in the list.
  refine List.pairwise_filterMap.mpr ((List.pairwise_filterMap.mp marks).imp_of_mem ?_)
  intro deed other here there different value shows again also
  rintro rfl
  obtain ⟨mark, one, two⟩ := apart deed here other there value shows also
  exact different mark one mark two rfl

/-- No key is entered twice. -/
theorem nodup_entered (plain : ∀ shape ∈ entity.shapes, shape.Plain) :
    (((account setting entity seed).map (Deed.event setting)).filterMap Event.entered?).Nodup := by
  rw [List.filterMap_map]
  refine nodup_of_marks (nodup_marks_account setting entity seed)
    fun deed here other there path entered also => ?_
  obtain ⟨address, near, one, reaches, key⟩ := site_of_entered? here entered
  obtain ⟨further, far, two, arrives, same⟩ := site_of_entered? there also
  obtain rfl := reaches.eq_of_segments plain arrives (congrArg Path.segments (key.symm.trans same))
  exact ⟨_, one, two⟩

/-- No key has a list of rules run under it twice. -/
theorem nodup_inspected (plain : ∀ shape ∈ entity.shapes, shape.Plain)
    (together : ∀ shape ∈ entity.shapes, shape.rules.keys.Nodup) :
    (((account setting entity seed).map (Deed.event setting)).filterMap
      Event.inspected?).Nodup := by
  rw [List.filterMap_map]
  refine nodup_of_marks (nodup_marks_account setting entity seed)
    fun deed here other there key inspected also => ?_
  obtain ⟨inspection, near, rfl, reaches, path, known, rfl⟩ := place_of_inspected? here inspected
  obtain ⟨further, far, rfl, arrives, same, again, keys⟩ := place_of_inspected? there also
  have named := (plain _ (reaches.shapes _ (shape_mem_shapes near))).isPlainName_of_getElem? known
  have alike := (plain _ (arrives.shapes _ (shape_mem_shapes far))).isPlainName_of_getElem? again
  rw [Inspection.key, Inspection.key, path, same] at keys
  obtain ⟨around, field⟩ := reaches.eq_of_fieldKey plain arrives named alike keys
  rw [← around] at arrives
  obtain rfl := reaches.unique plain arrives
  have bound := (List.getElem?_eq_some_iff.mp known).1
  have distinct := together _ (reaches.shapes _ (shape_mem_shapes near))
  have place : inspection.position = further.position :=
    (List.getElem?_inj bound distinct).mp (known.trans (field ▸ again.symm))
  refine ⟨_, rfl, ?_⟩
  rw [around, place]
  rfl

end Pass

/-- **Path keys are unique.** In a tree of records of a shape that is built, with names that can
stand between brackets in it and in every shape nested in it, different entities have different path
keys, as have different fields with rules, and the key of a field is at or below the key of an
entity if and only if the field is one of that entity or of one nested in it, or holds the entity as
its single one. A walk uses these keys and no others, and it prepares no two entities, and runs no
two lists of rules, under one key. -/
theorem path_keys_unique {shape : Shape} {record : Entity} (built : shape.Built)
    (named : shape.Everywhere Shape.Named) (conforms : Entity.Conforms shape record) :
    (∀ steps others near far, Reaches record steps near → Reaches record others far →
      (keyOf steps = keyOf others → steps = others) ∧
        ∀ field ∈ near.shape.rules.keys,
          (∀ name ∈ far.shape.rules.keys,
            Path.fieldKey (keyOf steps) field = Path.fieldKey (keyOf others) name →
              steps = others ∧ field = name) ∧
          (Path.isUnder (Path.fieldKey (keyOf steps) field) (keyOf others) ↔
            others <+: steps ∨ ∃ slot, others = steps ++ [⟨slot, field, none⟩])) ∧
      ∀ conduct messages scope seed,
        let events := (validate conduct messages scope seed record).events
        (∀ path key field lineage, .field path key field lineage ∈ events →
          ∃ steps far, Reaches record steps far ∧ field ∈ far.shape.rules.keys ∧
            path = keyOf steps ∧ key = Path.fieldKey path field) ∧
          (∀ path name scope hook, .hook path name scope hook ∈ events →
            ∃ steps far, Reaches record steps far ∧ path = keyOf steps) ∧
          (events.filterMap Event.entered?).Nodup ∧
          ((∀ inner ∈ record.shapes, inner.rules.keys.Nodup) →
            (events.filterMap Event.inspected?).Nodup) := by
  have plain := conforms.plain built named
  constructor
  · intro steps others near far reaches arrives
    refine ⟨fun same => reaches.eq_of_segments plain arrives (congrArg Path.segments same), ?_⟩
    intro field known
    have rules {far : Entity} {others : Address} (arrives : Reaches record others far) :
        ∀ name ∈ far.shape.rules.keys, Path.isPlainName name :=
      (conforms.of_everywhere named _ (arrives.shapes _ (shape_mem_shapes far))).rules
    have own := rules reaches field known
    exact ⟨fun name also => reaches.eq_of_fieldKey plain arrives own (rules arrives name also),
      isUnder_fieldKey_iff plain arrives reaches own⟩
  · intro conduct messages scope seed events
    let setting : Setting := ⟨conduct, messages, scope⟩
    have told : events = (account setting record seed).map (Deed.event setting) :=
      (validate_eq_told conduct messages scope seed record).1
    rw [told]
    refine ⟨?_, ?_, nodup_entered plain, nodup_inspected plain⟩
    · intro path key field lineage member
      obtain ⟨deed, listed, event⟩ := List.mem_map.mp member
      obtain ⟨inspection, far, rfl, reaches, around, known, -⟩ :=
        place_of_inspected? listed (congrArg Event.inspected? event)
      obtain ⟨rfl, rfl, rfl, -⟩ := Event.field.inj event
      exact ⟨_, far, reaches, List.mem_of_getElem? known, around, rfl⟩
    · intro path name scope hook member
      obtain ⟨deed, listed, event⟩ := List.mem_map.mp member
      obtain ⟨act, done, errors, mine⟩ := comesFrom_of_mem_deeds setting listed
      obtain ⟨far, reaches, key⟩ := site_of_mem_acts done
      rw [← (of_mem_act_deeds setting mine).1] at reaches key
      cases deed with
      | enter site failure =>
        obtain ⟨rfl, -⟩ := Event.hook.inj event
        exact ⟨_, far, reaches, key⟩
      | leave site hook failure =>
        obtain ⟨rfl, -⟩ := Event.hook.inj event
        exact ⟨_, far, reaches, key⟩
      | inspect inspection => exact nomatch event
      | trial trial => exact nomatch event

/-- A part with rules for a field that is named like a position. -/
def partShape : Shape := ⟨"part", ["0"], [], [("0", [requiredRule])], []⟩

/-- A set of parts with rules for the fields that hold its parts. -/
def setShape : Shape :=
  ⟨"set", [], [], [("items", [requiredRule]), ("gift", [requiredRule])],
    [⟨"items", .many, partShape⟩, ⟨"gift", .one, partShape⟩]⟩

/-- A set of two parts with one more as a gift. -/
def giftSet : Entity :=
  ⟨setShape, [], [.many [⟨partShape, [], []⟩, ⟨partShape, [], []⟩], .one ⟨partShape, [], []⟩]⟩

/-- The rules for the list are not at or below a part in it, those for the gift are at the gift. -/
theorem path_keys_unique_giftSet :
    setShape.Built ∧ setShape.Everywhere Shape.Named ∧ Entity.Conforms setShape giftSet ∧
      Path.isUnder (Path.fieldKey (keyOf []) "gift") (keyOf [⟨1, "gift", none⟩]) ∧
      ¬ Path.isUnder (Path.fieldKey (keyOf []) "items") (keyOf [⟨0, "items", some 0⟩]) ∧
      let events := (validate .record ⟨[("required", ⟨[.text "missing".toList]⟩)]⟩ .save .empty
        giftSet).events
      events.filterMap Event.entered? = ["", "items[0]", "items[1]", "gift"] ∧
      events.filterMap Event.inspected? =
        ["items", "gift", "items[0][0]", "items[1][0]", "gift[0]"] ∧
      (events.filterMap Event.inspected?).Nodup := by
  have part : partShape.Built :=
    .mk ⟨⟨"part", ["0"], [], [("0", [requiredRule.decl])], []⟩, .standard {}, rfl⟩ nofun
  have inner : partShape.Everywhere Shape.Named :=
    .mk ⟨by decide, nofun⟩ nofun
  have shapes : ∀ nested ∈ setShape.nested, nested.shape = partShape := by
    simp [setShape]
  have built : setShape.Built := by
    let rules := setShape.rules.map fun entry => (entry.1, entry.2.map Rule.decl)
    refine .mk ⟨⟨"set", [], [], rules, setShape.nested⟩, .standard {}, rfl⟩ ?_
    exact fun nested member => (shapes nested member).symm ▸ part
  have named : setShape.Everywhere Shape.Named := by
    refine .mk ⟨by decide, by simp [setShape, Path.isPlainName]⟩ ?_
    exact fun nested member => (shapes nested member).symm ▸ inner
  have whole : Entity.Conforms partShape ⟨partShape, [], []⟩ := .mk .nil (.nil _)
  have conforms : Entity.Conforms setShape giftSet := by
    refine .mk (.cons (.many ?_) (.cons (.one whole) .nil)) (.nil _)
    simp [whole]
  obtain ⟨apart, passes⟩ := path_keys_unique built named conforms
  have first : giftSet.shape.nested[0]? = some ⟨"items", .many, partShape⟩ := rfl
  have second : giftSet.shape.nested[1]? = some ⟨"gift", .one, partShape⟩ := rfl
  have list : Reaches giftSet [⟨0, "items", some 0⟩] ⟨partShape, [], []⟩ :=
    .step (.mk first rfl (.element rfl)) (.here _)
  have gift : Reaches giftSet [⟨1, "gift", none⟩] ⟨partShape, [], []⟩ :=
    .step (.mk second rfl (.single _)) (.here _)
  have single := (apart [] _ _ _ (.here _) gift).2 "gift" (by decide)
  have many := (apart [] _ _ _ (.here _) list).2 "items" (by decide)
  obtain ⟨-, -, -, once⟩ := passes .record ⟨[("required", ⟨[.text "missing".toList]⟩)]⟩ .save .empty
  refine ⟨built, named, conforms, single.2.mpr (.inr ⟨1, rfl⟩), fun under => ?_, rfl, rfl,
    once (by decide)⟩
  have := many.2.mp under
  simp at this

end Walk

end Scrutiny
