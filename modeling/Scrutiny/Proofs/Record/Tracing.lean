import Scrutiny.Proofs.Record.Mirroring
import Scrutiny.Proofs.Walk.Brackets
import Scrutiny.Proofs.Walk.Composition
import Scrutiny.Validation

/-! # From keys back to the document

The steps to a record in a tree, names of fields and positions in lists, lead to an object in the
document that the tree was copied from, and the record mirrors that object. So a test of a declared
field is given what the object has under the name of the field, and null if it has nothing there.
The key under which the test records is made of the same steps and the same name
(`Schema.validate_traces`).
-/

namespace Scrutiny

namespace Walk

/-- What stands in a document where a step leads to: a member, or an item of the list there. -/
def Turn.follow? (turn : Turn) (document : Value) : Option Value := do
  let held ← document.member? turn.field
  match turn.index, held with
  | none, held => some held
  | some index, .list items => items[index]?
  | some _, _ => none

/-- What stands in a document where steps lead to. -/
def follow? : Address → Value → Option Value
  | [], document => some document
  | turn :: rest, document => (turn.follow? document).bind (follow? rest)

/-- Where a step leads from a record, it leads in the document to what the nested record mirrors. -/
theorem Leads.follow? {entity child : Entity} {turn : Turn} {members : Entries Value}
    (leads : Leads entity turn child) (mirrors : entity.Mirrors members) :
    ∃ inner, turn.follow? (.object members) = some (.object inner) ∧ child.Mirrors inner := by
  obtain @⟨position, nested, slot, index, _, declared, filled, holds⟩ := leads
  obtain @⟨shape, values, _, slots, _, all⟩ := mirrors
  have place : (shape.nested.map fun nested => Conduct.stored members nested.field)[position]? =
      some (Conduct.stored members nested.field) := by
    rw [List.getElem?_map, declared, Option.map_some]
  have shows := forall₂_getElem? all filled place
  generalize held : Conduct.stored members nested.field = value at shows
  cases holds with
  | single =>
    cases shows with
    | @one _ inner child_mirrors =>
      have found := Conduct.get?_of_stored held (by simp)
      refine ⟨inner, ?_, child_mirrors⟩
      simp only [Turn.follow?, Value.member?, found]
      rfl
  | @element children index _ listed =>
    cases shows with
    | empty => exact absurd listed (by simp)
    | @many _ items mirror =>
      have found := Conduct.get?_of_stored held (by simp)
      have bound : index < items.length := by
        rw [← mirror.length_eq]
        exact (List.getElem?_eq_some_iff.mp listed).1
      have item : items[index]? = some items[index] := List.getElem?_eq_getElem bound
      refine ⟨items[index], ?_, forall₂_getElem? mirror listed item⟩
      simp only [Turn.follow?, Value.member?, found, Option.bind_eq_bind, Option.bind_some,
        List.getElem?_map, item, Option.map_some]

/-- The steps to a nested record lead to the object that it mirrors. -/
theorem Reaches.follow? {entity far : Entity} {steps : Address} {members : Entries Value}
    (reaches : Reaches entity steps far) (mirrors : entity.Mirrors members) :
    ∃ inner, follow? steps (.object members) = some (.object inner) ∧ far.Mirrors inner := by
  induction reaches generalizing members with
  | here => exact ⟨members, rfl, mirrors⟩
  | step leads _ ih =>
    obtain ⟨between, found, child_mirrors⟩ := leads.follow? mirrors
    obtain ⟨inner, further, far_mirrors⟩ := ih child_mirrors
    exact ⟨inner, by rw [Walk.follow?, found, Option.bind_some, further], far_mirrors⟩

/-- The tests of a field look at what its entity shows. -/
theorem input_of_mem_inspections {setting : Setting} {site : Site} {shape : Shape}
    {values : Entries Value} {rules : Entries (List Rule)} {position : Nat}
    {inspection : Inspection}
    (member : inspection ∈ site.inspections setting shape values position rules) :
    inspection.input = inputOf setting shape values site.lineage inspection.field := by
  induction rules generalizing position with
  | nil => exact absurd member List.not_mem_nil
  | cons entry rest ih =>
    rcases List.mem_cons.mp member with rfl | later
    · rfl
    · exact ih later

/-- The fields of an entity are inspected where it stands, with what it is after `before`. -/
theorem input_of_mem_acts {setting : Setting} {entity : Entity} {inspection : Inspection}
    (member : .inspect inspection ∈ acts setting entity [] "" []) :
    ∃ far, Reaches entity inspection.site.address far ∧
      inspection.site.path = inspection.site.address.foldl Turn.key "" ∧
      inspection.input = inputOf setting far.shape
        (setting.conduct.before far.shape setting.scope far.values).values inspection.site.lineage
        inspection.field := by
  obtain ⟨steps, far, lineage, reaches, own⟩ := doneAt_of_mem_acts _ entity [] "" [] _ member
  have site : inspection.site = _ := site_of_mem_ownActs own
  refine ⟨far, by rw [site]; exact reaches, by rw [site]; rfl, ?_⟩
  rcases List.mem_cons.mp own with same | own
  · exact absurd same (by simp)
  rcases List.mem_append.mp own with own | own
  · obtain ⟨other, listed, same⟩ := List.mem_map.mp own
    obtain rfl := Act.inspect.inj same
    rw [site]
    exact input_of_mem_inspections listed
  · exact absurd (List.mem_singleton.mp own) (by simp)

/-- The fields of a record are inspected with the values that they have in the record at the address
of the inspection. -/
theorem value_of_mem_acts {messages : Messages} {scope : Scope} {entity : Entity}
    {inspection : Inspection}
    (member : .inspect inspection ∈ acts ⟨.record, messages, scope⟩ entity [] "" []) :
    ∃ far, Reaches entity inspection.site.address far ∧
      inspection.site.path = inspection.site.address.foldl Turn.key "" ∧
      inspection.input.value = Conduct.stored far.values inspection.field := by
  obtain ⟨far, reaches, path, input⟩ := input_of_mem_acts member
  exact ⟨far, reaches, path, congrArg CheckInput.value input⟩

/-- Every key with errors is that of a test that was called, or was there before. -/
theorem exists_trial_of_mem_keys {list : List Deed} {errors : ErrorMap} {key : String}
    (member : key ∈ (list.foldl Deed.record errors).keys) :
    key ∈ errors.keys ∨ ∃ trial, .trial trial ∈ list ∧ trial.inspection.key = key := by
  induction list generalizing errors with
  | nil => exact .inl member
  | cons deed rest ih =>
    rcases ih member with before | ⟨trial, later, same⟩
    · cases deed with
      | trial called =>
        rcases ErrorMap.mem_keys_extendAt before with old | rfl
        · exact .inl old
        · exact .inr ⟨called, List.mem_cons_self, rfl⟩
      | _ => exact .inl before
    · exact .inr ⟨trial, List.mem_cons_of_mem _ later, same⟩

end Walk

/-- **Keys lead back to the document.** When a document is validated, every test that is called for
a declared field is given what the document has where the steps to its record lead and then under
the name of the field, and null if there is no such member. The key under which it records is made
of the same steps, positions in lists included, and of that name, and all errors stand under keys of
tests that were called. -/
theorem Schema.validate_traces (schema : Schema) {name operations : String} {shape : Shape}
    {scope : Scope} {document : Value}
    (parsed : schema.names.parseScope operations = .ok scope)
    (known : schema.shape name = .ok shape)
    (bound : (populate .record .plain (Entity.fresh shape) document).failure = none) :
    let record := (populate .record .plain (Entity.fresh shape) document).result
    let setting : Walk.Setting := ⟨.record, schema.messages, scope⟩
    let account := Walk.account setting record .empty
    let walk := Scrutiny.validate .record schema.messages scope .empty record
    schema.validate name operations document = walk.outcome.mapError .failure ∧
      walk.events = account.map (Walk.Deed.event setting) ∧
      (∀ trial, .trial trial ∈ account →
        let address := trial.inspection.site.address
        let field := trial.inspection.field
        trial.inspection.key = Path.fieldKey (address.foldl Walk.Turn.key "") field ∧
          ∃ (far : Entity) (members : Entries Value), Walk.Reaches record address far ∧
            Walk.follow? address document = some (.object members) ∧
            (field ∈ far.shape.fields →
              trial.inspection.input.value = (members.get? field).getD .null)) ∧
      ∀ report, walk.outcome = .ok report → ∀ key ∈ report.errors.keys,
        ∃ trial, .trial trial ∈ account ∧ trial.inspection.key = key := by
  intro record setting account walk
  obtain ⟨events, outcome⟩ := validate_eq_told .record schema.messages scope .empty record
  refine ⟨?_, events, fun trial called => ?_, fun report done key member => ?_⟩
  · simp only [Schema.validate, parsed, known, Except.mapError, bind, Except.bind, bound]
    rfl
  · obtain ⟨members, rfl, mirrors⟩ := populate_mirrors bound
    obtain ⟨act, listed, errors, made⟩ := Walk.comesFrom_of_mem_deeds setting called
    obtain rfl := (Walk.of_mem_act_deeds setting made).2.2 trial rfl
    obtain ⟨far, reaches, path, value⟩ := Walk.value_of_mem_acts listed
    obtain ⟨inner, found, far_mirrors⟩ := reaches.follow? mirrors
    refine ⟨by rw [Walk.Inspection.key, path], far, inner, reaches, found, fun declared => ?_⟩
    cases far_mirrors with
    | mk values _ => exact value.trans (values _ declared)
  · have told := Stretch.errors_of_outcome (outcome.symm.trans done)
    rw [told] at member
    exact (Walk.exists_trial_of_mem_keys member).resolve_left List.not_mem_nil

/-- Orders with lines that have to have a quantity. -/
def Shape.checkedOrder : Shape :=
  ⟨"order", ["id"], [], [],
    [⟨"lines", .many, ⟨"line", ["qty"], [], [("qty", [Walk.requiredRule])], []⟩⟩]⟩

/-- The key of the error in the second line leads to the second item of the list. -/
theorem Schema.validate_traces_checkedOrder :
    let schema : Schema :=
      ⟨.standard, [("order", .checkedOrder)], ⟨[("required", ⟨[.text "missing".toList]⟩)]⟩⟩
    let second : Entries Value := [("note", .string "as before")]
    let document : Value := .object [("lines", .list [.object [("qty", .string "two")],
      .object second])]
    let copied := populate .record .plain (Entity.fresh .checkedOrder) document
    schema.names.parseScope "save" = .ok .save ∧ schema.shape "order" = .ok .checkedOrder ∧
      copied.failure = none ∧
      (schema.validate "order" "save" document).toOption =
        some ⟨⟨[("lines[1][qty]", ["missing"])]⟩, false⟩ ∧
      Walk.follow? [⟨0, "lines", some 1⟩] document = some (.object second) := by
  intro schema second document copied
  have parsed : schema.names.parseScope "save" = .ok .save := rfl
  have known : schema.shape "order" = .ok .checkedOrder := rfl
  have bound : copied.failure = none := rfl
  obtain ⟨outcome, _⟩ := Schema.validate_traces schema parsed known bound
  refine ⟨parsed, known, bound, (congrArg Except.toOption outcome).trans ?_, rfl⟩
  decide +kernel

end Scrutiny
