import Scrutiny.Proofs.Walk.Composition

/-! # A scope is a filter on rules

Over records whose rules in scope are those of the built-in checks, a walk for the operations of a
scope ends as the walk for all operations of the tree in which only the rules in scope are left
(`validate_record_within`). A rule out of scope is passed over whatever its flags are, and the tests
of the others do not look at the scope.
-/

namespace Scrutiny

/-- The rules that apply to an operation of a scope. -/
def Rule.inScope (scope : Scope) (rules : List Rule) : List Rule :=
  rules.filter fun rule => rule.decl.scope.intersects scope

mutual

/-- A shape in which, at every depth, only the rules in scope are left. Fields all of whose rules
are out of scope have an empty list. -/
def Shape.within (scope : Scope) : Shape → Shape
  | ⟨name, fields, labels, rules, nested⟩ =>
    ⟨name, fields, labels, rules.mapValues (Rule.inScope scope), nestedWithin scope nested⟩

def nestedWithin (scope : Scope) : List (Nested Shape) → List (Nested Shape)
  | [] => []
  | ⟨field, nesting, shape⟩ :: others =>
    ⟨field, nesting, shape.within scope⟩ :: nestedWithin scope others

end

mutual

/-- A tree with other shapes in the place of its own. -/
def Entity.reshape (change : Shape → Shape) : Entity → Entity
  | ⟨shape, values, slots⟩ => ⟨change shape, values, slotsReshape change slots⟩

def slotsReshape (change : Shape → Shape) : List (Slot Entity) → List (Slot Entity)
  | [] => []
  | slot :: slots => slotReshape change slot :: slotsReshape change slots

def slotReshape (change : Shape → Shape) : Slot Entity → Slot Entity
  | .vacant => .vacant
  | .one child => .one (child.reshape change)
  | .many children => .many (elementsReshape change children)

def elementsReshape (change : Shape → Shape) : List Entity → List Entity
  | [] => []
  | child :: children => child.reshape change :: elementsReshape change children

end

/-- The tree in which only the rules in scope are left. -/
def Entity.within (scope : Scope) : Entity → Entity :=
  Entity.reshape (Shape.within scope)

section Shapes

/-- A shape within a scope has the rules in scope, and shapes within it nested in it. -/
theorem Shape.within_eq (scope : Scope) (shape : Shape) :
    shape.within scope = { shape with
      rules := shape.rules.mapValues (Rule.inScope scope)
      nested := nestedWithin scope shape.nested } := by
  obtain ⟨name, fields, labels, rules, nested⟩ := shape
  rw [within]

/-- The rules within a scope are those in scope, field by field. -/
theorem Shape.rules_within (scope : Scope) (shape : Shape) :
    (shape.within scope).rules = shape.rules.mapValues (Rule.inScope scope) := by
  rw [within_eq]

theorem Shape.label_within (scope : Scope) (shape : Shape) :
    (shape.within scope).label = shape.label := by
  rw [within_eq]
  rfl

/-- The entities nested in one look at the same fields. -/
theorem Shape.visibleFields_within (scope : Scope) (shape : Shape) :
    (shape.within scope).visibleFields = shape.visibleFields := by
  have keys : (shape.rules.mapValues (Rule.inScope scope)).keys = shape.rules.keys :=
    List.map_map
  rw [visibleFields, visibleFields, rules_within, keys, within_eq]

/-- The fields for nested entities do not depend on the scope. -/
theorem map_field_nestedWithin (scope : Scope) (nested : List (Nested Shape)) :
    (nestedWithin scope nested).map Nested.field = nested.map Nested.field := by
  induction nested with
  | nil => rw [nestedWithin]
  | cons first others ih => rw [nestedWithin, List.map_cons, List.map_cons, ih]

theorem Shape.nested_within (scope : Scope) (shape : Shape) :
    (shape.within scope).nested.map Nested.field = shape.nested.map Nested.field := by
  rw [within_eq]
  exact map_field_nestedWithin scope shape.nested

/-- What an entity shows does not depend on the scope. -/
theorem Entity.snapshot_within (scope : Scope) (entity : Entity) :
    (entity.within scope).snapshot .record = entity.snapshot .record := by
  obtain ⟨shape, values, slots⟩ := entity
  simp only [within, reshape, snapshot, Shape.visibleFields_within]
  rw [Shape.within_eq]

variable {change : Shape → Shape}

mutual

/-- The shapes of an entity with changed shapes are its shapes, changed. -/
theorem shapes_reshape : ∀ entity : Entity,
    (entity.reshape change).shapes = entity.shapes.map change
  | ⟨shape, values, slots⟩ => by
    rw [Entity.reshape, Entity.shapes, Entity.shapes, List.map_cons, slotsShapes_reshape slots]

theorem slotsShapes_reshape : ∀ slots : List (Slot Entity),
    slotsShapes (slotsReshape change slots) = (slotsShapes slots).map change
  | [] => by rw [slotsReshape, slotsShapes, List.map_nil]
  | slot :: slots => by
    rw [slotsReshape, slotsShapes, slotsShapes, List.map_append, slotShapes_reshape slot,
      slotsShapes_reshape slots]

theorem slotShapes_reshape : ∀ slot : Slot Entity,
    slotShapes (slotReshape change slot) = (slotShapes slot).map change
  | .vacant => by rw [slotReshape, slotShapes, List.map_nil]
  | .one child => by rw [slotReshape, slotShapes, slotShapes, shapes_reshape child]
  | .many children => by
    rw [slotReshape, slotShapes, slotShapes, elementShapes_reshape children]

theorem elementShapes_reshape : ∀ children : List Entity,
    elementShapes (elementsReshape change children) = (elementShapes children).map change
  | [] => by rw [elementsReshape, elementShapes, List.map_nil]
  | child :: children => by
    rw [elementsReshape, elementShapes, elementShapes, List.map_append, shapes_reshape child,
      elementShapes_reshape children]

end

end Shapes

namespace Walk

section Nodes

/-- The node of an entity in the tree with other shapes. -/
def Node.reshape (change : Shape → Shape) (node : Node) : Node :=
  ⟨node.entity.reshape change, node.path, node.around.map (Entity.reshape change)⟩

variable {change : Shape → Shape} {messages : Messages} {scope other : Scope}

mutual

/-- Shapes that hold the same fields for nested entities do not change where these are. -/
theorem nodes_reshape
    (held : ∀ shape, (change shape).nested.map Nested.field = shape.nested.map Nested.field) :
    ∀ (entity : Entity) (path : String) (around : List Entity),
    nodes ⟨.record, messages, other⟩ (entity.reshape change) path
        (around.map (Entity.reshape change)) =
      (nodes ⟨.record, messages, scope⟩ entity path around).map (Node.reshape change)
  | ⟨shape, values, slots⟩, path, around => by
    have inner := slotsNodes_reshape held _ _ (held shape) slots path
      (around ++ [⟨shape, values, slots⟩])
    rw [List.map_append, List.map_singleton, Entity.reshape] at inner
    rw [Entity.reshape, nodes, nodes, List.map_cons]
    exact congrArg (List.cons _) inner

/-- The nodes in the fields of an entity with changed shapes are those without, changed. -/
theorem slotsNodes_reshape
    (held : ∀ shape, (change shape).nested.map Nested.field = shape.nested.map Nested.field) :
    ∀ (changed nested : List (Nested Shape)),
    changed.map Nested.field = nested.map Nested.field →
    ∀ (slots : List (Slot Entity)) (path : String) (around : List Entity),
    slotsNodes ⟨.record, messages, other⟩ changed (slotsReshape change slots) path
        (around.map (Entity.reshape change)) =
      (slotsNodes ⟨.record, messages, scope⟩ nested slots path around).map (Node.reshape change)
  | [], [], _, slots, _, _ => by simp only [slotsNodes, List.map_nil]
  | [], _ :: _, same, _, _, _ => absurd same (by simp)
  | _ :: _, [], same, _, _, _ => absurd same (by simp)
  | _ :: _, _ :: _, _, [], _, _ => by simp only [slotsReshape, slotsNodes, List.map_nil]
  | first :: changed, nested :: others, same, slot :: slots, path, around => by
    obtain ⟨field, rest⟩ := List.cons_eq_cons.mp same
    rw [slotsReshape, slotsNodes, slotsNodes, List.map_append, field,
      slotNodes_reshape held slot _ around,
      slotsNodes_reshape held changed others rest slots path around]

theorem slotNodes_reshape
    (held : ∀ shape, (change shape).nested.map Nested.field = shape.nested.map Nested.field) :
    ∀ (slot : Slot Entity) (key : String) (around : List Entity),
    slotNodes ⟨.record, messages, other⟩ (slotReshape change slot) key
        (around.map (Entity.reshape change)) =
      (slotNodes ⟨.record, messages, scope⟩ slot key around).map (Node.reshape change)
  | .vacant, _, _ => by simp only [slotReshape, slotNodes, List.map_nil]
  | .one child, key, around => by
    rw [slotReshape, slotNodes, slotNodes, nodes_reshape held child key around]
  | .many children, key, around => by
    rw [slotReshape, slotNodes, slotNodes, elementNodes_reshape held children key 0 around]

theorem elementNodes_reshape
    (held : ∀ shape, (change shape).nested.map Nested.field = shape.nested.map Nested.field) :
    ∀ (children : List Entity) (key : String) (index : Nat) (around : List Entity),
    elementNodes ⟨.record, messages, other⟩ (elementsReshape change children) key index
        (around.map (Entity.reshape change)) =
      (elementNodes ⟨.record, messages, scope⟩ children key index around).map
        (Node.reshape change)
  | [], _, _, _ => by simp only [elementsReshape, elementNodes, List.map_nil]
  | child :: children, key, index, around => by
    rw [elementsReshape, elementNodes, elementNodes, List.map_append,
      nodes_reshape held child _ around, elementNodes_reshape held children key _ around]

end

end Nodes

section Rules

variable {messages : Messages} {scope : Scope}

/-- A rule in scope is in the scope of all operations. -/
theorem intersects_all {one other : Scope} (shared : one.intersects other) :
    one.intersects .all := by
  have kept : one.bits &&& Scope.all.bits = one.bits := UInt32.and_neg_one
  simp only [Scope.intersects, kept, bne_iff_ne, ne_eq] at shared ⊢
  rintro none
  exact shared (by rw [none, UInt32.zero_and])

/-- The rules out of scope are passed over. -/
theorem runRules_inScope (key : String) (input : CheckInput) (rules : List Rule)
    (errors : ErrorMap) :
    runRules key input rules errors =
      runRules key input (Rule.inScope input.scope rules) errors := by
  induction rules generalizing errors with
  | nil => rfl
  | cons rule rest ih =>
    by_cases inside : rule.decl.scope.intersects input.scope
    · have kept : Rule.inScope input.scope (rule :: rest) =
          rule :: Rule.inScope input.scope rest := List.filter_cons_of_pos inside
      rw [kept]
      simp only [runRules, ih]
    · have passed : Rule.inScope input.scope (rule :: rest) = Rule.inScope input.scope rest :=
        List.filter_cons_of_neg inside
      rw [passed, runRules, ih]
      simp only [inside, Bool.not_false, ↓reduceIte]

/-- The call in the tree in which only the rules in scope are left. -/
def Call.within (scope : Scope) (call : Call) : Call :=
  ⟨call.node.reshape (Shape.within scope), call.field, Rule.inScope scope call.rules⟩

/-- The calls of the tree within a scope are those of the tree, with the rules in scope. -/
theorem calls_within (entity : Entity) :
    calls ⟨.record, messages, .all⟩ (entity.within scope) =
      (calls ⟨.record, messages, scope⟩ entity).map (Call.within scope) := by
  have order : nodes ⟨.record, messages, .all⟩ (entity.reshape (Shape.within scope)) ""
      ([].map (Entity.reshape (Shape.within scope))) =
      (nodes ⟨.record, messages, scope⟩ entity "" []).map (Node.reshape (Shape.within scope)) :=
    nodes_reshape (Shape.nested_within scope) entity "" []
  have own (node : Node) : (node.reshape (Shape.within scope)).calls =
      node.calls.map (Call.within scope) := by
    obtain ⟨⟨shape, values, slots⟩, path, around⟩ := node
    simp only [Node.calls, Node.reshape, Entity.reshape, Shape.rules_within, Entries.mapValues,
      List.map_map]
    rfl
  rw [List.map_nil] at order
  rw [calls, calls, Entity.within, order, List.flatMap_map, List.map_flatMap]
  exact congrArg (List.flatMap · _) (funext own)

/-- A test of the field is given the same but for the scope. -/
theorem Call.input_within (call : Call) :
    (call.within scope).input ⟨.record, messages, .all⟩ =
      { call.input ⟨.record, messages, scope⟩ with scope := .all } := by
  obtain ⟨⟨⟨shape, values, slots⟩, path, around⟩, field, rules⟩ := call
  have lineage : (around.map (Entity.within scope)).map (Entity.snapshot .record) =
      around.map (Entity.snapshot .record) := by
    rw [List.map_map]
    exact List.map_congr_left fun entity _ => Entity.snapshot_within scope entity
  simp only [Call.input, Call.lineage, Call.within, Node.reshape, Entity.reshape, inputOf,
    Shape.label_within]
  rw [show around.map (Entity.reshape (Shape.within scope)) = around.map (Entity.within scope) from
    rfl, lineage]

/-- What is recorded is recorded as it is. -/
theorem carries_id (key : String) : ErrorMap.Carries id (fun _ => True) key key where
  record _ _ _ := rfl
  known _ _ _ := trivial

/-- A call goes on as that of the tree in which only the rules in scope are left. -/
theorem Call.run_within {call : Call}
    (builtIn : ∀ rule ∈ call.rules, rule.decl.scope.intersects scope → rule.BuiltIn)
    (errors : ErrorMap) :
    Stretch.Follows id (fun _ => True) (call.run ⟨.record, messages, scope⟩ errors)
      ((call.within scope).run ⟨.record, messages, .all⟩ errors) := by
  have inside {rule : Rule} (member : rule ∈ Rule.inScope scope call.rules) :
      rule ∈ call.rules ∧ rule.decl.scope.intersects scope :=
    List.mem_filter.mp member
  have follows : Stretch.Follows id (fun _ => True)
      (runRules call.key (call.input ⟨.record, messages, scope⟩) (Rule.inScope scope call.rules)
        errors)
      (runRules call.key ((call.within scope).input ⟨.record, messages, .all⟩)
        (Rule.inScope scope call.rules) errors) := by
    rw [Call.input_within]
    refine runRules_follows (carries_id call.key) (fun rule member => ?_) (fun rule member => ?_)
      (fun _ _ _ _ _ => rfl) trivial
    · obtain ⟨_, shared⟩ := inside member
      exact (intersects_all shared).trans shared.symm
    · obtain ⟨listed, shared⟩ := inside member
      exact (builtIn rule listed shared).judged.apart (call.input _) (call.input _).lineage .all
  have passed := runRules_inScope call.key (call.input ⟨.record, messages, scope⟩) call.rules errors
  simp only [Call.run, passed]
  exact ⟨follows.errors, follows.flow, trivial⟩

/-- Calls go on as those of the tree in which only the rules in scope are left. -/
theorem runCalls_within {list : List Call}
    (builtIn : ∀ call ∈ list, ∀ rule ∈ call.rules, rule.decl.scope.intersects scope → rule.BuiltIn)
    (errors : ErrorMap) :
    Stretch.Follows id (fun _ => True) (runCalls ⟨.record, messages, scope⟩ list errors)
      (runCalls ⟨.record, messages, .all⟩ (list.map (Call.within scope)) errors) := by
  induction list generalizing errors with
  | nil => exact .still trivial
  | cons call rest ih =>
    have first :
        Stretch.Follows id (fun _ => True) (call.run ⟨.record, messages, scope⟩ errors) _ :=
      Call.run_within (builtIn call List.mem_cons_self) errors
    exact first.andThen fun errors _ =>
      ih (fun call member => builtIn call (List.mem_cons_of_mem _ member)) errors

end Rules

end Walk

/-- The rules in scope of a tree are those of built-in checks. -/
def Entity.BuiltInWithin (scope : Scope) (entity : Entity) : Prop :=
  ∀ shape ∈ entity.shapes, ∀ entry ∈ shape.rules, ∀ rule ∈ entry.2,
    rule.decl.scope.intersects scope → rule.BuiltIn

/-- It depends on the rules in scope alone whether these are those of built-in checks. -/
theorem Entity.BuiltInWithin.of_within_eq {scope : Scope} {entity other : Entity}
    (builtIn : entity.BuiltInWithin scope) (same : other.within scope = entity.within scope) :
    other.BuiltInWithin scope := by
  intro shape member entry listed rule own shared
  have shapes : other.shapes.map (Shape.within scope) = entity.shapes.map (Shape.within scope) := by
    rw [← shapes_reshape, ← shapes_reshape]
    exact congrArg Entity.shapes same
  obtain ⟨twin, known, alike⟩ :=
    List.mem_map.mp (shapes ▸ List.mem_map_of_mem (f := Shape.within scope) member)
  have rules : twin.rules.mapValues (Rule.inScope scope) =
      shape.rules.mapValues (Rule.inScope scope) := by
    rw [← Shape.rules_within, alike, Shape.rules_within]
  have left :
      (entry.1, Rule.inScope scope entry.2) ∈ twin.rules.mapValues (Rule.inScope scope) := by
    rw [rules]
    exact List.mem_map_of_mem (f := fun entry => (entry.1, Rule.inScope scope entry.2)) listed
  obtain ⟨pair, found, equal⟩ := List.mem_map.mp left
  have kept : rule ∈ Rule.inScope scope pair.2 := by
    rw [show Rule.inScope scope pair.2 = _ from congrArg Prod.snd equal]
    exact List.mem_filter.mpr ⟨own, shared⟩
  exact builtIn twin known pair found rule (List.mem_filter.mp kept).1 shared

/-- **A scope is a filter on rules.** Where the rules in scope are those of built-in checks, a walk
over records for the operations of a scope ends as the walk for all operations of the tree in which
only the rules in scope are left. So trees that differ in rules out of scope alone, whatever the
flags, the arguments and the tests of these are, have the same report. -/
theorem validate_record_within (messages : Messages) (scope : Scope) (seed : ErrorMap)
    (entity : Entity) (builtIn : entity.BuiltInWithin scope) :
    (validate .record messages scope seed entity).outcome =
        (validate .record messages .all seed (entity.within scope)).outcome ∧
      ∀ other : Entity, other.within scope = entity.within scope →
        (validate .record messages scope seed other).outcome =
          (validate .record messages scope seed entity).outcome := by
  have filtered (entity : Entity) (builtIn : entity.BuiltInWithin scope) :
      (validate .record messages scope seed entity).outcome =
        (validate .record messages .all seed (entity.within scope)).outcome := by
    have ruled : ∀ call ∈ Walk.calls ⟨.record, messages, scope⟩ entity, ∀ rule ∈ call.rules,
        rule.decl.scope.intersects scope → rule.BuiltIn := by
      intro call member
      obtain ⟨shape, known, listed⟩ := Walk.rules_of_mem_calls _ member
      exact builtIn shape known _ listed
    have follows : Stretch.Follows id (fun _ => True)
        (Walk.runCalls ⟨.record, messages, scope⟩ _ seed) _ := Walk.runCalls_within ruled seed
    rw [validate_outcome_eq Conduct.record_quiet, validate_outcome_eq Conduct.record_quiet,
      Walk.calls_within, follows.outcome]
    cases (Walk.runCalls ⟨.record, messages, scope⟩ _ seed).outcome <;> rfl
  refine ⟨filtered entity builtIn, fun other same => ?_⟩
  rw [filtered other (builtIn.of_within_eq same), same, filtered entity builtIn]

namespace Walk

/-- An order in which a rule for deleting, which would end the walk, stands before the rule that
there is a number, and a line in which one stands alone. -/
def lockedOrder : Entity :=
  let locked : Rule := ⟨⟨"locked", [], .delete, { exitOnSuccess := true }⟩, fun _ => .ok .abort⟩
  let line : Shape := ⟨"line", ["qty"], [], [("qty", [locked])], []⟩
  ⟨⟨"order", ["id"], [], [("id", [locked, requiredRule])], [⟨"lines", .many, line⟩]⟩, [],
    [.many [⟨line, [], []⟩]]⟩

end Walk

/-- Nothing is aborted where an order is saved. -/
theorem validate_record_within_lockedOrder :
    let messages : Messages := ⟨[("required", ⟨[.text "missing".toList]⟩)]⟩
    Walk.lockedOrder.BuiltInWithin .save ∧
      (validate .record messages .save .empty Walk.lockedOrder).outcome.toOption =
        some ⟨⟨[("id", ["missing"])]⟩, false⟩ := by
  intro messages
  have builtIn : Walk.lockedOrder.BuiltInWithin .save := by
    intro shape member entry listed rule own shared
    have only : rule.decl.scope = .delete ∨ rule = Walk.requiredRule := by
      revert shape entry rule
      simp [Walk.lockedOrder, Entity.shapes, slotsShapes, slotShapes, elementShapes]
    rcases only with apart | rfl
    · rw [apart] at shared
      exact absurd shared (by decide)
    · exact ⟨{}, "id", rfl⟩
  refine ⟨builtIn, (congrArg Except.toOption
    (validate_record_within messages .save .empty Walk.lockedOrder builtIn).1).trans ?_⟩
  decide +kernel

end Scrutiny
