import Scrutiny.Proofs.Check.Judgement
import Scrutiny.Proofs.ErrorMap.Rerooting
import Scrutiny.Proofs.Walk.Ancestry
import Scrutiny.Proofs.Walk.Simulation

/-! # Validating a tree piece by piece

Where names are plain and the checks are the built-in ones, a walk over records is put together from
its pieces: the rules of the root, and then every entity nested directly in it, validated by itself
as the root of its own tree. The errors of such a piece go under the key that the entity has in the
whole tree, and the first piece that aborts or fails is the last (`validate_record_pieces`).
-/

namespace Scrutiny

/-- The entities that a field of the root of a tree holds, with their path keys. -/
def Slot.offspring (field : String) : Slot Entity → List (String × Entity)
  | .vacant => []
  | .one child => [(field, child)]
  | .many children =>
    children.zipIdx.map fun (child, index) => (Path.elementKey field index, child)

/-- The entities nested directly in the root of a tree, in order, with their path keys. -/
def Entity.offspring (entity : Entity) : List (String × Entity) :=
  (entity.shape.nested.zip entity.slots).flatMap fun pair => pair.2.offspring pair.1.field

namespace Report

/-- The report on a part of a tree, under the key of the part. -/
def under (root : String) (report : Report) : Report :=
  ⟨report.errors.under root, report.aborted⟩

/-- The report on what comes after some errors, with these in front. -/
def after (errors : ErrorMap) (report : Report) : Report :=
  ⟨errors.followedBy report.errors, report.aborted⟩

/-- The report on pieces in turn: the errors of one after those of another, up to the first piece
that aborts. There is none if a piece fails before. -/
def inTurn : List (Except Failure Report) → Except Failure Report
  | [] => .ok ⟨.empty, false⟩
  | .error failure :: _ => .error failure
  | .ok report :: rest =>
    if report.aborted then .ok report else (inTurn rest).map (after report.errors)

/-- A report after two parts is after both of them in turn. -/
theorem map_after_after (first second : ErrorMap) (outcome : Except Failure Report) :
    (outcome.map (after second)).map (after first) =
      outcome.map (after (first.followedBy second)) := by
  cases outcome with
  | error failure => rfl
  | ok report =>
    simp only [Except.map, after, ErrorMap.followedBy_assoc]

/-- Errors before the first piece are errors before all of them. -/
theorem inTurn_after (errors : ErrorMap) (first : Except Failure Report)
    (rest : List (Except Failure Report)) :
    inTurn (first.map (after errors) :: rest) = (inTurn (first :: rest)).map (after errors) := by
  cases first with
  | error failure => rfl
  | ok report =>
    obtain ⟨own, aborted⟩ := report
    cases aborted with
    | true => rfl
    | false => exact (map_after_after errors own (inTurn rest)).symm

/-- What comes after a piece that aborts does not count. -/
theorem inTurn_of_aborted {pieces before rest : List (Except Failure Report)} {report : Report}
    (split : pieces = before ++ .ok report :: rest) (aborted : report.aborted) :
    inTurn pieces = inTurn (before ++ [.ok report]) := by
  subst split
  induction before with
  | nil => simp only [List.nil_append, inTurn, aborted, ↓reduceIte]
  | cons piece before ih =>
    cases piece with
    | error failure => rfl
    | ok first => simp only [List.cons_append, inTurn, ih]

/-- If there is a report, it is that of an aborted walk exactly if a piece is aborted. -/
theorem aborted_inTurn_iff {pieces : List (Except Failure Report)} {report : Report}
    (done : inTurn pieces = .ok report) :
    report.aborted ↔ ∃ piece, .ok piece ∈ pieces ∧ piece.aborted := by
  induction pieces generalizing report with
  | nil =>
    obtain rfl := Except.ok.inj done
    simp
  | cons piece rest ih =>
    cases piece with
    | error failure => exact absurd done (by simp [inTurn])
    | ok first =>
      by_cases aborted : first.aborted
      · simp only [inTurn, aborted, ↓reduceIte] at done
        obtain rfl := Except.ok.inj done
        exact iff_of_true aborted ⟨first, List.mem_cons_self, aborted⟩
      · simp only [inTurn, aborted, Bool.false_eq_true, ↓reduceIte] at done
        cases others : inTurn rest with
        | error failure => exact absurd done (by simp [others, Except.map])
        | ok further =>
          rw [others] at done
          obtain rfl := Except.ok.inj done
          refine (ih others).trans ⟨?_, ?_⟩
          · rintro ⟨piece, member, ended⟩
            exact ⟨piece, List.mem_cons_of_mem _ member, ended⟩
          · rintro ⟨piece, member, ended⟩
            rcases List.mem_cons.mp member with same | later
            · exact absurd (Except.ok.inj same ▸ ended) aborted
            · exact ⟨piece, later, ended⟩

end Report

/-- A part of a walk and what follows it are pieces in turn. -/
theorem Stretch.outcome_andThen {first : Stretch Unit} {next : ErrorMap → Stretch Unit}
    {rest : List (Except Failure Report)}
    (further : (next first.errors).outcome = (Report.inTurn rest).map (Report.after first.errors)) :
    (first.andThen next).outcome = Report.inTurn (first.outcome :: rest) := by
  obtain ⟨_, errors, events, flow⟩ := first
  cases flow with
  | proceed => exact further
  | abort => rfl
  | fail failure => rfl

/-- A shape with plain names and with rules of the built-in checks alone. -/
structure Shape.Standard (shape : Shape) : Prop where
  plain : shape.Plain
  builtIn : ∀ entry ∈ shape.rules, ∀ rule ∈ entry.2, rule.BuiltIn

namespace Walk

section Moving

/-- A path key below a root. -/
def rebase (root path : String) : String :=
  if path = "" then root else Path.reroot root path

theorem free_of_isPlainName {name : String} (plain : Path.isPlainName name) :
    '[' ∉ name.toList :=
  fun member => ((Path.isPlainName_iff.mp plain).2 _ member).1 rfl

/-- A key that is put under a root is below it. -/
theorem isUnder_reroot (root key : String) : Path.isUnder (Path.reroot root key) root := by
  obtain ⟨inner, text⟩ := Path.reroot_eq_append root key
  exact Path.isUnder_iff.mpr (.inr ⟨_, text, .inr ⟨inner, rfl⟩⟩)

/-- The key of a field below a moved entity is the moved key of the field. -/
theorem fieldKey_rebase {root : String} (inside : root ≠ "") (path : String) {field : String}
    (plain : Path.isPlainName field) :
    Path.fieldKey (rebase root path) field = Path.reroot root (Path.fieldKey path field) := by
  by_cases top : path = ""
  · rw [rebase, if_pos top, top, Path.fieldKey_root, Path.fieldKey_of_ne field inside,
      Path.reroot_of_free root (free_of_isPlainName plain)]
  · have below : Path.reroot root path ≠ "" := by
      intro empty
      obtain ⟨inner, text⟩ := Path.reroot_eq_append root path
      rw [empty] at text
      simp at text
    rw [rebase, if_neg top, Path.fieldKey_of_ne field below, Path.fieldKey_of_ne field top,
      Path.reroot_brackets]

/-- The key of an element of a moved list is the moved key of the element. -/
theorem elementKey_reroot (root list : String) (index : Nat) :
    Path.elementKey (Path.reroot root list) index = Path.reroot root (Path.elementKey list index) :=
  (Path.reroot_brackets root list (toString index)).symm

/-- The node of an entity in a tree that has the tree of the node as a part. -/
def Node.moved (root : String) (ancestors : List Entity) (node : Node) : Node :=
  ⟨node.entity, rebase root node.path, ancestors ++ node.around⟩

/-- Below the root, a path is moved as a key is. -/
theorem rebase_of_ne (root : String) {path : String} (below : path ≠ "") :
    rebase root path = Path.reroot root path :=
  if_neg below

theorem fieldKey_ne (path : String) {field : String} (plain : Path.isPlainName field) :
    Path.fieldKey path field ≠ "" := by
  intro empty
  have segments := Path.segments_fieldKey path plain
  rw [empty] at segments
  exact absurd segments (by simp [Path.segments])

variable (setting : Setting) {root : String} (ancestors : List Entity)

mutual

/-- The nodes of a tree that is moved are its nodes, moved. -/
theorem nodes_moved (inside : root ≠ "") : ∀ (entity : Entity) (path : String)
    (around : List Entity),
    (∀ shape ∈ entity.shapes, shape.Plain) →
    nodes setting entity (rebase root path) (ancestors ++ around) =
      (nodes setting entity path around).map (Node.moved root ancestors)
  | ⟨shape, values, slots⟩, path, around, plain => by
    have named := (plain shape List.mem_cons_self).nested
    have below : ∀ inner ∈ slotsShapes slots, inner.Plain :=
      fun inner member => plain inner (List.mem_cons_of_mem _ member)
    rw [nodes, nodes, List.map_cons, List.append_assoc, slotsNodes_moved inside _ _ _ _ named below]
    rfl

theorem slotsNodes_moved (inside : root ≠ "") : ∀ (nested : List (Nested Shape))
    (slots : List (Slot Entity)) (path : String) (around : List Entity),
    (∀ decl ∈ nested, Path.isPlainName decl.field) →
    (∀ shape ∈ slotsShapes slots, shape.Plain) →
    slotsNodes setting nested slots (rebase root path) (ancestors ++ around) =
      (slotsNodes setting nested slots path around).map (Node.moved root ancestors)
  | nested :: others, slot :: slots, path, around, named, plain => by
    have own := named nested List.mem_cons_self
    rw [slotsNodes, slotsNodes, List.map_append, fieldKey_rebase inside path own,
      slotNodes_moved inside slot _ around (fieldKey_ne path own)
        fun shape member => plain shape (List.mem_append_left _ member),
      slotsNodes_moved inside others slots path around
        (fun nested member => named nested (List.mem_cons_of_mem _ member))
        fun shape member => plain shape (List.mem_append_right _ member)]
  | [], _, _, _, _, _ => by simp only [slotsNodes, List.map_nil]
  | _ :: _, [], _, _, _, _ => by simp only [slotsNodes, List.map_nil]

theorem slotNodes_moved (inside : root ≠ "") : ∀ (slot : Slot Entity) (key : String)
    (around : List Entity),
    key ≠ "" → (∀ shape ∈ slotShapes slot, shape.Plain) →
    slotNodes setting slot (Path.reroot root key) (ancestors ++ around) =
      (slotNodes setting slot key around).map (Node.moved root ancestors)
  | .vacant, _, _, _, _ => by simp only [slotNodes, List.map_nil]
  | .one child, key, around, below, plain => by
    rw [slotNodes, slotNodes, ← rebase_of_ne root below, nodes_moved inside child key around plain]
  | .many children, key, around, _, plain => by
    rw [slotNodes, slotNodes, elementNodes_moved inside children key 0 around plain]

theorem elementNodes_moved (inside : root ≠ "") : ∀ (children : List Entity) (key : String)
    (index : Nat) (around : List Entity), (∀ shape ∈ elementShapes children, shape.Plain) →
    elementNodes setting children (Path.reroot root key) index (ancestors ++ around) =
      (elementNodes setting children key index around).map (Node.moved root ancestors)
  | [], _, _, _, _ => by simp only [elementNodes, List.map_nil]
  | child :: children, key, index, around, plain => by
    have below : Path.elementKey key index ≠ "" := by simp [Path.elementKey]
    rw [elementNodes, elementNodes, List.map_append, elementKey_reroot, ← rebase_of_ne root below,
      nodes_moved inside child _ around
        fun shape member => plain shape (List.mem_append_left _ member),
      elementNodes_moved inside children key (index + 1) around
        fun shape member => plain shape (List.mem_append_right _ member)]

end

end Moving

section Nodes

variable (setting : Setting)

mutual

/-- The nodes of a tree are of its shapes. -/
theorem shape_of_mem_nodes : ∀ (entity : Entity) (path : String) (around : List Entity),
    ∀ node ∈ nodes setting entity path around, node.entity.shape ∈ entity.shapes
  | ⟨shape, values, slots⟩, path, around, node, member => by
    rw [nodes] at member
    rcases List.mem_cons.mp member with rfl | member
    · exact List.mem_cons_self
    · exact List.mem_cons_of_mem _ (shape_of_mem_slotsNodes _ slots _ _ node member)

theorem shape_of_mem_slotsNodes : ∀ (nested : List (Nested Shape)) (slots : List (Slot Entity))
    (path : String) (around : List Entity), ∀ node ∈ slotsNodes setting nested slots path around,
    node.entity.shape ∈ slotsShapes slots
  | nested :: others, slot :: slots, path, around, node, member => by
    rw [slotsNodes] at member
    rcases List.mem_append.mp member with member | member
    · exact List.mem_append_left _ (shape_of_mem_slotNodes slot _ _ node member)
    · exact List.mem_append_right _ (shape_of_mem_slotsNodes others slots _ _ node member)
  | [], _, _, _, _, member => by simp [slotsNodes] at member
  | _ :: _, [], _, _, _, member => by simp [slotsNodes] at member

theorem shape_of_mem_slotNodes : ∀ (slot : Slot Entity) (key : String) (around : List Entity),
    ∀ node ∈ slotNodes setting slot key around, node.entity.shape ∈ slotShapes slot
  | .vacant, _, _, _, member => by simp [slotNodes] at member
  | .one child, key, around, node, member => by
    rw [slotNodes] at member
    exact shape_of_mem_nodes child key around node member
  | .many children, key, around, node, member => by
    rw [slotNodes] at member
    exact shape_of_mem_elementNodes children key 0 around node member

theorem shape_of_mem_elementNodes : ∀ (children : List Entity) (key : String) (index : Nat)
    (around : List Entity), ∀ node ∈ elementNodes setting children key index around,
    node.entity.shape ∈ elementShapes children
  | [], _, _, _, _, member => by simp [elementNodes] at member
  | child :: children, key, index, around, node, member => by
    rw [elementNodes] at member
    rcases List.mem_append.mp member with member | member
    · exact List.mem_append_left _ (shape_of_mem_nodes child _ around node member)
    · exact List.mem_append_right _
        (shape_of_mem_elementNodes children key (index + 1) around node member)

end

/-- The nodes in a list are those of its elements, each with its position. -/
theorem elementNodes_eq (children : List Entity) (key : String) (index : Nat)
    (around : List Entity) : elementNodes setting children key index around =
      (children.zipIdx index).flatMap fun (child, index) =>
        nodes setting child (Path.elementKey key index) around := by
  induction children generalizing index with
  | nil => rw [elementNodes, List.zipIdx_nil, List.flatMap_nil]
  | cons child children ih => rw [elementNodes, ih, List.zipIdx_cons, List.flatMap_cons]

/-- The nodes in a field are those of the entities that it holds. -/
theorem slotNodes_eq (slot : Slot Entity) (field : String) (around : List Entity) :
    slotNodes setting slot field around =
      (slot.offspring field).flatMap fun part => nodes setting part.2 part.1 around := by
  cases slot with
  | vacant => simp [slotNodes, Slot.offspring]
  | one child => simp [slotNodes, Slot.offspring]
  | many children => simp [slotNodes, Slot.offspring, elementNodes_eq, List.flatMap_map]

/-- Below the root of a tree come the trees of its offspring. -/
theorem slotsNodes_eq (nested : List (Nested Shape)) (slots : List (Slot Entity))
    (around : List Entity) : slotsNodes setting nested slots "" around =
      ((nested.zip slots).flatMap fun pair => pair.2.offspring pair.1.field).flatMap
        fun part => nodes setting part.2 part.1 around := by
  induction nested generalizing slots with
  | nil => simp [slotsNodes]
  | cons first others ih =>
    cases slots with
    | nil => simp [slotsNodes]
    | cons slot slots =>
      rw [slotsNodes, ih, slotNodes_eq, List.zip_cons_cons, List.flatMap_cons, List.flatMap_append]
      rfl

end Nodes

/-- The call at a node that has been moved. -/
def Call.moved (root : String) (ancestors : List Entity) (call : Call) : Call :=
  ⟨call.node.moved root ancestors, call.field, call.rules⟩

section Pieces

variable (setting : Setting)

/-- The calls in a part of a tree are those in the part by itself, moved. -/
theorem calls_moved {entity : Entity} (plain : ∀ shape ∈ entity.shapes, shape.Plain)
    {root : String} (inside : root ≠ "") (ancestors : List Entity) :
    (nodes setting entity root ancestors).flatMap Node.calls =
      (calls setting entity).map (Call.moved root ancestors) := by
  have moved := nodes_moved setting ancestors inside entity "" [] plain
  rw [List.append_nil] at moved
  have own (node : Node) :
      (node.moved root ancestors).calls = node.calls.map (Call.moved root ancestors) := by
    simp only [Node.calls, List.map_map]
    rfl
  rw [calls, List.map_flatMap, show root = rebase root "" from rfl, moved, List.flatMap_map]
  simp only [own]
  rfl

/-- A call runs rules of one of the shapes of the tree. -/
theorem rules_of_mem_calls {entity : Entity} {call : Call} (member : call ∈ calls setting entity) :
    ∃ shape ∈ entity.shapes, (call.field, call.rules) ∈ shape.rules := by
  obtain ⟨node, visited, made⟩ := List.mem_flatMap.mp member
  obtain ⟨entry, listed, rfl⟩ := List.mem_map.mp made
  exact ⟨_, shape_of_mem_nodes setting entity "" [] node visited, listed⟩

/-- A call in a part of a tree is carried over to the whole tree, where the errors of the part come
after others with other keys. -/
theorem Call.carries_moved {call : Call} {root : String} (inside : root ≠ "")
    (ancestors : List Entity) (plain : Path.isPlainName call.field)
    (builtIn : ∀ rule ∈ call.rules, rule.BuiltIn) {base : ErrorMap}
    (apart : Path.reroot root call.key ∉ base.keys) :
    call.Carries (fun errors => base.followedBy (errors.under root)) (fun _ => True) setting
      (call.moved root ancestors) := by
  have key : (call.moved root ancestors).key = Path.reroot root call.key :=
    fieldKey_rebase inside call.node.path plain
  refine ⟨rfl, ⟨fun errors messages _ => ?_, fun _ _ _ => trivial⟩, fun rule listed => ?_,
    fun rule _ _ errors _ => ?_⟩
  · rw [key]
    exact ErrorMap.followedBy_extendAt apart errors messages
  · exact (builtIn rule listed).test_local (call.input setting)
      ((call.moved root ancestors).lineage setting)
  · rw [key, ErrorMap.has_eq, ErrorMap.has_eq, ErrorMap.messages_followedBy apart]

/-- A part of a tree goes on in the whole tree as it does by itself. -/
theorem part_follows {entity : Entity} (standard : ∀ shape ∈ entity.shapes, shape.Standard)
    {root : String} (inside : root ≠ "") (ancestors : List Entity) {base : ErrorMap}
    (fresh : ∀ key, Path.reroot root key ∉ base.keys) :
    Stretch.Follows (fun errors => base.followedBy (errors.under root)) (fun _ => True)
      (runCalls setting (calls setting entity) .empty)
      (runCalls setting ((nodes setting entity root ancestors).flatMap Node.calls) base) := by
  have start : base.followedBy (ErrorMap.empty.under root) = base := ErrorMap.followedBy_empty base
  have plain (shape : Shape) (member : shape ∈ entity.shapes) : shape.Plain :=
    (standard shape member).plain
  have carries (call : Call) (member : call ∈ calls setting entity) :
      call.Carries (fun errors => base.followedBy (errors.under root)) (fun _ => True) setting
        (call.moved root ancestors) := by
    obtain ⟨shape, known, listed⟩ := rules_of_mem_calls setting member
    exact Call.carries_moved setting inside ancestors ((plain shape known).rules _ listed)
      ((standard shape known).builtIn _ listed) (fresh call.key)
  have follows := runCalls_follows carries .empty trivial
  rwa [start, ← calls_moved setting plain inside ancestors] at follows

/-- Parts of a tree with keys that do not meet are done in turn. -/
theorem runCalls_parts (ancestors : List Entity) {parts : List (String × Entity)} {base : ErrorMap}
    (inside : ∀ part ∈ parts, part.1 ≠ "")
    (standard : ∀ part ∈ parts, ∀ shape ∈ part.2.shapes, shape.Standard)
    (apart : parts.Pairwise fun one other => ∀ key further,
      Path.reroot one.1 key ≠ Path.reroot other.1 further)
    (fresh : ∀ part ∈ parts, ∀ key, Path.reroot part.1 key ∉ base.keys) :
    (runCalls setting ((parts.flatMap fun part => nodes setting part.2 part.1 ancestors).flatMap
        Node.calls) base).outcome =
      (Report.inTurn (parts.map fun part =>
        (runCalls setting (calls setting part.2) .empty).outcome.map (Report.under part.1))).map
          (Report.after base) := by
  induction parts generalizing base with
  | nil =>
    show Except.ok (⟨base, false⟩ : Report) = .ok ⟨base.followedBy .empty, false⟩
    rw [ErrorMap.followedBy_empty]
  | cons part rest ih =>
    obtain ⟨key, child⟩ := part
    obtain ⟨beside, apart⟩ := List.pairwise_cons.mp apart
    have follows := part_follows setting (standard _ List.mem_cons_self)
      (inside _ List.mem_cons_self) ancestors (fresh _ List.mem_cons_self)
    have ended : (runCalls setting ((nodes setting child key ancestors).flatMap Node.calls)
        base).outcome = ((runCalls setting (calls setting child) .empty).outcome.map
          (Report.under key)).map (Report.after base) := by
      rw [follows.outcome]
      cases (runCalls setting (calls setting child) .empty).outcome <;> rfl
    rw [List.flatMap_cons, List.flatMap_append, runCalls_append, List.map_cons,
      ← Report.inTurn_after, ← ended]
    refine Stretch.outcome_andThen (ih (fun part member => inside part (.tail _ member))
      (fun part member => standard part (.tail _ member)) apart ?_)
    -- The keys that this part has added lie below its own, where no other part has any.
    intro part member further found
    rw [follows.errors, ErrorMap.keys_followedBy_under] at found
    rcases List.mem_append.mp found with old | new
    · exact fresh part (.tail _ member) further old
    · obtain ⟨own, _, same⟩ := List.mem_map.mp new
      exact beside part member own further same

/-- The rules of the root of a tree are its own calls. -/
theorem runFields_root (entity : Entity) (errors : ErrorMap) :
    runFields setting entity.shape entity.values [] "" entity.shape.rules errors =
      runCalls setting (Node.calls ⟨entity, "", []⟩) errors :=
  runFields_eq setting ⟨entity, "", []⟩ entity.shape.rules errors

/-- The rules of the root record nothing under a key with brackets. -/
theorem free_of_mem_keys {entity : Entity} (plain : entity.shape.Plain) {key : String}
    (member : key ∈ (runCalls setting (Node.calls ⟨entity, "", []⟩) .empty).errors.keys) :
    '[' ∉ key.toList := by
  -- The walk carried over to itself keeps what holds of every key that is recorded.
  have carries (call : Call) (made : call ∈ Node.calls ⟨entity, "", []⟩) :
      call.Carries id (fun errors => ∀ key ∈ errors.keys, '[' ∉ key.toList) setting call := by
    obtain ⟨entry, listed, rfl⟩ := List.mem_map.mp made
    refine ⟨rfl, ⟨fun _ _ _ => rfl, fun errors messages free key member => ?_⟩, fun _ _ => rfl,
      fun _ _ _ _ _ => rfl⟩
    rcases ErrorMap.mem_keys_extendAt member with old | rfl
    · exact free key old
    · exact free_of_isPlainName (plain.rules entry listed)
  have follows := runCalls_follows carries .empty fun _ member => absurd member List.not_mem_nil
  exact follows.known key member

end Pieces

section Offspring

/-- The key of what a field holds begins with the field. -/
theorem segments_of_mem_offspring {slot : Slot Entity} {field : String}
    (plain : Path.isPlainName field) {part : String × Entity}
    (member : part ∈ slot.offspring field) :
    ∃ rest, Path.segments part.1 = field.toList :: rest := by
  have own : Path.segments field = [field.toList] := Path.segments_fieldKey "" plain
  cases slot with
  | vacant => exact absurd member List.not_mem_nil
  | one child =>
    obtain rfl := List.mem_singleton.mp member
    exact ⟨[], own⟩
  | many children =>
    obtain ⟨⟨child, index⟩, _, rfl⟩ := List.mem_map.mp member
    rw [Path.segments_elementKey index (Path.isPlainName_iff.mp plain).1, own]
    exact ⟨_, rfl⟩

/-- Keys with segments that do not begin one another stay apart below. -/
theorem reroot_ne {one other : String} (parted : ¬ Path.segments one <+: Path.segments other)
    (also : ¬ Path.segments other <+: Path.segments one) (key further : String) :
    Path.reroot one key ≠ Path.reroot other further := by
  intro same
  have first := Path.segments_prefix_of_isUnder (isUnder_reroot one key)
  have second := Path.segments_prefix_of_isUnder (isUnder_reroot other further)
  rw [← same] at second
  exact (List.prefix_or_prefix_of_prefix first second).elim parted also

/-- What a field holds is apart, entity by entity: no key is below two of them. -/
theorem pairwise_slotOffspring {field : String} (plain : Path.isPlainName field)
    (slot : Slot Entity) : (slot.offspring field).Pairwise fun one other => ∀ key further,
      Path.reroot one.1 key ≠ Path.reroot other.1 further := by
  cases slot with
  | vacant => exact .nil
  | one child => exact List.pairwise_singleton _ _
  | many children =>
    have indices : children.zipIdx.Pairwise fun one other => one.2 ≠ other.2 := by
      have distinct : (children.zipIdx.map Prod.snd).Nodup := by
        rw [List.zipIdx_map_snd]
        exact List.nodup_range'
      exact List.pairwise_map.mp distinct
    have inside := (Path.isPlainName_iff.mp plain).1
    have parted {index other : Nat} (different : index ≠ other) :
        ¬ Path.segments (Path.elementKey field index) <+:
          Path.segments (Path.elementKey field other) := by
      intro begins
      rw [Path.segments_elementKey index inside, Path.segments_elementKey other inside] at begins
      have same := begins.eq_of_length (by simp)
      exact different (Path.eq_of_digits (List.singleton_inj.mp (List.append_cancel_left same)))
    refine List.pairwise_map.mpr (indices.imp fun different key further => ?_)
    exact reroot_ne (parted different) (parted (Ne.symm different)) key further

/-- The offspring of an entity have keys that stay apart below. -/
theorem pairwise_offspring {entity : Entity} (plain : entity.shape.Plain) :
    entity.offspring.Pairwise fun one other => ∀ key further,
      Path.reroot one.1 key ≠ Path.reroot other.1 further := by
  have named (pair : Nested Shape × Slot Entity)
      (member : pair ∈ entity.shape.nested.zip entity.slots) : Path.isPlainName pair.1.field :=
    plain.nested pair.1 (List.of_mem_zip member).1
  refine List.pairwise_flatMap.mpr ⟨fun pair member => ?_, ?_⟩
  · exact pairwise_slotOffspring (named pair member) pair.2
  · have fields : (entity.shape.nested.zip entity.slots).Pairwise fun one other =>
        one.1.field ≠ other.1.field := by
      have distinct := List.pairwise_iff_getElem.mp (List.pairwise_map.mp plain.distinct)
      refine List.pairwise_iff_getElem.mpr fun i j first second less => ?_
      rw [List.getElem_zip, List.getElem_zip]
      exact distinct i j _ _ less
    refine (List.Pairwise.and_mem.mp fields).imp ?_
    rintro one other ⟨here, there, different⟩ part member further listed key inner
    obtain ⟨rest, segments⟩ := segments_of_mem_offspring (named one here) member
    obtain ⟨tail, others⟩ := segments_of_mem_offspring (named other there) listed
    refine reroot_ne ?_ ?_ key inner
    · rw [segments, others]
      exact fun begins => different (String.toList_inj.mp (List.cons_prefix_cons.mp begins).1)
    · rw [segments, others]
      exact fun begins => different (String.toList_inj.mp (List.cons_prefix_cons.mp begins).1).symm

/-- The offspring of an entity are where its steps lead. -/
theorem leads_of_mem_offspring {entity : Entity} {part : String × Entity}
    (member : part ∈ entity.offspring) :
    ∃ turn, Leads entity turn part.2 ∧ part.1 = turn.key "" := by
  obtain ⟨⟨nested, slot⟩, paired, held⟩ := List.mem_flatMap.mp member
  obtain ⟨position, found⟩ := List.mem_iff_getElem?.mp paired
  obtain ⟨declared, filled⟩ := List.getElem?_zip_eq_some.mp found
  cases slot with
  | vacant => exact absurd held List.not_mem_nil
  | one child =>
    obtain rfl := List.mem_singleton.mp held
    exact ⟨_, .mk declared filled (.single child), rfl⟩
  | many children =>
    obtain ⟨⟨child, index⟩, listed, rfl⟩ := List.mem_map.mp held
    exact ⟨_, .mk declared filled (.element (List.mem_zipIdx_iff_getElem?.mp listed)), rfl⟩

/-- The calls of a tree are those of its root and then those of the trees of its offspring. -/
theorem calls_eq (setting : Setting) (entity : Entity) : calls setting entity =
    Node.calls ⟨prepared setting entity, "", []⟩ ++
      (entity.offspring.flatMap fun part =>
        nodes setting part.2 part.1 [prepared setting entity]).flatMap Node.calls := by
  obtain ⟨shape, values, slots⟩ := entity
  rw [calls, nodes, List.flatMap_cons, slotsNodes_eq]
  rfl

end Offspring

end Walk

/-- **Validation is put together from the pieces of a tree.** Where names are plain and checks are
the built-in ones, the outcome for a record is that of the rules of its root and then of each entity
nested directly in it, validated by itself and reported under its key, in turn. A piece that aborts
aborts the whole, and what comes after it does not count. -/
theorem validate_record_pieces (messages : Messages) (scope : Scope) (entity : Entity)
    (standard : ∀ shape ∈ entity.shapes, shape.Standard) :
    let alone (entity : Entity) := (validate .record messages scope .empty entity).outcome
    let own := (Walk.runFields ⟨.record, messages, scope⟩ entity.shape entity.values [] ""
      entity.shape.rules .empty).outcome
    let pieces := own :: entity.offspring.map fun part =>
      (alone part.2).map (Report.under part.1)
    alone entity = Report.inTurn pieces ∧
      (∀ report, alone entity = .ok report →
        (report.aborted ↔ ∃ piece, .ok piece ∈ pieces ∧ piece.aborted)) ∧
      ∀ before piece after, pieces = before ++ .ok piece :: after → piece.aborted →
        alone entity = Report.inTurn (before ++ [.ok piece]) := by
  intro alone own pieces
  have whole : alone entity = Report.inTurn pieces := by
    have ends (entity : Entity) : alone entity = _ :=
      validate_outcome_eq Conduct.record_quiet messages scope .empty entity
    have plain := (standard _ (Walk.shape_mem_shapes entity)).plain
    have inside (part : String × Entity) (member : part ∈ entity.offspring) : part.1 ≠ "" := by
      obtain ⟨turn, leads, key⟩ := Walk.leads_of_mem_offspring member
      intro empty
      have segments := Walk.segments_key "" (leads.isPlainName plain)
      rw [← key, empty] at segments
      exact absurd segments (by simp [Path.segments, Walk.Turn.segments])
    have below (part : String × Entity) (member : part ∈ entity.offspring) :
        ∀ shape ∈ part.2.shapes, shape.Standard := by
      obtain ⟨turn, leads, -⟩ := Walk.leads_of_mem_offspring member
      exact fun shape listed => standard shape (leads.shapes shape listed)
    have fresh : ∀ part ∈ entity.offspring, ∀ key, Path.reroot part.1 key ∉
        (Walk.runCalls ⟨.record, messages, scope⟩ (Walk.Node.calls ⟨entity, "", []⟩)
          .empty).errors.keys := by
      intro part _ key found
      obtain ⟨inner, text⟩ := Path.reroot_eq_append part.1 key
      exact Walk.free_of_mem_keys _ plain found (text ▸ by simp)
    have rest := Walk.runCalls_parts ⟨.record, messages, scope⟩ [entity] inside below
      (Walk.pairwise_offspring plain) fresh
    have own : own = (Walk.runCalls _ (Walk.Node.calls ⟨entity, "", []⟩) .empty).outcome :=
      congrArg Stretch.outcome (Walk.runFields_root ⟨.record, messages, scope⟩ entity .empty)
    have same : Walk.prepared ⟨.record, messages, scope⟩ entity = entity := by
      obtain ⟨shape, values, slots⟩ := entity
      rfl
    simp only [pieces, ends, own]
    rw [Walk.calls_eq, Walk.runCalls_append, same]
    exact Stretch.outcome_andThen rest
  refine ⟨whole, fun report done => Report.aborted_inTurn_iff (whole.symm.trans done), ?_⟩
  intro before piece after split aborted
  rw [whole, Report.inTurn_of_aborted split aborted]

namespace Walk

/-- The rule that a value is there. -/
def requiredRule : Rule :=
  ⟨⟨"required", [], .all, .none⟩, fun input => input.require (!input.value.isBlank) "required" []⟩

/-- The rule that a walk ends where a value is blank. -/
def abortIfBlankRule : Rule :=
  ⟨⟨"abort_if_blank", [], .all, .none⟩,
    fun input => .ok (if input.value.isBlank then .abort else .pass)⟩

/-- An order without a number and with an address without a city, of which the second line is
blank. -/
def blankOrder : Entity :=
  let address : Shape := ⟨"address", ["city"], [], [("city", [requiredRule])], []⟩
  let line : Shape := ⟨"line", ["qty"], [], [("qty", [abortIfBlankRule])], []⟩
  ⟨⟨"order", ["id"], [], [("id", [requiredRule])],
      [⟨"to", .one, address⟩, ⟨"lines", .many, line⟩]⟩, [],
    [.one ⟨address, [], []⟩,
      .many [⟨line, [("qty", .string "two")], []⟩, ⟨line, [], []⟩, ⟨line, [], []⟩]]⟩

end Walk

/-- The errors of the order and of its address, up to the line that aborts. -/
theorem validate_record_pieces_blankOrder :
    let messages : Messages := ⟨[("required", ⟨[.text "missing".toList]⟩)]⟩
    (∀ shape ∈ Walk.blankOrder.shapes, shape.Standard) ∧
      (validate .record messages .save .empty Walk.blankOrder).outcome.toOption =
        some ⟨⟨[("id", ["missing"]), ("to[city]", ["missing"])]⟩, true⟩ := by
  intro messages
  have standard : ∀ shape ∈ Walk.blankOrder.shapes, shape.Standard := by
    have plain : ∀ shape ∈ Walk.blankOrder.shapes, shape.Plain := by decide +kernel
    have ruled : ∀ shape ∈ Walk.blankOrder.shapes, ∀ entry ∈ shape.rules, ∀ rule ∈ entry.2,
        rule = Walk.requiredRule ∨ rule = Walk.abortIfBlankRule := by
      simp [Walk.blankOrder, Entity.shapes, slotsShapes, slotShapes, elementShapes]
    refine fun shape member => ⟨plain shape member, fun entry listed rule own => ?_⟩
    rcases ruled shape member entry listed rule own with rfl | rfl
    · exact ⟨{}, "id", rfl⟩
    · exact ⟨{}, "qty", rfl⟩
  refine ⟨standard, (congrArg Except.toOption
    (validate_record_pieces messages .save Walk.blankOrder standard).1).trans ?_⟩
  decide +kernel

end Scrutiny
