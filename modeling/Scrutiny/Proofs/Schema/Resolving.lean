import Mathlib.Data.List.Perm.Subperm
import Mathlib.Logic.Relation
import Scrutiny.Proofs.Schema.Building

/-! # Kinds that refer to each other

A kind of entities refers to the kinds of its nested entities. Where the kinds of a schema are sound
one by one, the schema builds if and only if no kind reaches itself through such references, and the
only other outcome is a complaint about a kind that does (`SchemaConfig.buildWith_settles`).

Kinds are resolved depth first. Those that are resolved stand in a list in which each comes after
the kinds that it refers to (`Resolution.Resolved`), and those under way all lead to the kind that
is being resolved (`Resolution.UnderWay`), so one that is met again is on a cycle. They are
distinct, hence no more than there are kinds, and the bound on the depth is never met.
-/

namespace Scrutiny

/-- Fields that hold entities, with the names of their kinds. -/
def Nesting.references (nesting : Nesting) (fields : Entries String) : List (Nested String) :=
  fields.map fun entry => ⟨entry.1, nesting, entry.2⟩

/-- The fields of a kind that hold entities: first those for a single one, then those for lists. -/
def EntityConfig.references (entity : EntityConfig) : List (Nested String) :=
  Nesting.one.references entity.one ++ Nesting.many.references entity.many

/-- A kind has a field for entities of another. -/
def Refers (entities : Entries EntityConfig) (name target : String) : Prop :=
  ∃ entity, entities.get? name = some entity ∧
    ∃ reference ∈ entity.references, reference.shape = target

/-- A kind reaches itself through the kinds of its nested entities. -/
def OnCycle (entities : Entries EntityConfig) (name : String) : Prop :=
  Relation.TransGen (Refers entities) name name

/-- A computation fails only by naming a kind on a cycle, and its results have a property. -/
inductive Settles (entities : Entries EntityConfig) {α : Type} (property : α → Prop) :
    Except DeclarationError α → Prop
  | done {value : α} : property value → Settles entities property (.ok value)
  | cyclic {name : String} :
      OnCycle entities name → Settles entities property (.error (.cyclicShape name))

/-- A result that settles has the property. -/
theorem Settles.of_ok {entities : Entries EntityConfig} {α : Type} {property : α → Prop} {value : α}
    (settles : Settles entities property (.ok value)) : property value := by
  cases settles with
  | done holds => exact holds

/-- An error that settles complains about a kind on a cycle. -/
theorem Settles.of_error {entities : Entries EntityConfig} {α : Type} {property : α → Prop}
    {error : DeclarationError} (settles : Settles entities property (.error error)) :
    ∃ name, error = .cyclicShape name ∧ OnCycle entities name := by
  cases settles with
  | cyclic cycle => exact ⟨_, rfl, cycle⟩

theorem Settles.bind {entities : Entries EntityConfig} {α β : Type} {first : α → Prop}
    {second : β → Prop} {result : Except DeclarationError α}
    {next : α → Except DeclarationError β} (settles : Settles entities first result)
    (goesOn : ∀ value, first value → Settles entities second (next value)) :
    Settles entities second (result >>= next) := by
  cases settles with
  | done holds => exact goesOn _ holds
  | cyclic cycle => exact .cyclic cycle

/-- A result that settles with a property settles with a weaker one. -/
theorem Settles.imp {entities : Entries EntityConfig} {α : Type} {weak strong : α → Prop}
    {result : Except DeclarationError α} (settles : Settles entities strong result)
    (weaken : ∀ value, strong value → weak value) : Settles entities weak result := by
  cases settles with
  | done holds => exact .done (weaken _ holds)
  | cyclic cycle => exact .cyclic cycle

namespace SchemaConfig

namespace Resolution

/-- A kind can be resolved once the kinds of its nested entities are. -/
structure Sound (resolution : Resolution) (entity : EntityConfig) : Prop where
  distinct : (entity.fields ++ entity.references.map Nested.field).Nodup
  rules : ∀ entry ∈ entity.rules, ∀ parts ∈ entry.2,
    RuleFits resolution.registry resolution.names entry.1 parts
  declared : ∀ reference ∈ entity.references, reference.shape ∈ resolution.entities.keys

section Resolved

variable {entities : Entries EntityConfig}

/-- A nested declaration stands for a reference if it has the field and holds the shape that is
listed for the target. -/
structure Carries (shapes : Entries Shape) (reference : Nested String) (nested : Nested Shape) :
    Prop where
  field : nested.field = reference.field
  nesting : nested.nesting = reference.nesting
  shape : shapes.get? reference.shape = some nested.shape

/-- A shape is that of a kind, its nested declarations standing for the references in order. -/
structure Renders (shapes : Entries Shape) (name : String) (entity : EntityConfig) (shape : Shape) :
    Prop where
  name : shape.name = name
  fields : shape.fields = entity.fields
  nested : List.Forall₂ (Carries shapes) entity.references shape.nested

/-- Kinds that have been resolved, each after those that it refers to. -/
inductive Resolved (entities : Entries EntityConfig) : Entries Shape → Prop
  | nil : Resolved entities []
  | snoc {shapes : Entries Shape} {name : String} {entity : EntityConfig} {shape : Shape} :
      Resolved entities shapes → name ∉ shapes.keys → entities.get? name = some entity →
      Renders shapes name entity shape → Resolved entities (shapes ++ [(name, shape)])

/-- Some kinds have joined those that were resolved before, none of them under way. -/
def Grown (underWay : List String) (shapes more : Entries Shape) : Prop :=
  ∃ added : Entries Shape, more = shapes ++ added ∧ ∀ name ∈ added.keys, name ∉ underWay

theorem Grown.refl (underWay : List String) (shapes : Entries Shape) :
    Grown underWay shapes shapes :=
  ⟨[], (List.append_nil _).symm, fun _ member => absurd member List.not_mem_nil⟩

theorem Grown.trans {underWay : List String} {shapes more most : Entries Shape}
    (first : Grown underWay shapes more) (second : Grown underWay more most) :
    Grown underWay shapes most := by
  obtain ⟨added, rfl, apart⟩ := first
  obtain ⟨further, rfl, also⟩ := second
  refine ⟨added ++ further, List.append_assoc _ _ _, ?_⟩
  intro name member
  rw [Entries.keys_append] at member
  exact (List.mem_append.mp member).elim (apart name) (also name)

/-- A shape that has been resolved stays as it is. -/
theorem Grown.get? {underWay : List String} {shapes more : Entries Shape}
    (grown : Grown underWay shapes more) {name : String} {shape : Shape}
    (found : shapes.get? name = some shape) : more.get? name = some shape := by
  obtain ⟨added, rfl, _⟩ := grown
  rw [Entries.get?_append, found, Option.some_or]

/-- A kind under way does not join those that have been resolved. -/
theorem Grown.notMem {underWay : List String} {shapes more : Entries Shape}
    (grown : Grown underWay shapes more) {name : String} (waits : name ∈ underWay)
    (new : shapes.get? name = none) : name ∉ more.keys := by
  obtain ⟨added, rfl, apart⟩ := grown
  rw [Entries.keys_append]
  intro member
  rcases List.mem_append.mp member with old | joined
  · exact Entries.get?_eq_none_iff.mp new old
  · exact apart name joined waits

/-- When a kind is done it joins those that have been resolved. -/
theorem Grown.join {underWay : List String} {shapes more : Entries Shape} {name : String}
    (grown : Grown (name :: underWay) shapes more) (fresh : name ∉ underWay) (shape : Shape) :
    Grown underWay shapes (more ++ [(name, shape)]) := by
  obtain ⟨added, rfl, apart⟩ := grown
  refine ⟨added ++ [(name, shape)], List.append_assoc _ _ _, ?_⟩
  rw [Entries.keys_append]
  intro other member
  rcases List.mem_append.mp member with joined | last
  · exact fun waits => apart other joined (List.mem_cons_of_mem _ waits)
  · rwa [List.mem_singleton.mp last]

/-- A nested declaration keeps the shape that it carries. -/
theorem Carries.grown {underWay : List String} {shapes more : Entries Shape}
    (grown : Grown underWay shapes more) {reference : Nested String} {nested : Nested Shape}
    (carries : Carries shapes reference nested) : Carries more reference nested :=
  ⟨carries.field, carries.nesting, grown.get? carries.shape⟩

theorem Renders.grown {underWay : List String} {shapes more : Entries Shape}
    (grown : Grown underWay shapes more) {name : String} {entity : EntityConfig} {shape : Shape}
    (renders : Renders shapes name entity shape) : Renders more name entity shape :=
  ⟨renders.name, renders.fields, renders.nested.imp fun _ _ => Carries.grown grown⟩

/-- The kinds that a kind refers to stand in the list against which it was rendered. -/
theorem Renders.mem_keys {shapes : Entries Shape} {name target : String} {entity : EntityConfig}
    {shape : Shape} (renders : Renders shapes name entity shape)
    (found : entities.get? name = some entity) (refers : Refers entities name target) :
    target ∈ shapes.keys := by
  obtain ⟨same, again, reference, listed, rfl⟩ := refers
  obtain rfl := Option.some.inj (again.symm.trans found)
  have stand : List.Forall₂ (fun reference nested => reference.shape ∈ shapes.keys ∧
      Carries shapes reference nested) same.references shape.nested :=
    renders.nested.imp fun _ _ carries => ⟨Entries.mem_keys_of_get? carries.shape, carries⟩
  exact ((List.forall₂_and_left _ _).mp stand).1 reference listed

namespace Resolved

variable {shapes : Entries Shape} {name target : String}

/-- No kind is resolved twice. -/
theorem nodup (resolved : Resolved entities shapes) : shapes.keys.Nodup := by
  induction resolved with
  | nil => exact List.nodup_nil
  | snoc _ fresh _ _ ih =>
    rw [Entries.keys_append]
    exact List.perm_append_comm.nodup (List.nodup_cons.mpr ⟨fresh, ih⟩)

/-- Each shape that is resolved renders the declaration of its kind. -/
theorem renders (resolved : Resolved entities shapes) {shape : Shape}
    (found : shapes.get? name = some shape) :
    ∃ entity, entities.get? name = some entity ∧ Renders shapes name entity shape := by
  induction resolved with
  | nil => exact absurd found (by simp [Entries.get?])
  | @snoc shapes last entity latest _ _ declared own ih =>
    have grown : Grown [] shapes (shapes ++ [(last, latest)]) :=
      ⟨_, rfl, fun _ _ => List.not_mem_nil⟩
    rw [Entries.get?_append] at found
    cases old : shapes.get? name with
    | some before =>
      rw [old, Option.some_or] at found
      obtain ⟨entity, declared, renders⟩ := ih (old.trans found)
      exact ⟨entity, declared, renders.grown grown⟩
    | none =>
      rw [old, Option.none_or] at found
      obtain ⟨rfl, rfl⟩ := Prod.mk.inj (List.mem_singleton.mp (Entries.mem_of_get? found))
      exact ⟨entity, declared, own.grown grown⟩

/-- Each kind stands after those that it refers to. -/
theorem ordered (resolved : Resolved entities shapes) {before after : List String}
    (parts : shapes.keys = before ++ name :: after) (refers : Refers entities name target) :
    target ∈ before := by
  induction resolved generalizing after with
  | nil => exact absurd parts (by simp [Entries.keys])
  | @snoc shapes last entity latest _ _ declared own ih =>
    rw [Entries.keys_append] at parts
    rcases List.eq_nil_or_concat after with rfl | ⟨others, final, rfl⟩
    · obtain ⟨rfl, here⟩ := List.append_inj' parts rfl
      obtain rfl := List.singleton_inj.mp here
      exact own.mem_keys declared refers
    · rw [List.concat_eq_append, ← List.cons_append, ← List.append_assoc] at parts
      exact ih (List.append_inj' parts rfl).1

/-- All kinds that a kind reaches are resolved before it. -/
theorem ordered_transGen (resolved : Resolved entities shapes) {before after : List String}
    (parts : shapes.keys = before ++ name :: after)
    (reaches : Relation.TransGen (Refers entities) name target) : target ∈ before := by
  induction reaches with
  | single refers => exact resolved.ordered parts refers
  | @tail middle target _ refers earlier =>
    obtain ⟨first, second, rfl⟩ := List.append_of_mem earlier
    rw [List.append_assoc, List.cons_append] at parts
    exact List.mem_append_left _ (resolved.ordered parts refers)

/-- A kind that has been resolved does not reach itself. -/
theorem not_onCycle (resolved : Resolved entities shapes) (member : name ∈ shapes.keys) :
    ¬OnCycle entities name := by
  intro cycle
  obtain ⟨before, after, parts⟩ := List.append_of_mem member
  have twice := resolved.nodup
  rw [parts] at twice
  have earlier := resolved.ordered_transGen parts cycle
  exact (List.nodup_append.mp twice).2.2 name earlier name List.mem_cons_self rfl

end Resolved

/-- The kinds under way are distinct and declared, and each leads to the next one to resolve. -/
structure UnderWay (entities : Entries EntityConfig) (underWay : List String) (name : String) :
    Prop where
  distinct : underWay.Nodup
  declared : underWay ⊆ entities.keys
  leads : ∀ other ∈ underWay, Relation.TransGen (Refers entities) other name

theorem UnderWay.nil (name : String) : UnderWay entities [] name :=
  ⟨List.nodup_nil, List.nil_subset _, fun _ member => absurd member List.not_mem_nil⟩

/-- A kind that is not under way can be entered from the one that refers to it. -/
theorem UnderWay.cons {underWay : List String} {name target : String}
    (path : UnderWay entities underWay name) (fresh : name ∉ underWay)
    (known : name ∈ entities.keys) (refers : Refers entities name target) :
    UnderWay entities (name :: underWay) target := by
  constructor
  · exact List.nodup_cons.mpr ⟨fresh, path.distinct⟩
  · exact List.cons_subset.mpr ⟨known, path.declared⟩
  · intro other member
    rcases List.mem_cons.mp member with rfl | before
    · exact .single refers
    · exact (path.leads other before).tail refers

/-- No more kinds are under way than there are. -/
theorem length_le_of_subset_keys {underWay : List String} (distinct : underWay.Nodup)
    (declared : underWay ⊆ entities.keys) : underWay.length ≤ entities.length := by
  have fewer := (distinct.subperm declared).length_le
  rwa [Entries.keys, List.length_map] at fewer

end Resolved

section Search

variable {resolution : Resolution} {depth : Nat} {underWay : List String} {shapes : Entries Shape}
  {name : String}

/-- The shape of a kind that another kind refers to. -/
def child (resolution : Resolution) (depth : Nat) (underWay : List String) (name : String)
    (shapes : Entries Shape) (target : String) : Except DeclarationError (Shape × Entries Shape) :=
  if resolution.entities.has target then
    resolution.resolve depth (name :: underWay) shapes target
  else .error (.unknownEntity name target)

/-- A kind that has not been resolved and is not under way is resolved after those it refers to. -/
theorem resolve_new {entity : EntityConfig} (new : shapes.get? name = none)
    (fresh : name ∉ underWay) (found : resolution.entities.get? name = some entity) :
    resolution.resolve (depth + 1) underWay shapes name = (do
      let decl ← addRules resolution.names
        { name := name, fields := entity.fields, labels := entity.labels } entity.rules
      let shapeOf := resolution.child depth underWay name
      let (decl, shapes) ← addNested shapeOf .one entity.one decl shapes
      let (decl, shapes) ← addNested shapeOf .many entity.many decl shapes
      let shape ← decl.build resolution.registry
      .ok (shape, shapes.put name shape)) := by
  have unseen : ¬underWay.contains name := fun listed => fresh (List.contains_iff_mem.mp listed)
  rw [resolve]
  simp only [new, found, if_neg unseen]
  rfl

/-- A search that goes deeper than there are kinds does not depend on how deep. -/
theorem resolve_depth {other : Nat} (distinct : underWay.Nodup)
    (declared : underWay ⊆ resolution.entities.keys)
    (enough : resolution.entities.length < depth + underWay.length)
    (also : resolution.entities.length < other + underWay.length) :
    resolution.resolve depth underWay shapes name =
      resolution.resolve other underWay shapes name := by
  have fewer := length_le_of_subset_keys distinct declared
  -- Each step puts one more kind under way, so the sum of both is what the induction keeps.
  induction depth generalizing other underWay shapes name with
  | zero => omega
  | succ depth ih =>
    obtain ⟨other, rfl⟩ : ∃ less, other = less + 1 := ⟨other - 1, by omega⟩
    cases memo : shapes.get? name with
    | some shape => simp only [resolve, memo]
    | none =>
    by_cases again : name ∈ underWay
    · simp only [resolve, memo, if_pos (List.contains_iff_mem.mpr again)]
    cases found : resolution.entities.get? name with
    | none => simp only [resolve, memo, found]
    | some entity =>
    have known : name ∈ resolution.entities.keys := Entries.mem_keys_of_get? found
    have same : resolution.child depth underWay name = resolution.child other underWay name := by
      funext shapes target
      unfold child
      split
      · have longer : (name :: underWay).length = underWay.length + 1 := List.length_cons
        apply ih
        · exact List.nodup_cons.mpr ⟨again, distinct⟩
        · exact List.cons_subset.mpr ⟨known, declared⟩
        · omega
        · omega
        · exact length_le_of_subset_keys (List.nodup_cons.mpr ⟨again, distinct⟩)
            (List.cons_subset.mpr ⟨known, declared⟩)
      · rfl
    rw [resolve_new memo again found, resolve_new memo again found, same]

/-- What is found for a kind: its shape, among those that have been resolved by then. -/
structure Found (entities : Entries EntityConfig) (underWay : List String) (shapes : Entries Shape)
    (name : String) (result : Shape × Entries Shape) : Prop where
  resolved : Resolved entities result.2
  grown : Grown underWay shapes result.2
  listed : result.2.get? name = some result.1

/-- What is added to a declaration for some references: nested declarations that stand for them. -/
structure Nests (entities : Entries EntityConfig) (underWay : List String) (shapes : Entries Shape)
    (decl : ShapeDecl) (references : List (Nested String)) (result : ShapeDecl × Entries Shape) :
    Prop where
  resolved : Resolved entities result.2
  grown : Grown underWay shapes result.2
  nested : ∃ held, result.1 = { decl with nested := decl.nested ++ held } ∧
    List.Forall₂ (Carries result.2) references held

/-- Nested declarations stand under the fields of the references that they carry. -/
theorem map_field_eq_of_carries {references : List (Nested String)} {held : List (Nested Shape)}
    (carries : List.Forall₂ (Carries shapes) references held) :
    held.map Nested.field = references.map Nested.field := by
  induction carries with
  | nil => rfl
  | cons first _ ih => rw [List.map_cons, List.map_cons, first.field, ih]

/-- References of one sort and then of the other are nested in turn. -/
theorem Nests.append {entities : Entries EntityConfig} {decl single whole : ShapeDecl}
    {first second : Entries Shape} {references others : List (Nested String)}
    (one : Nests entities underWay shapes decl references (single, first))
    (many : Nests entities underWay first single others (whole, second)) :
    Nests entities underWay shapes decl (references ++ others) (whole, second) := by
  obtain ⟨held, rfl, carries⟩ := one.nested
  obtain ⟨further, same, also⟩ := many.nested
  refine ⟨many.resolved, one.grown.trans many.grown, held ++ further, ?_, ?_⟩
  · simpa only [List.append_assoc] using same
  · exact List.rel_append (carries.imp fun _ _ => Carries.grown many.grown) also

/-- Nesting the references of one sort settles if resolving each of them does. -/
theorem addNested_settles {entities : Entries EntityConfig}
    {shapeOf : Entries Shape → String → Except DeclarationError (Shape × Entries Shape)}
    (nesting : Nesting) (fields : Entries String)
    (settles : ∀ shapes, Resolved entities shapes → ∀ reference ∈ nesting.references fields,
      Settles entities (Found entities underWay shapes reference.shape)
        (shapeOf shapes reference.shape))
    (resolved : Resolved entities shapes) (decl : ShapeDecl) :
    Settles entities (Nests entities underWay shapes decl (nesting.references fields))
      (addNested shapeOf nesting fields decl shapes) := by
  induction fields generalizing decl shapes with
  | nil =>
    refine .done ⟨resolved, .refl underWay shapes, [], ?_, .nil⟩
    rw [List.append_nil]
  | cons entry rest ih =>
    obtain ⟨field, target⟩ := entry
    have first := settles shapes resolved ⟨field, nesting, target⟩ List.mem_cons_self
    refine first.bind fun ⟨shape, more⟩ found => ?_
    have rest := ih (fun shapes resolved reference member =>
      settles shapes resolved reference (List.mem_cons_of_mem _ member)) found.resolved
      (decl.nest field nesting shape)
    refine rest.imp fun ⟨changed, most⟩ ⟨resolved, grown, held, same, carries⟩ => ?_
    refine ⟨resolved, found.grown.trans grown, ⟨field, nesting, shape⟩ :: held, ?_, ?_⟩
    · simpa [ShapeDecl.nest] using same
    · exact .cons ⟨rfl, rfl, grown.get? found.listed⟩ carries

/-- Nesting the entities of a kind settles if resolving each kind that it refers to does. -/
theorem nest_settles {entities : Entries EntityConfig}
    {shapeOf : Entries Shape → String → Except DeclarationError (Shape × Entries Shape)}
    {entity : EntityConfig}
    (settles : ∀ shapes, Resolved entities shapes → ∀ reference ∈ entity.references,
      Settles entities (Found entities underWay shapes reference.shape)
        (shapeOf shapes reference.shape))
    (resolved : Resolved entities shapes) (decl : ShapeDecl) {α : Type} {property : α → Prop}
    (next : ShapeDecl × Entries Shape → Except DeclarationError α)
    (goesOn : ∀ result, Nests entities underWay shapes decl entity.references result →
      Settles entities property (next result)) :
    Settles entities property (do
      let (decl, shapes) ← addNested shapeOf .one entity.one decl shapes
      let (decl, shapes) ← addNested shapeOf .many entity.many decl shapes
      next (decl, shapes)) := by
  have single := addNested_settles .one entity.one
    (fun shapes resolved reference member =>
      settles shapes resolved reference (List.mem_append_left _ member)) resolved decl
  refine single.bind fun ⟨decl, first⟩ one => ?_
  have several := addNested_settles .many entity.many
    (fun shapes resolved reference member =>
      settles shapes resolved reference (List.mem_append_right _ member)) one.resolved decl
  refine several.bind fun ⟨whole, second⟩ many => ?_
  exact goesOn (whole, second) (one.append many)

/-- When the entities of a sound kind are nested it is built and joins those that are resolved. -/
theorem build_settles {entity : EntityConfig} (own : resolution.Sound entity)
    (new : shapes.get? name = none) (fresh : name ∉ underWay)
    (found : resolution.entities.get? name = some entity) {decl whole : ShapeDecl}
    {more : Entries Shape}
    (same : decl.name = name ∧ decl.fields = entity.fields ∧ decl.nested = [])
    (resolvable : decl.Resolvable resolution.registry)
    (nests : Nests resolution.entities (name :: underWay) shapes decl entity.references
      (whole, more)) :
    Settles resolution.entities (Found resolution.entities underWay shapes name) (do
      let shape ← whole.build resolution.registry
      .ok (shape, more.put name shape)) := by
  obtain ⟨rfl, fields, nothing⟩ := same
  obtain ⟨resolved, grown, held, rfl, carries⟩ := nests
  have distinct := own.distinct
  rw [← map_field_eq_of_carries carries, ← fields] at distinct
  obtain ⟨rules, built⟩ := ShapeDecl.build_eq_ok_of
    { decl with nested := decl.nested ++ held } (by rwa [nothing]) resolvable
  have absent := grown.notMem List.mem_cons_self new
  rw [built]
  refine .done ⟨?_, ?_, ?_⟩
  · rw [Entries.put_of_notMem _ absent]
    refine .snoc resolved absent found ⟨rfl, fields, ?_⟩
    simpa only [nothing, List.nil_append] using carries
  · rw [Entries.put_of_notMem _ absent]
    exact grown.join fresh _
  · exact Entries.get?_put_self _ _ _

/-- A kind of sound kinds is found, or one of those that it reaches is on a cycle. -/
theorem resolve_settles
    (sound : ∀ name entity, resolution.entities.get? name = some entity → resolution.Sound entity)
    (resolved : Resolved resolution.entities shapes)
    (path : UnderWay resolution.entities underWay name)
    (enough : resolution.entities.length < depth + underWay.length)
    (known : name ∈ resolution.entities.keys) :
    Settles resolution.entities (Found resolution.entities underWay shapes name)
      (resolution.resolve depth underWay shapes name) := by
  induction depth generalizing underWay shapes name with
  | zero =>
    have fewer := length_le_of_subset_keys path.distinct path.declared
    omega
  | succ depth ih =>
    cases memo : shapes.get? name with
    | some shape =>
      simp only [resolve, memo]
      exact .done ⟨resolved, .refl underWay shapes, memo⟩
    | none =>
    by_cases again : name ∈ underWay
    · simp only [resolve, memo, if_pos (List.contains_iff_mem.mpr again)]
      exact .cyclic (path.leads name again)
    obtain ⟨entity, found⟩ := Entries.exists_get?_of_mem_keys known
    have own := sound name entity found
    -- The kind itself is under way while those that it refers to are resolved.
    have children : ∀ shapes, Resolved resolution.entities shapes →
        ∀ reference ∈ entity.references, Settles resolution.entities
          (Found resolution.entities (name :: underWay) shapes reference.shape)
          (resolution.child depth underWay name shapes reference.shape) := by
      intro shapes resolved reference member
      have target := own.declared reference member
      have refers : Refers resolution.entities name reference.shape :=
        ⟨entity, found, reference, member, rfl⟩
      rw [child, if_pos (Entries.has_of_mem_keys target)]
      apply ih resolved (path.cons again known refers)
      · rw [List.length_cons]
        omega
      · exact target
    rw [resolve_new memo again found]
    obtain ⟨rules, ruled, resolvable⟩ := addRules_eq_ok
      { name := name, fields := entity.fields, labels := entity.labels } own.rules
      fun _ member => absurd member List.not_mem_nil
    rw [ruled]
    refine nest_settles children resolved
      { name := name, fields := entity.fields, labels := entity.labels, rules := rules }
      (fun result => do
        let shape ← result.1.build resolution.registry
        .ok (shape, result.2.put name shape)) ?_
    intro result nests
    exact build_settles own memo again found ⟨rfl, rfl, rfl⟩ resolvable nests

/-- Resolving all kinds settles: each is resolved, or one is on a cycle. -/
theorem resolveAll_settles
    (sound : ∀ name entity, resolution.entities.get? name = some entity → resolution.Sound entity)
    (names : List String) (known : ∀ name ∈ names, name ∈ resolution.entities.keys)
    (resolved : Resolved resolution.entities shapes) :
    Settles resolution.entities (fun more => Resolved resolution.entities more ∧
        Grown [] shapes more ∧ ∀ name ∈ names, name ∈ more.keys)
      (resolution.resolveAll names shapes) := by
  induction names generalizing shapes with
  | nil => exact .done ⟨resolved, .refl [] shapes, fun _ member => absurd member List.not_mem_nil⟩
  | cons name rest ih =>
    have enough : resolution.entities.length <
        resolution.entities.length + 1 + ([] : List String).length := Nat.lt_succ_self _
    have first := resolve_settles sound resolved (.nil name) enough (known name List.mem_cons_self)
    refine first.bind fun ⟨shape, more⟩ found => ?_
    have others := fun later member => known later (List.mem_cons_of_mem _ member)
    refine (ih others found.resolved).imp fun most ⟨resolved, grown, listed⟩ => ?_
    refine ⟨resolved, found.grown.trans grown, List.forall_mem_cons.mpr ⟨?_, listed⟩⟩
    exact Entries.mem_keys_of_get? (grown.get? found.listed)

end Search

end Resolution

/-- The parts of a schema are right one by one: its scopes, its messages and its kinds. -/
structure Sound (config : SchemaConfig) (registry : Registry) (names : ScopeNames) : Prop where
  scopes : ScopeNames.standard.defineAll config.scopes = .ok names
  messages : ∃ messages, Messages.standard.setAll config.messages = .ok messages
  entities : ∀ name entity, config.entities.get? name = some entity →
    Resolution.Sound ⟨config.entities, registry, names⟩ entity

end SchemaConfig

/-- A schema has one shape for each kind, each after those that it refers to. The nested
declarations of a shape stand for the references of its kind in order, with the shapes that are
listed for the targets. -/
structure Schema.Realizes (schema : Schema) (entities : Entries EntityConfig) : Prop where
  distinct : schema.entityNames.Nodup
  declared : ∀ name, name ∈ schema.entityNames ↔ name ∈ entities.keys
  ordered : ∀ before name after, schema.entityNames = before ++ name :: after →
    ∀ target, Refers entities name target → target ∈ before
  rendered : ∀ name ∈ entities.keys, ∃ entity shape, entities.get? name = some entity ∧
    schema.shape name = .ok shape ∧
      SchemaConfig.Resolution.Renders schema.shapes name entity shape

namespace SchemaConfig

open Resolution in
/-- A schema of resolved kinds realizes its declarations. -/
theorem realizes_of_resolved {entities : Entries EntityConfig} {schema : Schema}
    (resolved : Resolved entities schema.shapes)
    (all : ∀ name ∈ entities.keys, name ∈ schema.entityNames) : schema.Realizes entities where
  distinct := resolved.nodup
  declared name := by
    refine ⟨fun listed => ?_, all name⟩
    obtain ⟨⟨_, shape⟩, member, rfl⟩ := List.mem_map.mp listed
    obtain ⟨entity, found, _⟩ := resolved.renders (Entries.get?_of_mem resolved.nodup member)
    exact Entries.mem_keys_of_get? found
  ordered _ _ _ parts _ refers := resolved.ordered parts refers
  rendered name known := by
    obtain ⟨⟨_, shape⟩, member, rfl⟩ := List.mem_map.mp (all name known)
    have found := Entries.get?_of_mem resolved.nodup member
    obtain ⟨entity, declared, renders⟩ := resolved.renders found
    exact ⟨entity, shape, declared, by rw [Schema.shape, found], renders⟩

/-- Building a schema settles, given that its kinds are sound one by one. -/
theorem buildWith_resolved {config : SchemaConfig} {registry : Registry} {names : ScopeNames}
    (sound : config.Sound registry names) :
    Settles config.entities (fun schema => Resolution.Resolved config.entities schema.shapes ∧
      ∀ name ∈ config.entities.keys, name ∈ schema.entityNames) (config.buildWith registry) := by
  obtain ⟨messages, set⟩ := sound.messages
  let resolution : Resolution := ⟨config.entities, registry, names⟩
  have known : ∀ name ∈ config.entities.keys, name ∈ resolution.entities.keys :=
    fun _ member => member
  have all := Resolution.resolveAll_settles sound.entities config.entities.keys known .nil
  rw [buildWith, sound.scopes, set]
  refine all.bind fun shapes ⟨resolved, _, listed⟩ => ?_
  exact .done ⟨resolved, listed⟩

/-- A kind on a cycle is one of the declared kinds. -/
theorem mem_keys_of_onCycle {entities : Entries EntityConfig} {name : String}
    (cycle : OnCycle entities name) : name ∈ entities.keys := by
  obtain ⟨_, ⟨entity, found, _⟩, _⟩ := Relation.TransGen.head'_iff.mp cycle
  exact Entries.mem_keys_of_get? found

/-- **Kinds that refer to each other.** Let the scopes, the messages and each kind of a schema be
right by themselves, with references to declared kinds alone. Then the schema builds if and only if
no kind reaches itself through references, and otherwise building it names a kind that does. What is
built has one shape for each kind, after those of the kinds that it refers to, and nested in it the
very shapes that are listed for these. The search ends before it reaches its bound: a larger one
makes no difference. -/
theorem buildWith_settles {config : SchemaConfig} {registry : Registry} {names : ScopeNames}
    (sound : config.Sound registry names) :
    ((∃ schema, config.buildWith registry = .ok schema) ↔
        ∀ name, ¬OnCycle config.entities name) ∧
      (∀ error, config.buildWith registry = .error error →
        ∃ name, error = .cyclicShape name ∧ OnCycle config.entities name) ∧
      (∀ schema, config.buildWith registry = .ok schema → schema.Realizes config.entities) ∧
      (∀ depth shapes name, config.entities.length < depth →
        Resolution.resolve ⟨config.entities, registry, names⟩ depth [] shapes name =
          Resolution.resolve ⟨config.entities, registry, names⟩ (config.entities.length + 1) []
            shapes name) ∧
      (config.registry = .ok registry → config.build = config.buildWith registry) := by
  have settles := buildWith_resolved sound
  refine ⟨⟨?_, ?_⟩, ?_, ?_, ?_, ?_⟩
  · rintro ⟨schema, built⟩ name cycle
    rw [built] at settles
    obtain ⟨resolved, all⟩ := settles.of_ok
    exact resolved.not_onCycle (all name (mem_keys_of_onCycle cycle)) cycle
  · intro acyclic
    cases built : config.buildWith registry with
    | ok schema => exact ⟨schema, rfl⟩
    | error error =>
      rw [built] at settles
      obtain ⟨name, _, cycle⟩ := settles.of_error
      exact absurd cycle (acyclic name)
  · intro error failed
    rw [failed] at settles
    exact settles.of_error
  · intro schema built
    rw [built] at settles
    obtain ⟨resolved, all⟩ := settles.of_ok
    exact realizes_of_resolved resolved all
  · intro depth shapes name deep
    exact Resolution.resolve_depth List.nodup_nil (List.nil_subset _) deep (Nat.lt_succ_self _)
  · intro chosen
    rw [build, chosen]
    rfl

/-- Orders of items and of parcels of items. -/
def orders : SchemaConfig where
  entities := [
    ("order", { fields := ["id"], one := [("gift", "item")], many := [("parcels", "parcel")] }),
    ("parcel", { many := [("items", "item")] }),
    ("item", {
      fields := ["name"]
      rules := [("name", [[.string "required", .string "save"]])] })]

theorem orders_sound : orders.Sound (.standard {}) .standard where
  scopes := rfl
  messages := ⟨_, rfl⟩
  entities name entity found := by
    have member := Entries.mem_of_get? found
    simp only [orders, List.mem_cons, List.not_mem_nil, Prod.mk.injEq, or_false] at member
    rcases member with ⟨rfl, rfl⟩ | ⟨rfl, rfl⟩ | ⟨rfl, rfl⟩
    · exact ⟨by decide, by simp, by decide⟩
    · exact ⟨by decide, by simp, by decide⟩
    · refine ⟨by decide, ?_, by decide⟩
      simp only [List.mem_singleton, forall_eq]
      exact ⟨0, _, _, rfl, rfl⟩

/-- Orders and parcels share their items, which are resolved first. -/
theorem buildWith_settles_orders :
    orders.Sound (.standard {}) .standard ∧ (∀ name, ¬OnCycle orders.entities name) ∧
      ∃ schema, orders.build = .ok schema ∧ schema.entityNames = ["item", "parcel", "order"] ∧
        schema.Realizes orders.entities := by
  obtain ⟨acyclic, _, realizes, _, same⟩ := buildWith_settles orders_sound
  obtain ⟨schema, built, names⟩ : ∃ schema, orders.buildWith (.standard {}) = .ok schema ∧
      schema.entityNames = ["item", "parcel", "order"] := ⟨_, rfl, rfl⟩
  exact ⟨orders_sound, acyclic.mp ⟨schema, built⟩, schema, (same rfl).trans built, names,
    realizes schema built⟩

/-- The kind that is named lies on the cycle; another may lead to it. -/
example : (match buildWith { entities := [
        ("cart", { one := [("first", "box")] }),
        ("box", { many := [("inner", "bag")] }),
        ("bag", { one := [("outer", "box")] })] } .empty with
      | .error error => error.message
      | .ok _ => "") = "Entity 'box' is part of a reference cycle" := rfl

end SchemaConfig

end Scrutiny
