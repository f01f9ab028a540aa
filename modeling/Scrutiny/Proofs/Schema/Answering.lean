import Scrutiny.Proofs.Check.Judgement
import Scrutiny.Proofs.Record.Conforming
import Scrutiny.Proofs.Walk.Composition
import Scrutiny.Schema

/-! # Schemas that build give reports

Building a schema resolves the rules of every kind of entity, and of every kind nested in one, with
the built-in checks (`SchemaConfig.shapes_of_build`). A check that runs reads what was accepted when
its rule was resolved, and what it refuses it refuses with a message of the catalog, for which it
supplies all variables. So where a schema does not replace messages, validating a record of one of
its kinds, whatever changes have led to the record, gives a report
(`SchemaConfig.validate_answers`).
-/

namespace Scrutiny

/-- A shape whose rules are resolved with a registry, and so at every depth. -/
def Shape.BuiltWith (registry : Registry) : Shape → Prop :=
  Shape.Everywhere fun shape => ∃ decl : ShapeDecl, decl.build registry = .ok shape

section Rules

variable {registry : Registry}

/-- Each result of a list of steps is that of one of its items. -/
theorem exists_of_mapM {ε α β : Type} {f : α → Except ε β} {items : List α} {results : List β}
    (done : items.mapM f = .ok results) : ∀ result ∈ results, ∃ item, f item = .ok result := by
  induction items generalizing results with
  | nil =>
    obtain rfl := Except.ok.inj done
    exact fun _ member => absurd member List.not_mem_nil
  | cons item rest ih =>
    rw [List.mapM_cons] at done
    obtain ⟨first, made, done⟩ := ok_of_bind done
    obtain ⟨others, more, done⟩ := ok_of_bind done
    obtain rfl := Except.ok.inj done
    intro result member
    rcases List.mem_cons.mp member with rfl | later
    · exact ⟨item, made⟩
    · exact ih more result later

/-- The rules of a shape that is built are resolved. -/
theorem ShapeDecl.resolve_of_resolveRules {decls : Entries (List RuleDecl)}
    {rules : Entries (List Rule)} (resolved : resolveRules registry decls = .ok rules) :
    ∀ entry ∈ rules, ∀ rule ∈ entry.2, ∃ field, registry.resolve field rule.decl = .ok rule := by
  induction decls generalizing rules with
  | nil =>
    obtain rfl := Except.ok.inj resolved
    exact fun _ member => absurd member List.not_mem_nil
  | cons entry rest ih =>
    obtain ⟨field, decls⟩ := entry
    obtain ⟨own, made, resolved⟩ := ok_of_bind resolved
    obtain ⟨others, more, resolved⟩ := ok_of_bind resolved
    obtain rfl := Except.ok.inj resolved
    intro entry member rule listed
    rcases List.mem_cons.mp member with rfl | later
    · obtain ⟨decl, found⟩ := exists_of_mapM made rule listed
      obtain ⟨rfl, _⟩ := Registry.resolve_eq_ok found
      exact ⟨field, found⟩
    · exact ih more entry later rule listed

/-- A shape that is built has rules that its registry has resolved. -/
theorem Shape.resolved_of_build {decl : ShapeDecl} {shape : Shape}
    (built : decl.build registry = .ok shape) :
    ∀ entry ∈ shape.rules, ∀ rule ∈ entry.2,
      ∃ field, registry.resolve field rule.decl = .ok rule := by
  obtain ⟨_, rules, resolved, rfl⟩ := ShapeDecl.build_eq_ok built
  exact ShapeDecl.resolve_of_resolveRules resolved

end Rules

namespace SchemaConfig

namespace Resolution

/-- Shapes that are all built. -/
def AllBuilt (registry : Registry) (shapes : Entries Shape) : Prop :=
  ∀ entry ∈ shapes, entry.2.BuiltWith registry

variable {registry : Registry}

/-- Adding rules leaves the fields for nested entities as they are. -/
theorem nested_of_addRules {names : ScopeNames} {rules : Entries (List (List Value))}
    {decl changed : ShapeDecl} (done : addRules names decl rules = .ok changed) :
    changed.nested = decl.nested := by
  induction rules generalizing decl with
  | nil => rw [← Except.ok.inj done]
  | cons entry rest ih =>
    obtain ⟨field, parts⟩ := entry
    obtain ⟨own, _, done⟩ := ok_of_bind done
    rw [ih done]
    split <;> rfl

/-- If the shapes that are found are built, those that are added are. -/
theorem built_of_addNested
    {shapeOf : Entries Shape → String → Except DeclarationError (Shape × Entries Shape)}
    (keeps : ∀ {shapes more target shape}, AllBuilt registry shapes →
      shapeOf shapes target = .ok (shape, more) → shape.BuiltWith registry ∧ AllBuilt registry more)
    {nesting : Nesting} {fields : Entries String} {decl changed : ShapeDecl}
    {shapes more : Entries Shape}
    (done : addNested shapeOf nesting fields decl shapes = .ok (changed, more))
    (all : AllBuilt registry shapes)
    (held : ∀ nested ∈ decl.nested, nested.shape.BuiltWith registry) :
    (∀ nested ∈ changed.nested, nested.shape.BuiltWith registry) ∧ AllBuilt registry more := by
  induction fields generalizing decl shapes with
  | nil =>
    obtain ⟨rfl, rfl⟩ := Prod.mk.inj (Except.ok.inj done)
    exact ⟨held, all⟩
  | cons entry rest ih =>
    obtain ⟨field, target⟩ := entry
    obtain ⟨⟨shape, further⟩, found, done⟩ := ok_of_bind done
    obtain ⟨built, all⟩ := keeps all found
    refine ih done all fun nested member => ?_
    rcases List.mem_append.mp member with old | new
    · exact held nested old
    · rw [List.mem_singleton.mp new]
      exact built

/-- The shape of a kind is built, and so are all that have been resolved with it. -/
theorem built_of_resolve {resolution : Resolution} {depth : Nat} {underWay : List String}
    {shapes more : Entries Shape} {name : String} {shape : Shape}
    (all : AllBuilt resolution.registry shapes)
    (done : resolution.resolve depth underWay shapes name = .ok (shape, more)) :
    shape.BuiltWith resolution.registry ∧ AllBuilt resolution.registry more := by
  induction depth generalizing underWay shapes more name shape with
  | zero => exact absurd done (by simp [resolve])
  | succ depth ih =>
    rw [resolve] at done
    split at done
    · next found =>
      obtain ⟨rfl, rfl⟩ := Prod.mk.inj (Except.ok.inj done)
      exact ⟨all _ (Entries.mem_of_get? found), all⟩
    split at done
    · exact absurd done (by simp)
    split at done
    · exact absurd done (by simp)
    · next entity _ =>
      obtain ⟨ruled, addRules_done, done⟩ := ok_of_bind done
      obtain ⟨⟨single, first⟩, one, done⟩ := ok_of_bind done
      obtain ⟨⟨whole, second⟩, many, done⟩ := ok_of_bind done
      obtain ⟨made, built, done⟩ := ok_of_bind done
      obtain ⟨rfl, rfl⟩ := Prod.mk.inj (Except.ok.inj done)
      have keeps {shapes more : Entries Shape} {target : String} {shape : Shape}
          (all : AllBuilt resolution.registry shapes)
          (found : (if resolution.entities.has target then
            resolution.resolve depth (name :: underWay) shapes target
            else .error (.unknownEntity name target)) = .ok (shape, more)) :
          shape.BuiltWith resolution.registry ∧ AllBuilt resolution.registry more := by
        split at found
        · exact ih all found
        · exact absurd found (by simp)
      have none : ∀ nested ∈ ruled.nested, nested.shape.BuiltWith resolution.registry := by
        rw [nested_of_addRules addRules_done]
        exact fun _ member => absurd member List.not_mem_nil
      obtain ⟨held, all⟩ := built_of_addNested keeps one all none
      obtain ⟨held, all⟩ := built_of_addNested keeps many all held
      obtain ⟨_, rules, _, shape_eq⟩ := ShapeDecl.build_eq_ok built
      have own : made.BuiltWith resolution.registry :=
        .mk ⟨whole, built⟩ (by rw [shape_eq]; exact held)
      refine ⟨own, fun entry member => ?_⟩
      rcases Entries.mem_put member with old | rfl
      · exact all entry old
      · exact own

/-- Resolving kinds one after another makes built shapes only. -/
theorem built_of_resolveAll {resolution : Resolution} {names : List String}
    {shapes more : Entries Shape} (all : AllBuilt resolution.registry shapes)
    (done : resolution.resolveAll names shapes = .ok more) : AllBuilt resolution.registry more := by
  induction names generalizing shapes with
  | nil =>
    obtain rfl := Except.ok.inj done
    exact all
  | cons name rest ih =>
    obtain ⟨⟨shape, further⟩, found, done⟩ := ok_of_bind done
    exact ih (built_of_resolve all found).2 done

end Resolution

/-- A schema has the built-in checks, under its policy. -/
theorem registry_eq_standard {config : SchemaConfig} {registry : Registry}
    (done : config.registry = .ok registry) : ∃ policy, registry = .standard policy := by
  unfold SchemaConfig.registry at done
  split at done
  · next policy _ =>
    obtain ⟨_, _, done⟩ := ok_of_bind done
    exact ⟨policy, (Except.ok.inj done).symm⟩
  · exact ⟨{}, (Except.ok.inj done).symm⟩

/-- The kinds of a schema that builds are built with the built-in checks, and messages that are not
replaced are those of the catalog. -/
theorem shapes_of_build {config : SchemaConfig} {schema : Schema}
    (built : config.build = .ok schema) :
    (∃ policy, config.registry = .ok (.standard policy) ∧
      ∀ entry ∈ schema.shapes, entry.2.BuiltWith (.standard policy)) ∧
      (config.messages = [] → schema.messages = .standard) := by
  obtain ⟨registry, chosen, built⟩ := ok_of_bind built
  obtain ⟨policy, rfl⟩ := registry_eq_standard chosen
  obtain ⟨names, _, built⟩ := ok_of_bind built
  obtain ⟨messages, replaced, built⟩ := ok_of_bind built
  obtain ⟨shapes, resolved, built⟩ := ok_of_bind built
  obtain rfl := Except.ok.inj built
  refine ⟨⟨policy, chosen, ?_⟩, fun plain => ?_⟩
  · exact Resolution.built_of_resolveAll
      (fun _ member => absurd member List.not_mem_nil) resolved
  · rw [plain] at replaced
    exact (Except.ok.inj replaced).symm

end SchemaConfig

/-- With the messages of the catalog, a walk over a record with rules of built-in checks gives a
report. -/
theorem validate_record_answers {entity : Entity}
    (builtIn : ∀ shape ∈ entity.shapes, ∀ entry ∈ shape.rules, ∀ rule ∈ entry.2, rule.BuiltIn)
    (scope : Scope) (seed : ErrorMap) :
    ∃ report, (validate .record .standard scope seed entity).outcome = .ok report := by
  have answers (call : Walk.Call) (member : call ∈ Walk.calls ⟨.record, .standard, scope⟩ entity)
      (rule : Rule) (listed : rule ∈ call.rules) :
      ∃ outcome, rule.test (call.input ⟨.record, .standard, scope⟩) = .ok outcome := by
    obtain ⟨shape, known, own⟩ := Walk.rules_of_mem_calls _ member
    exact (builtIn shape known _ own rule listed).judged.answers rfl
  have never := Walk.runCalls_flow _ _ seed answers
  rw [validate_outcome_eq Conduct.record_quiet]
  exact ⟨_, Stretch.outcome_eq never⟩

/-- **A schema that builds gives reports.** Where a schema builds and replaces no messages, every
validation of a record of one of its kinds, whatever changes have led to the record and whatever the
operations are, ends with a report. A rule is tried by running the procedure of its check with the
arguments as they were declared. Whatever the registry has compiled before, in resolving rules and
in trying them, the run says what the test of the rule says, and with the messages of the schema it
gives an outcome: it fails neither for want of a message or of one of its variables, nor for its
arguments, a pattern or a word. -/
theorem SchemaConfig.validate_answers {config : SchemaConfig} {schema : Schema}
    (built : config.build = .ok schema) (plain : config.messages = []) {name : String}
    {shape : Shape} (known : schema.shape name = .ok shape) {record : Entity}
    (reachable : Entity.Reachable shape record) (scope : Scope) (seed : ErrorMap) :
    ∃ policy, config.registry = .ok (.standard policy) ∧
      (∀ inner ∈ record.shapes, ∀ entry ∈ inner.rules, ∀ rule ∈ entry.2,
        ∃ procedure, (Registry.procedures policy).get? rule.decl.check = some procedure ∧
          ∀ memory, Memory.Reached policy memory → ∀ input,
            (procedure.run input rule.decl.args memory).1 = rule.test input ∧
              (input.messages = schema.messages →
                ∃ outcome, (procedure.run input rule.decl.args memory).1 = .ok outcome)) ∧
      ∃ report, (validate .record schema.messages scope seed record).outcome = .ok report := by
  obtain ⟨⟨policy, chosen, shapes⟩, catalog⟩ := shapes_of_build built
  rw [catalog plain]
  have everywhere : shape.BuiltWith (.standard policy) := by
    unfold Schema.shape at known
    split at known
    · next found =>
      obtain rfl := Except.ok.inj known
      exact shapes _ (Entries.mem_of_get? found)
    · exact absurd known (by simp)
  have resolved (inner : Shape) (member : inner ∈ record.shapes) : ∀ entry ∈ inner.rules,
      ∀ rule ∈ entry.2, ∃ field, (Registry.standard policy).resolve field rule.decl = .ok rule := by
    obtain ⟨decl, made⟩ := reachable.conforms.of_everywhere everywhere inner member
    exact Shape.resolved_of_build made
  have builtIn (inner : Shape) (member : inner ∈ record.shapes) : ∀ entry ∈ inner.rules,
      ∀ rule ∈ entry.2, rule.BuiltIn := fun entry own rule listed =>
    ⟨policy, resolved inner member entry own rule listed⟩
  refine ⟨policy, chosen, fun inner member entry own rule listed => ?_,
    validate_record_answers builtIn scope seed⟩
  obtain ⟨field, found⟩ := resolved inner member entry own rule listed
  obtain ⟨procedure, known, runs⟩ := Registry.run_of_resolve found
  refine ⟨procedure, known, fun memory reached input => ?_⟩
  have same := runs memory reached.sound input
  refine ⟨same, fun messages => ?_⟩
  rw [same]
  exact (builtIn inner member entry own rule listed).judged.answers messages

/-- Users with a name that is neither blank nor long and is made of small letters. -/
def SchemaConfig.users : SchemaConfig where
  entities := [("user", {
    fields := ["name"]
    rules := [("name", [[.string "required", .string "save"],
      [.string "max_length", .string "save", .number (.int 5)],
      [.string "regex", .string "save", .string "^[a-z]+$"]])] })]

/-- A user without a name gets a report, and a name is matched with the pattern without fault also
where the pattern has to be compiled again. -/
theorem SchemaConfig.validate_answers_users :
    ∃ schema shape, users.build = .ok schema ∧ users.messages = [] ∧
      schema.shape "user" = .ok shape ∧ Entity.Reachable shape (Entity.fresh shape) ∧
      (∃ outcome, (Check.regex.run (.alone (.string "Ann")) [.string "^[a-z]+$"] .empty).1 =
        .ok outcome) ∧
      ∃ report, (validate .record schema.messages .save .empty (Entity.fresh shape)).outcome =
        .ok report := by
  obtain ⟨schema, built⟩ : ∃ schema, users.build = .ok schema := ⟨_, rfl⟩
  obtain ⟨shape, known, rules, own, rule, listed, check, args⟩ :
      ∃ shape, schema.shape "user" = .ok shape ∧ ∃ rules, ("name", rules) ∈ shape.rules ∧
        ∃ rule ∈ rules, rule.decl.check = "regex" ∧ rule.decl.args = [.string "^[a-z]+$"] := by
    obtain rfl := Except.ok.inj built
    exact ⟨_, rfl, _, .head _, _, .tail _ (.tail _ (.head _)), rfl, rfl⟩
  have catalog : schema.messages = .standard := (shapes_of_build built).2 rfl
  obtain ⟨policy, -, tried, answers⟩ := validate_answers built rfl known .fresh .save .empty
  obtain ⟨procedure, found, runs⟩ :=
    tried shape (Walk.shape_mem_shapes (Entity.fresh shape)) _ own rule listed
  rw [check] at found
  obtain rfl : Check.regex = procedure := Option.some.inj found
  have matched := (runs .empty .empty (.alone (.string "Ann"))).2 catalog.symm
  rw [args] at matched
  exact ⟨schema, shape, built, rfl, known, .fresh, matched, answers⟩

end Scrutiny
