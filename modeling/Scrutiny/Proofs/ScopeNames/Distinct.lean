import Scrutiny.Proofs.Record.Tracing
import Scrutiny.Proofs.ScopeNames.Reading

/-! # Names of scopes are apart

Names are defined one after another, and some of the definitions are refused. Whatever they are, the
names for one operation stand for different operations, and what a name stands for never changes
(`ScopeNames.after_apart`). A test is only called for operations of its rule, so a rule that is
declared with one of these names is never run for another.
-/

namespace Scrutiny

namespace Scope

theorem intersects_comm {left right : Scope} : left.intersects right ↔ right.intersects left := by
  simp only [intersects_iff, and_comm]

theorem IsSingle.ne_all {scope : Scope} (single : scope.IsSingle) : scope ≠ .all := by
  rintro rfl
  exact single.not_all_le fun _ member => member

end Scope

namespace ScopeNames

/-- The table after a definition has been tried. -/
def tried (table : ScopeNames) (call : String × Nat) : ScopeNames :=
  (table.tryDefine call.1 call.2).2

/-- The table after several definitions have been tried in turn. -/
def after (table : ScopeNames) (calls : List (String × Nat)) : ScopeNames :=
  calls.foldl tried table

/-- The names that every table has for several operations. -/
def composite : List String := ["save", "all"]

/-- The names for one operation each stand for an operation of their own, no name stands twice, and
none can be taken for a control flag. -/
structure Apart (table : ScopeNames) : Prop where
  unique : table.names.keys.Nodup
  uncontrolled : ∀ name ∈ table.names.keys, Control.named? name = none
  single : ∀ name scope, table.names.get? name = some scope → name ∉ composite → scope.IsSingle
  disjoint : ∀ name other scope taken, table.names.get? name = some scope →
    table.names.get? other = some taken → name ∉ composite → other ∉ composite → name ≠ other →
    ¬scope.intersects taken

/-- The names that are there from the start are apart. -/
theorem apart_standard : standard.Apart where
  unique := by decide
  uncontrolled := by decide
  single name scope found basic := by
    have member := Entries.mem_of_get? found
    simp only [standard, List.mem_cons, List.not_mem_nil, Prod.mk.injEq, or_false] at member
    rcases member with ⟨rfl, rfl⟩ | ⟨rfl, rfl⟩ | ⟨rfl, rfl⟩ | ⟨rfl, rfl⟩ | ⟨rfl, rfl⟩ | ⟨rfl, rfl⟩
    · exact Scope.isSingle_of_single? (show Scope.single? 1 = some _ from rfl)
    · exact Scope.isSingle_of_single? (show Scope.single? 2 = some _ from rfl)
    · exact Scope.isSingle_of_single? (show Scope.single? 4 = some _ from rfl)
    · exact Scope.isSingle_of_single? (show Scope.single? 8 = some _ from rfl)
    · exact absurd List.mem_cons_self basic
    · exact absurd (List.mem_cons_of_mem _ List.mem_cons_self) basic
  disjoint name other scope taken found also basic plain different := by
    have table : ∀ one ∈ standard.names, ∀ two ∈ standard.names, one.1 ∉ composite →
        two.1 ∉ composite → one.1 ≠ two.1 → ¬one.2.intersects two.2 := by decide
    exact table _ (Entries.mem_of_get? found) _ (Entries.mem_of_get? also) basic plain different

section Define

variable {table defined : ScopeNames} {name : String} {value : Nat} {scope : Scope}

/-- What a table has after a definition it had before, or the definition has put it there. -/
theorem get?_of_define (done : table.define name value = .ok (scope, defined)) {key : String}
    {named : Scope} (found : defined.names.get? key = some named) :
    key = plain name ∧ named = scope ∨ key ≠ plain name ∧ table.names.get? key = some named := by
  obtain ⟨_, _, _, _, rfl⟩ := define_eq_ok done
  by_cases own : key = plain name
  · rw [own, Entries.get?_put_self] at found
    exact .inl ⟨own, (Option.some.inj found).symm⟩
  · rw [Entries.get?_put_of_ne _ _ own] at found
    exact .inr ⟨own, found⟩

/-- A definition leaves the names that were there. -/
theorem get?_define (done : table.define name value = .ok (scope, defined)) {key : String}
    {named : Scope} (found : table.names.get? key = some named) :
    defined.names.get? key = some named := by
  obtain ⟨new, _, _, _, rfl⟩ := define_eq_ok done
  have different : key ≠ plain name := by
    rintro rfl
    exact new (Entries.mem_keys_of_get? found)
  rw [Entries.get?_put_of_ne _ _ different, found]

/-- The bit of a new name belongs to no other name for one operation. -/
theorem Apart.not_intersects_new (apart : table.Apart)
    (done : table.define name value = .ok (scope, defined)) {key : String} {named : Scope}
    (found : table.names.get? key = some named) (basic : key ∉ composite) :
    ¬named.intersects scope := by
  obtain ⟨_, _, _, free, _⟩ := define_eq_ok done
  -- Only the scope of all operations is exempt from the search, and this name has another.
  exact free _ (Entries.mem_of_get? found) (apart.single key named found basic).ne_all

/-- A definition keeps names apart. -/
theorem Apart.define (apart : table.Apart)
    (done : table.define name value = .ok (scope, defined)) : defined.Apart := by
  obtain ⟨new, uncontrolled, single, _, same⟩ := define_eq_ok done
  have keys : defined.names.keys = table.names.keys ++ [plain name] := by
    rw [same, Entries.keys_put_of_notMem _ new]
  constructor
  · rw [same]
    exact Entries.nodup_put apart.unique _ _
  · rw [keys]
    intro key member
    rcases List.mem_append.mp member with old | own
    · exact apart.uncontrolled key old
    · rw [List.mem_singleton.mp own, uncontrolled]
  · intro key named found basic
    rcases get?_of_define done found with ⟨_, rfl⟩ | ⟨_, old⟩
    · exact single
    · exact apart.single key named old basic
  · intro key other named taken found also basic plain different
    rcases get?_of_define done found with ⟨rfl, rfl⟩ | ⟨_, old⟩
    · rcases get?_of_define done also with ⟨rfl, _⟩ | ⟨_, before⟩
      · exact absurd rfl different
      · exact mt Scope.intersects_comm.mp (apart.not_intersects_new done before plain)
    · rcases get?_of_define done also with ⟨rfl, rfl⟩ | ⟨_, before⟩
      · exact apart.not_intersects_new done old basic
      · exact apart.disjoint key other named taken old before basic plain different

end Define

/-- A definition that is refused leaves the table. -/
theorem tried_of_error {table : ScopeNames} {name : String} {value : Nat} {error : DeclarationError}
    (refused : table.define name value = .error error) : table.tried (name, value) = table :=
  tryDefine_of_error (define_eq_error_iff.mp refused)

/-- A definition that is tried is made or refused. -/
theorem tried_cases (table : ScopeNames) (call : String × Nat) :
    (∃ scope, table.define call.1 call.2 = .ok (scope, table.tried call)) ∨
      table.tried call = table := by
  obtain ⟨name, value⟩ := call
  cases result : table.define name value with
  | error error => exact .inr (tried_of_error result)
  | ok made =>
    obtain ⟨scope, defined⟩ := made
    have same : table.tried (name, value) = defined :=
      congrArg Prod.snd (define_eq_ok_iff.mp result)
    exact .inl ⟨scope, by rw [same]⟩

/-- Names stay apart through any calls, refused ones included. -/
theorem Apart.after {table : ScopeNames} (apart : table.Apart) (calls : List (String × Nat)) :
    (table.after calls).Apart := by
  induction calls generalizing table with
  | nil => exact apart
  | cons call rest ih =>
    apply ih
    rcases table.tried_cases call with ⟨_, done⟩ | kept
    · exact apart.define done
    · rw [kept]
      exact apart

/-- What a name stands for never changes. -/
theorem get?_after {table : ScopeNames} {name : String} {scope : Scope}
    (found : table.names.get? name = some scope) (calls : List (String × Nat)) :
    (table.after calls).names.get? name = some scope := by
  induction calls generalizing table with
  | nil => exact found
  | cons call rest ih =>
    apply ih
    rcases table.tried_cases call with ⟨_, done⟩ | kept
    · exact get?_define done found
    · rw [kept]
      exact found

/-- Defining all of a list at once is defining them one after another. -/
theorem after_of_defineAll {table whole : ScopeNames} {calls : List (String × Nat)}
    (done : table.defineAll calls = .ok whole) : whole = table.after calls := by
  induction calls generalizing table with
  | nil => exact (Except.ok.inj done).symm
  | cons call rest ih =>
    rw [defineAll] at done
    split at done
    · next scope defined first =>
      have here : table.tried call = defined := congrArg Prod.snd (define_eq_ok_iff.mp first)
      rw [ScopeNames.after, List.foldl_cons, here]
      exact ih done
    · exact absurd done (by simp)

end ScopeNames

/-- A rule that names no scope but one: it is made with the scope of the name, or it is read from
flags that are the name and control flags. -/
inductive RuleDecl.OnlyFor (table : ScopeNames) (name : String) : RuleDecl → Prop
  | made {decl : RuleDecl} : table.names.get? name = some decl.scope → OnlyFor table name decl
  | read {field check expression : String} {index : Nat} {args : List Value} {decl : RuleDecl} :
      RuleDecl.ofValues field index table (.string check :: .string expression :: args) = .ok decl →
      (∀ token ∈ ScopeNames.tokens expression, token = name ∨ (Control.named? token).isSome) →
      OnlyFor table name decl

/-- A rule that names no scope but one is for no other operations. -/
theorem RuleDecl.OnlyFor.has {table : ScopeNames} {name : String} {scope : Scope} {decl : RuleDecl}
    (only : decl.OnlyFor table name) (apart : table.Apart)
    (found : table.names.get? name = some scope) {place : Nat} (member : decl.scope.Has place) :
    scope.Has place := by
  cases only with
  | made own =>
    obtain rfl := Option.some.inj (own.symm.trans found)
    exact member
  | read read flags =>
    rw [ofValues] at read
    split at read
    · next whole control parsed =>
      obtain rfl := Except.ok.inj read
      have adds := (ScopeNames.has_of_addTokens parsed place).mp member
      obtain ⟨token, listed, named, known, inside⟩ := adds.resolve_left (Scope.not_has_none place)
      rcases flags token listed with rfl | control
      · obtain rfl := Option.some.inj (known.symm.trans found)
        exact inside
      · have none := apart.uncontrolled token (Entries.mem_keys_of_get? known)
        exact absurd control (by simp [none])
    · exact absurd read (by simp)

namespace Walk

/-- A test is called only for a rule whose scope has an operation of the walk. -/
theorem intersects_of_mem_trials {inspection : Inspection} {number : Nat} {rules : List Rule}
    {errors : ErrorMap} {trial : Trial} (member : trial ∈ trials inspection number rules errors) :
    trial.rule.decl.scope.intersects inspection.input.scope := by
  induction rules generalizing number errors with
  | nil => exact absurd member List.not_mem_nil
  | cons rule rest ih =>
    simp only [trials] at member
    split at member
    · exact ih member
    next inside =>
    have own : rule.decl.scope.intersects inspection.input.scope := by simpa using inside
    split at member
    · exact absurd member List.not_mem_nil
    split at member
    · rw [List.mem_singleton.mp member]
      exact own
    rcases List.mem_cons.mp member with rfl | later
    · exact own
    · exact ih later

end Walk

/-- A test is only called for a rule that shares an operation with the walk. -/
theorem intersects_of_mem_events {conduct : Conduct} {messages : Messages} {scope : Scope}
    {seed : ErrorMap} {entity : Entity} {key : String} {decl : RuleDecl} {input : CheckInput}
    (called : .check key decl input ∈ (validate conduct messages scope seed entity).events) :
    decl.scope.intersects scope := by
  rw [(validate_eq_told conduct messages scope seed entity).1] at called
  obtain ⟨deed, done, event⟩ := List.mem_map.mp called
  cases deed with
  | trial trial =>
    obtain ⟨_, rfl, rfl⟩ := Event.check.inj event
    obtain ⟨act, listed, errors, made⟩ := Walk.comesFrom_of_mem_deeds _ done
    obtain rfl := (Walk.of_mem_act_deeds _ made).2.2 trial rfl
    rcases List.mem_cons.mp made with same | made
    · exact absurd same (by simp)
    · obtain ⟨other, tried, same⟩ := List.mem_map.mp made
      obtain rfl := Walk.Deed.trial.inj same
      have shared := Walk.intersects_of_mem_trials tried
      obtain ⟨_, _, _, input⟩ := Walk.input_of_mem_acts listed
      rwa [input] at shared
  | _ => exact absurd event (by simp [Walk.Deed.event])

/-- A rule that names no scope but one is not run for the operation of another name. -/
theorem RuleDecl.OnlyFor.not_mem_events {table : ScopeNames} {name other : String}
    {scope taken : Scope} {decl : RuleDecl} (only : decl.OnlyFor table name) (apart : table.Apart)
    (found : table.names.get? name = some scope) (also : table.names.get? other = some taken)
    (basic : name ∉ ScopeNames.composite) (plain : other ∉ ScopeNames.composite)
    (different : name ≠ other) (conduct : Conduct) (messages : Messages) (seed : ErrorMap)
    (entity : Entity) (key : String) (input : CheckInput) :
    .check key decl input ∉ (validate conduct messages taken seed entity).events := by
  intro called
  obtain ⟨place, own, shared⟩ := Scope.intersects_iff.mp (intersects_of_mem_events called)
  apply apart.disjoint name other scope taken found also basic plain different
  exact Scope.intersects_iff.mpr ⟨place, only.has apart found own, shared⟩

/-- The names of a schema are those that its scopes define. -/
theorem SchemaConfig.names_of_buildWith {config : SchemaConfig} {registry : Registry}
    {schema : Schema} (built : config.buildWith registry = .ok schema) :
    schema.names = ScopeNames.standard.after config.scopes := by
  obtain ⟨names, defined, built⟩ := ok_of_bind built
  obtain ⟨_, _, built⟩ := ok_of_bind built
  obtain ⟨_, _, built⟩ := ok_of_bind built
  obtain rfl := Except.ok.inj built
  exact ScopeNames.after_of_defineAll defined

/-- **Names of scopes are apart.** Let any definitions be tried one after another, some of which may
be refused. Then each name but those for saving and for all operations stands for one operation, and
different ones for different operations; no name stands twice or is that of a control flag. A
refused definition changes nothing, and no definition changes what a name stands for. So a rule
that names one of these scopes alone is never run for another, whatever is validated, and a schema
that builds has such names. -/
theorem ScopeNames.after_apart (calls : List (String × Nat)) :
    let table := standard.after calls
    table.Apart ∧
      (∀ name value error, table.define name value = .error error →
        table.tried (name, value) = table) ∧
      (∀ more name scope, table.names.get? name = some scope →
        (table.after more).names.get? name = some scope) ∧
      (∀ name other scope taken decl, table.names.get? name = some scope →
        table.names.get? other = some taken → name ∉ composite → other ∉ composite →
        name ≠ other → decl.OnlyFor table name →
        ∀ conduct messages seed entity key input,
          .check key decl input ∉ (validate conduct messages taken seed entity).events) ∧
      ∀ config registry schema, SchemaConfig.buildWith config registry = .ok schema →
        config.scopes = calls → schema.names = table := by
  intro table
  have apart : table.Apart := apart_standard.after calls
  refine ⟨apart, fun _ _ _ refused => tried_of_error refused,
    fun more _ _ found => get?_after found more, ?_, ?_⟩
  · intro name other scope taken decl found also basic plain different only
    exact only.not_mem_events apart found also basic plain different
  · rintro config registry schema built rfl
    exact SchemaConfig.names_of_buildWith built

/-- Posts that have to have a title to be published. -/
def SchemaConfig.posts : SchemaConfig where
  scopes := [("Publish ", 16), ("archive", 32)]
  entities := [("post", {
    fields := ["title"]
    rules := [("title", [[.string "required", .string "publish|exit_on_failure"]])] })]

/-- The title of a post is looked at when it is published, and not when it is archived. -/
theorem ScopeNames.after_apart_posts :
    let table := standard.after SchemaConfig.posts.scopes
    let parts := [Value.string "required", .string "publish|exit_on_failure"]
    table.names.get? "publish" = some ⟨16⟩ ∧ table.names.get? "archive" = some ⟨32⟩ ∧
      "publish" ∉ composite ∧ "archive" ∉ composite ∧
      (∃ error, table.define "review" 16 = .error error ∧ table.tried ("review", 16) = table) ∧
      (table.after [("review", 64)]).names.get? "publish" = some ⟨16⟩ ∧
      ∃ decl schema shape, RuleDecl.ofValues "title" 0 table parts = .ok decl ∧
        decl.OnlyFor table "publish" ∧
        SchemaConfig.posts.buildWith (.standard {}) = .ok schema ∧ schema.names = table ∧
        schema.shape "post" = .ok shape ∧
        let post : Entity := ⟨shape, [("title", .string "news")], []⟩
        (∃ key input, .check key decl input ∈
          (validate .record schema.messages ⟨16⟩ .empty post).events) ∧
        ∀ key input, .check key decl input ∉
          (validate .record schema.messages ⟨32⟩ .empty post).events := by
  intro table parts
  obtain ⟨_, refuses, keeps, passes, builds⟩ := after_apart SchemaConfig.posts.scopes
  have publish : table.names.get? "publish" = some ⟨16⟩ := rfl
  have archive : table.names.get? "archive" = some ⟨32⟩ := rfl
  have basic : "publish" ∉ composite := by decide
  have plain : "archive" ∉ composite := by decide
  obtain ⟨error, refused⟩ : ∃ error, table.define "review" 16 = .error error := ⟨_, rfl⟩
  obtain ⟨decl, schema, shape, read, built, known, called⟩ : ∃ decl schema shape,
      RuleDecl.ofValues "title" 0 table parts = .ok decl ∧
      SchemaConfig.posts.buildWith (.standard {}) = .ok schema ∧ schema.shape "post" = .ok shape ∧
      ∃ key input, .check key decl input ∈ (validate .record schema.messages ⟨16⟩ .empty
        ⟨shape, [("title", .string "news")], []⟩).events :=
    ⟨_, _, _, rfl, rfl, rfl, _, _,
      List.mem_cons_of_mem _ (List.mem_cons_of_mem _ List.mem_cons_self)⟩
  have only : decl.OnlyFor table "publish" := .read read (by decide)
  have passed := passes "publish" "archive" _ _ decl publish archive basic plain (by decide) only
  exact ⟨publish, archive, basic, plain, ⟨error, refused, refuses _ _ _ refused⟩,
    keeps [("review", 64)] _ _ publish, decl, schema, shape, read, only, built,
    builds _ _ schema built rfl, known, called, passed .record schema.messages .empty _⟩

end Scrutiny
