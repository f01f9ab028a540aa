import Scrutiny.Proofs.Check.Preparing
import Scrutiny.Proofs.Template.Plain

/-! # What the built-in checks go by

A built-in check judges a value by the value itself and by the values and labels of the other
fields of its entity. The verdict is to let the value pass, to abort, or to refuse the value with a
message of the catalog, and then the check supplies every variable of the message. This is shown
once for all built-in checks (`Registry.judged_procedures`). It follows that a test
neither looks at the entities around its own nor at the scope (`Test.Judged.apart`), and that with
the messages of the catalog it always gives an outcome (`Test.Judged.answers`).
-/

namespace Scrutiny

/-- What a check says of a value before its message is written. -/
inductive Verdict where
  | pass
  | abort
  | refuse (name : String) (params : Entries Value)

namespace Verdict

def outcome (input : CheckInput) : Verdict → Except Failure Outcome
  | pass => .ok .pass
  | abort => .ok .abort
  | refuse name params => input.refuse name params

/-- The message of a refusal is in the catalog. The label of the field and the given parameters are
all the variables it has, and each of the parameters can be printed. -/
def Worded : Verdict → Prop
  | refuse name params =>
    (∀ entry ∈ params, ∃ text, Template.printed entry.2 = .ok text) ∧
      ∃ needed, Messages.standardVariables.get? name = some needed ∧
        ∀ wanted ∈ needed, wanted = "label" ∨ params.has wanted
  | _ => True

/-- Let a value pass if a condition holds, and refuse it otherwise. -/
def require (condition : Bool) (name : String) (params : Entries Value) : Verdict :=
  if condition then pass else refuse name params

/-- A verdict on a condition says what requiring the condition says. -/
theorem outcome_require (input : CheckInput) (condition : Bool) (name : String)
    (params : Entries Value) :
    (require condition name params).outcome input = input.require condition name params := by
  cases condition <;> rfl

/-- A verdict on a condition is worded if its refusal is. -/
theorem Worded.require {name : String} {params : Entries Value}
    (worded : (refuse name params).Worded) (condition : Bool) :
    (require condition name params).Worded := by
  cases condition with
  | true => exact True.intro
  | false => exact worded

end Verdict

/-- The test goes by its value and by the values and labels of the other fields, and what it says
can be put into words. -/
def Test.Judged (test : Test) : Prop :=
  ∃ judge : Value → (String → Value) → (String → String) → Verdict,
    (∀ value sibling labelOf, (judge value sibling labelOf).Worded) ∧
      ∀ input, test input = (judge input.value input.sibling input.labelOf).outcome input

/-- The test does not look at the entities around its own. -/
def Test.Local (test : Test) : Prop :=
  ∀ (input : CheckInput) (lineage : List Snapshot),
    test { input with lineage := lineage } = test input

namespace CheckInput

/-- A value in the only field of an entity that stands by itself. -/
def alone (value : Value) : CheckInput where
  field := "f"
  label := "f"
  value
  scope := .all
  sibling _ := .null
  labelOf field := field
  lineage := []
  messages := .standard

/-- What is required lets a value pass if the condition holds, and in no other case. -/
theorem require_eq_pass_iff (input : CheckInput) (condition : Bool) (name : String)
    (params : Entries Value) :
    input.require condition name params = .ok .pass ↔ condition = true := by
  cases condition with
  | true => exact iff_of_true rfl rfl
  | false =>
    refine iff_of_false (fun passes => ?_) Bool.false_ne_true
    simp only [require, refuse, Bool.false_eq_true, if_false] at passes
    cases worded : input.message name params <;> rw [worded] at passes <;> cases passes

/-- A parameter with a default is there, and so are the others. -/
theorem has_withDefault (params : Entries Value) (name : String) (value : Value) (key : String) :
    (withDefault params name value).has key = true ↔ key = name ∨ params.has key = true := by
  unfold withDefault
  split
  · next present =>
    refine ⟨.inr, ?_⟩
    rintro (rfl | found)
    · exact present
    · exact found
  · by_cases same : key = name
    · simp [Entries.has, same, Entries.get?_put_self]
    · simp [Entries.has, same, Entries.get?_put_of_ne params value same]

/-- Parameters that can be printed can be so with a text added. -/
theorem printed_withDefault {params : Entries Value} (name text : String)
    (prints : ∀ entry ∈ params, ∃ text, Template.printed entry.2 = .ok text) :
    ∀ entry ∈ withDefault params name (.string text), ∃ text,
      Template.printed entry.2 = .ok text := by
  unfold withDefault
  split
  · exact prints
  · intro entry member
    rcases Entries.mem_put member with old | rfl
    · exact prints entry old
    · exact ⟨text, rfl⟩

/-- A refusal that is put into words with the messages of the catalog does not fail. -/
theorem refuse_of_worded {input : CheckInput} (catalog : input.messages = .standard)
    {name : String} {params : Entries Value} (worded : (Verdict.refuse name params).Worded) :
    ∃ outcome, input.refuse name params = .ok outcome := by
  obtain ⟨prints, needed, known, supplied⟩ := worded
  have prints := printed_withDefault "label" input.label prints
  have prints := printed_withDefault "field" input.field prints
  have prints := printed_withDefault "value" input.value.display prints
  have wants : input.messages.wants? name = some needed := by
    rw [catalog, Messages.wants?_standard, known]
  obtain ⟨text, rendered⟩ := Messages.render_of_wants wants fun wanted member => by
    have present := (has_withDefault _ "value" (.string input.value.display) wanted).mpr
      (.inr ((has_withDefault _ "field" (.string input.field) wanted).mpr
        (.inr ((has_withDefault params "label" (.string input.label) wanted).mpr
          (supplied wanted member)))))
    obtain ⟨value, found⟩ := Option.isSome_iff_exists.mp present
    obtain ⟨text, printed⟩ := prints _ (Entries.mem_of_get? found)
    exact ⟨value, text, found, printed⟩
  refine ⟨.error text, ?_⟩
  simp only [refuse, message, rendered]
  rfl

end CheckInput

namespace Test.Judged

variable {test : Test}

/-- The test looks neither at the entities around its own nor at the scope. -/
theorem apart (judged : test.Judged) (input : CheckInput) (lineage : List Snapshot)
    (scope : Scope) : test { input with lineage := lineage, scope := scope } = test input := by
  obtain ⟨judge, _, decides⟩ := judged
  rw [decides, decides]
  cases judge input.value input.sibling input.labelOf <;> rfl

/-- With the messages of the catalog the test gives an outcome. -/
theorem answers (judged : test.Judged) {input : CheckInput} (catalog : input.messages = .standard) :
    ∃ outcome, test input = .ok outcome := by
  obtain ⟨judge, worded, decides⟩ := judged
  rw [decides]
  have worded := worded input.value input.sibling input.labelOf
  cases verdict : judge input.value input.sibling input.labelOf with
  | pass => exact ⟨.pass, rfl⟩
  | abort => exact ⟨.abort, rfl⟩
  | refuse name params =>
    rw [verdict] at worded
    exact CheckInput.refuse_of_worded catalog worded

end Test.Judged

namespace Check

/-- A test that lets values pass by a condition on what it looks at. -/
theorem judged_require (condition : Value → (String → Value) → (String → String) → Bool)
    (name : String) (params : Value → (String → Value) → (String → String) → Entries Value)
    (worded : ∀ value sibling labelOf,
      (Verdict.refuse name (params value sibling labelOf)).Worded) :
    Test.Judged fun input =>
      input.require (condition input.value input.sibling input.labelOf) name
        (params input.value input.sibling input.labelOf) :=
  ⟨fun value sibling labelOf =>
      .require (condition value sibling labelOf) name (params value sibling labelOf),
    fun value sibling labelOf => (worded value sibling labelOf).require _,
    fun input => (Verdict.outcome_require input _ _ _).symm⟩

/-- A test of the value alone, with a message that has no parameter of its own. -/
theorem judged_bare (condition : Value → Bool) {name : String}
    (known : Messages.standardVariables.get? name = some ["label"]) :
    Test.Judged fun input => input.require (condition input.value) name [] :=
  judged_require (fun value _ _ => condition value) name (fun _ _ _ => [])
    fun _ _ _ => ⟨by simp, _, known, by simp⟩

/-- A message with one parameter that can be printed. -/
theorem worded_single {name param : String} {value : Value} {text : String}
    (known : Messages.standardVariables.get? name = some ["label", param])
    (prints : Template.printed value = .ok text) :
    (Verdict.refuse name [(param, value)]).Worded :=
  ⟨by simp [prints], _, known, by simp [Entries.has, Entries.get?]⟩

theorem judged_requiredIf (args : List Value) :
    Makes Test.Judged (requiredIf.prepare args) := by
  refine makes_requiredIf fun other => judged_require
    (fun value sibling _ =>
      !value.isBlank || !args.tail.any fun expected => expected.looselySame (sibling other))
    "required_if"
    (fun _ sibling labelOf =>
      [("other", .string (labelOf other)), ("expected", .string (sibling other).display)])
    fun value sibling labelOf => ?_
  refine ⟨?_, ["label", "other", "expected"], rfl, ?_⟩
  · simp [Template.printed]
  · simp [Entries.has, Entries.get?]

theorem judged_sameAs (args : List Value) : Makes Test.Judged (sameAs.prepare args) :=
  makes_sameAs fun other => judged_require
    (fun value sibling _ => value.isBlank || value.looselySame (sibling other)) "same_as"
    (fun _ _ labelOf => [("other", .string (labelOf other))])
    fun _ _ _ => worded_single rfl rfl

/-- What a bound says of a value: nothing if the value stands for no number. -/
def boundVerdict (name : String) (keeps : Float → Float → Bool) (bound : Number) (value : Value) :
    Verdict :=
  match numeric? value with
  | none => .pass
  | some actual => .require (keeps actual bound.toFloat) name [(name, .number bound)]

/-- A bound on the numbers that values are or stand for. -/
theorem judged_bound (name : String) (keeps : Float → Float → Bool)
    (known : Messages.standardVariables.get? name = some ["label", name]) (args : List Value) :
    Makes Test.Judged ((bound name keeps).prepare args) := by
  refine makes_bound fun bound _ _ =>
    ⟨fun value _ _ => boundVerdict name keeps bound value, fun value _ _ => ?_, fun input => ?_⟩
  · have worded : (Verdict.refuse name [(name, .number bound)]).Worded := worded_single known rfl
    dsimp only [boundVerdict]
    cases numeric? value with
    | none => exact True.intro
    | some actual => exact worded.require (keeps actual bound.toFloat)
  · dsimp only [boundVerdict]
    cases numeric? input.value with
    | none => rfl
    | some actual => exact (Verdict.outcome_require input _ _ _).symm

theorem judged_oneOf (args : List Value) : Makes Test.Judged (oneOf.prepare args) :=
  makes_plain (judged_require
    (fun value _ _ => value.isBlank || args.any fun choice => choice.looselySame value) "one_of"
    (fun _ _ _ => [("choices", .string (String.intercalate ", " (args.map Value.display)))])
    fun _ _ _ => worded_single rfl rfl)

/-- A test that aborts by a condition on the value. -/
theorem judged_abort (condition : Value → Bool) :
    Test.Judged fun input => .ok (if condition input.value then .abort else .pass) := by
  refine ⟨fun value _ _ => if condition value then .abort else .pass, fun value _ _ => ?_,
    fun input => ?_⟩
  · dsimp only
    cases condition value <;> exact True.intro
  · dsimp only
    cases condition input.value <;> rfl

theorem judged_regex (args : List Value) : Makes Test.Judged (regex.prepare args) := by
  refine makes_regex fun text pattern _ => judged_require
    (fun value _ _ => value.isBlank || pattern.matchesText value.display) "regex"
    (fun _ _ _ => [("pattern", .string text)]) fun _ _ _ => ?_
  exact ⟨by simp [Template.printed], ["label"], rfl, by simp⟩

/-- The check for banned words judges, under every policy. -/
theorem judged_bannedWords (policy : Word.Policy) (args : List Value) :
    Makes Test.Judged ((bannedWords policy).prepare args) := by
  refine makes_bannedWords fun find => ?_
  refine ⟨fun value _ _ =>
    if value.isBlank then .pass
    else (find value.display).elim .pass fun found =>
      .refuse "banned_words"
        [("word", .string found.fragment), ("fragment", .string found.fragment)],
    fun value _ _ => ?_, fun input => ?_⟩
  · dsimp only
    cases value.isBlank with
    | true => exact True.intro
    | false =>
      cases find value.display with
      | none => exact True.intro
      | some found =>
        refine ⟨?_, ["label", "word"], rfl, ?_⟩
        · simp [Template.printed]
        · simp [Entries.has, Entries.get?]
  · dsimp only
    cases input.value.isBlank with
    | true => rfl
    | false => cases find input.value.display <;> rfl

end Check

namespace Registry

/-- Whatever their arguments, the procedures of the built-in checks make tests that go by the value
and the other fields, and that can put into words what they say. -/
theorem judged_procedures (policy : Word.Policy) : ∀ entry ∈ procedures policy, ∀ args,
    Check.Makes Test.Judged (entry.2.prepare args) := by
  intro entry member args
  simp only [procedures, List.mem_cons, List.not_mem_nil, or_false] at member
  rcases member with rfl | rfl | rfl | rfl | rfl | rfl | rfl | rfl | rfl | rfl | rfl | rfl | rfl |
    rfl | rfl | rfl
  · exact Check.makes_plain (Check.judged_bare (fun value => !value.isBlank) rfl)
  · exact Check.judged_requiredIf args
  · exact Check.judged_sameAs args
  · exact Check.makes_minLength fun least => Check.judged_require
      (fun value _ _ => value.isBlank || least ≤ Check.length value) "min_length"
      (fun _ _ _ => [("min", .number (.int least))]) fun _ _ _ => Check.worded_single rfl rfl
  · exact Check.makes_maxLength fun most => Check.judged_require
      (fun value _ _ => value.isBlank || Check.length value ≤ most) "max_length"
      (fun _ _ _ => [("max", .number (.int most))]) fun _ _ _ => Check.worded_single rfl rfl
  · exact Check.judged_bound "min" (fun actual bound => actual ≥ bound) rfl args
  · exact Check.judged_bound "max" (fun actual bound => actual ≤ bound) rfl args
  · exact Check.makes_plain
      (Check.judged_bare (fun value => value.isBlank || Check.isWhole value) rfl)
  · exact Check.makes_plain
      (Check.judged_bare (fun value => value.isBlank || (Check.numeric? value).isSome) rfl)
  · exact Check.judged_oneOf args
  · exact Check.makes_plain
      (Check.judged_bare (fun value => value.isBlank || Check.isMailAddress value.display) rfl)
  · exact Check.makes_plain (Check.judged_bare
      (fun value => value.isBlank ||
        Calendar.isMoment (args.head?.bind Value.text?) (Text.trimChars value.display.toList)) rfl)
  · exact Check.makes_plain (Check.judged_abort fun value =>
      args.any fun arg => arg.looselySame value)
  · exact Check.makes_plain (Check.judged_abort Value.isBlank)
  · exact Check.judged_regex args
  · exact Check.judged_bannedWords policy args

variable {policy : Word.Policy} {name : String} {check : Check}

/-- A built-in check is that of a procedure. -/
theorem procedure_of_get? (known : (standard policy).checks.get? name = some check) :
    ∃ procedure, (procedures policy).get? name = some procedure ∧ check = procedure.toCheck := by
  rw [standard, Entries.get?_mapValues, Option.map_eq_some_iff] at known
  obtain ⟨procedure, known, rfl⟩ := known
  exact ⟨procedure, known, rfl⟩

end Registry

/-- A resolved rule is the declared one, with the test that its check makes of the arguments. -/
theorem Registry.resolve_eq_ok {registry : Registry} {field : String} {decl : RuleDecl}
    {rule : Rule}
    (resolved : registry.resolve field decl = .ok rule) :
    rule.decl = decl ∧ ∃ check, registry.checks.get? decl.check = some check ∧
      check.prepare decl.args = .ok rule.test := by
  unfold resolve at resolved
  split at resolved
  · exact absurd resolved (by simp)
  split at resolved
  · exact absurd resolved (by simp)
  next check found =>
  split at resolved
  · exact absurd resolved (by simp)
  next test made =>
  obtain rfl := Except.ok.inj resolved
  exact ⟨rfl, check, found, made⟩

/-- A rule with a built-in check is tried by running the procedure of the check with the arguments
of the rule, and whatever has been compiled before, the run says what the test of the rule says. -/
theorem Registry.run_of_resolve {policy : Word.Policy} {field : String} {rule : Rule}
    (resolved : (standard policy).resolve field rule.decl = .ok rule) :
    ∃ procedure, (procedures policy).get? rule.decl.check = some procedure ∧
      ∀ memory, memory.Sound policy → ∀ input,
        (procedure.run input rule.decl.args memory).1 = rule.test input := by
  obtain ⟨_, check, found, made⟩ := resolve_eq_ok resolved
  obtain ⟨procedure, known, rfl⟩ := procedure_of_get? found
  have steady := steady_procedures policy _ (Entries.mem_of_get? known)
  exact ⟨procedure, known, fun memory sound input => steady.run_eq made sound input⟩

/-- The rule is one that a registry of the built-in checks resolves. -/
def Rule.BuiltIn (rule : Rule) : Prop :=
  ∃ policy field, (Registry.standard policy).resolve field rule.decl = .ok rule

/-- The test of a rule with a built-in check goes by its value and the other fields. -/
theorem Rule.BuiltIn.judged {rule : Rule} (builtIn : rule.BuiltIn) : rule.test.Judged := by
  obtain ⟨policy, field, resolved⟩ := builtIn
  obtain ⟨_, check, found, made⟩ := Registry.resolve_eq_ok resolved
  obtain ⟨procedure, known, rfl⟩ := Registry.procedure_of_get? found
  exact Registry.judged_procedures policy _ (Entries.mem_of_get? known) _ _ made

/-- A rule with a built-in check does not look at the entities around. -/
theorem Rule.BuiltIn.test_local {rule : Rule} (builtIn : rule.BuiltIn) : rule.test.Local :=
  fun input lineage => builtIn.judged.apart input lineage input.scope

end Scrutiny
