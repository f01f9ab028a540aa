import Scrutiny.Proofs.ErrorMap.Recording
import Scrutiny.Proofs.Walk.Account

/-! # Walks that go on in step

Two walks that call the same rules with input that the tests cannot tell apart go on in the same
way, if the errors of one are carried over to the other: recording has to carry over, and where a
rule is kept back by errors the two have to agree on whether there are any. Seeding is the first
case: with a seed that keeps back no rule, a walk does what it does without, and its errors are
merged into the seed (`validate_record_seeded`).
-/

namespace Scrutiny

variable {carry : ErrorMap → ErrorMap} {known : ErrorMap → Prop}

/-- Two parts of walks go on in the same way, and the errors of the first are carried over to the
second. What is known of the first errors is kept. -/
structure Stretch.Follows (carry : ErrorMap → ErrorMap) (known : ErrorMap → Prop)
    (first second : Stretch Unit) : Prop where
  errors : second.errors = carry first.errors
  flow : second.flow = first.flow
  known : known first.errors

namespace Stretch.Follows

theorem still {errors : ErrorMap} (fine : known errors) :
    Follows carry known (.still errors) (.still (carry errors)) :=
  ⟨rfl, rfl, fine⟩

/-- What follows in two parts follows as a whole. -/
theorem andThen {first second : Stretch Unit} {next other : ErrorMap → Stretch Unit}
    (follows : Follows carry known first second)
    (onward : ∀ errors, known errors → Follows carry known (next errors) (other (carry errors))) :
    Follows carry known (first.andThen next) (second.andThen other) := by
  by_cases proceeds : first.flow = .proceed
  · rw [andThen_of_proceed _ proceeds, andThen_of_proceed _ (follows.flow.trans proceeds),
      follows.errors]
    obtain ⟨errors, flow, fine⟩ := onward first.errors follows.known
    exact ⟨errors, flow, fine⟩
  · have stops : second.flow ≠ .proceed := follows.flow ▸ proceeds
    rw [andThen_of_stops _ proceeds, andThen_of_stops _ stops]
    exact follows

/-- The reports differ in their errors alone. -/
theorem outcome {first second : Stretch Unit} (follows : Follows carry known first second) :
    second.outcome = first.outcome.map fun report => ⟨carry report.errors, report.aborted⟩ := by
  simp only [Stretch.outcome, follows.flow, follows.errors]
  cases first.flow <;> rfl

end Stretch.Follows

/-- What is recorded under a key is carried over to another key. -/
structure ErrorMap.Carries (carry : ErrorMap → ErrorMap) (known : ErrorMap → Prop)
    (key other : String) : Prop where
  record : ∀ errors messages, known errors →
    carry (errors.extendAt key messages) = (carry errors).extendAt other messages
  known : ∀ errors messages, known errors → known (errors.extendAt key messages)

namespace Walk

/-- A rule that is in scope and can be kept back by errors. -/
def Watchful (scope : Scope) (rule : Rule) : Prop :=
  rule.decl.scope.intersects scope ∧ rule.decl.control.exitIfAlreadyErrored

/-- A list of rules follows one under another key, if recording carries over. -/
theorem runRules_follows {key other : String} (carries : ErrorMap.Carries carry known key other)
    {input further : CheckInput} {rules : List Rule}
    (scope : ∀ rule ∈ rules,
      rule.decl.scope.intersects further.scope = rule.decl.scope.intersects input.scope)
    (tests : ∀ rule ∈ rules, rule.test further = rule.test input)
    (agree : ∀ rule ∈ rules, Watchful input.scope rule → ∀ errors, known errors →
      (carry errors).has other = errors.has key)
    {errors : ErrorMap} (fine : known errors) :
    Stretch.Follows carry known (runRules key input rules errors)
      (runRules other further rules (carry errors)) := by
  induction rules generalizing errors with
  | nil => exact .still fine
  | cons rule rest ih =>
    have later {errors : ErrorMap} (fine : known errors) :=
      ih (fun rule member => scope rule (List.mem_cons_of_mem _ member))
        (fun rule member => tests rule (List.mem_cons_of_mem _ member))
        (fun rule member => agree rule (List.mem_cons_of_mem _ member)) fine
    simp only [runRules, scope rule List.mem_cons_self, tests rule List.mem_cons_self]
    by_cases inside : rule.decl.scope.intersects input.scope
    · -- Whether the rule is kept back is all that the two walks read of their errors.
      have guard : (rule.decl.control.exitIfAlreadyErrored && (carry errors).has other) =
          (rule.decl.control.exitIfAlreadyErrored && errors.has key) := by
        cases watches : rule.decl.control.exitIfAlreadyErrored with
        | false => rfl
        | true => rw [agree rule List.mem_cons_self ⟨inside, watches⟩ errors fine]
      have goes (messages : List String) (ends : Bool) : Stretch.Follows carry known
          (if ends then
            ⟨(), errors.extendAt key messages, [.check key rule.decl input], .proceed⟩
          else
            let others := runRules key input rest (errors.extendAt key messages)
            { others with events := .check key rule.decl input :: others.events })
          (if ends then
            ⟨(), (carry errors).extendAt other messages, [.check other rule.decl further], .proceed⟩
          else
            let others := runRules other further rest ((carry errors).extendAt other messages)
            { others with events := .check other rule.decl further :: others.events }) := by
        rw [← carries.record errors messages fine]
        have fine := carries.known errors messages fine
        split
        · exact ⟨rfl, rfl, fine⟩
        · exact ⟨(later fine).errors, (later fine).flow, (later fine).known⟩
      simp only [inside, guard, Bool.not_true, Bool.false_eq_true, ↓reduceIte]
      split
      · exact .still fine
      cases rule.test input with
      | error failure => exact ⟨rfl, rfl, fine⟩
      | ok outcome =>
        cases outcome with
        | abort => exact ⟨rfl, rfl, fine⟩
        | pass => exact goes [] rule.decl.control.exitOnSuccess
        | errors messages => exact goes messages _
    · simp only [inside, Bool.not_false, ↓reduceIte]
      exact later fine

/-- A call is carried over to another of the same rules. -/
structure Call.Carries (carry : ErrorMap → ErrorMap) (known : ErrorMap → Prop) (setting : Setting)
    (first second : Call) : Prop where
  rules : second.rules = first.rules
  key : ErrorMap.Carries carry known first.key second.key
  tests : ∀ rule ∈ first.rules, rule.test (second.input setting) = rule.test (first.input setting)
  agree : ∀ rule ∈ first.rules, Watchful setting.scope rule → ∀ errors, known errors →
    (carry errors).has second.key = errors.has first.key

/-- A call follows one that it is carried to. -/
theorem Call.Carries.run {setting : Setting} {first second : Call}
    (carries : first.Carries carry known setting second) {errors : ErrorMap}
    (fine : known errors) :
    Stretch.Follows carry known (first.run setting errors) (second.run setting (carry errors)) := by
  have scope (rule : Rule) (_ : rule ∈ first.rules) :
      rule.decl.scope.intersects (second.input setting).scope =
        rule.decl.scope.intersects (first.input setting).scope := rfl
  have follows : Stretch.Follows carry known
      (runRules first.key (first.input setting) first.rules errors)
      (runRules second.key (second.input setting) first.rules (carry errors)) :=
    runRules_follows carries.key scope carries.tests carries.agree fine
  unfold Call.run
  rw [carries.rules]
  exact ⟨follows.errors, follows.flow, follows.known⟩

/-- Calls that are carried over one by one go on in the same way. -/
theorem runCalls_follows {setting : Setting} {change : Call → Call} {list : List Call}
    (carries : ∀ call ∈ list, call.Carries carry known setting (change call)) (errors : ErrorMap)
    (fine : known errors) :
    Stretch.Follows carry known (runCalls setting list errors)
      (runCalls setting (list.map change) (carry errors)) := by
  induction list generalizing errors with
  | nil => exact .still fine
  | cons call rest ih =>
    exact ((carries call List.mem_cons_self).run fine).andThen fun _ fine =>
      ih (fun call member => carries call (List.mem_cons_of_mem _ member)) _ fine

end Walk

/-- With hooks that never keep it from going on, a walk ends as its calls do. -/
theorem validate_outcome_eq {conduct : Conduct} (quiet : conduct.Quiet) (messages : Messages)
    (scope : Scope) (seed : ErrorMap) (entity : Entity) :
    let setting : Walk.Setting := ⟨conduct, messages, scope⟩
    (validate conduct messages scope seed entity).outcome =
      (Walk.runCalls setting (Walk.calls setting entity) seed).outcome := by
  intro setting
  exact congrArg Stretch.outcome (Walk.visit_work setting quiet entity "" [] seed)

theorem ErrorMap.carries_merge (seed : ErrorMap) (key : String) :
    ErrorMap.Carries seed.merge ErrorMap.Recorded key key where
  record _ messages recorded := ErrorMap.merge_extendAt seed recorded key messages
  known _ messages recorded := recorded.extendAt key messages

/-- **Seeding is merging.** Where a seed has no message under the key of a rule that errors keep
back, a walk over records with the seed ends as the walk without it, and its errors are those of the
walk without it merged into the seed: the messages of the seed stand first under every key, and its
keys stand first. -/
theorem validate_record_seeded (messages : Messages) (scope : Scope) (seed : ErrorMap)
    (entity : Entity)
    (apart : ∀ call ∈ Walk.calls ⟨.record, messages, scope⟩ entity, ∀ rule ∈ call.rules,
      Walk.Watchful scope rule → seed.has call.key = false) :
    let plain := (validate .record messages scope .empty entity).outcome
    (validate .record messages scope seed entity).outcome =
        plain.map (fun report => ⟨seed.merge report.errors, report.aborted⟩) ∧
      ∀ report, plain = .ok report → seed.keys <+: (seed.merge report.errors).keys ∧
        ∀ key, (seed.merge report.errors).messages key =
          seed.messages key ++ report.errors.messages key := by
  intro plain
  have carries (call : Walk.Call) (member : call ∈ Walk.calls ⟨.record, messages, scope⟩ entity) :
      call.Carries seed.merge ErrorMap.Recorded ⟨.record, messages, scope⟩ call := by
    refine ⟨rfl, ErrorMap.carries_merge seed call.key, fun _ _ => rfl, ?_⟩
    intro rule listed watches errors recorded
    have silent := apart call member rule listed watches
    rw [ErrorMap.has_eq, Bool.not_eq_false', List.isEmpty_iff] at silent
    rw [ErrorMap.has_eq, ErrorMap.has_eq, ErrorMap.messages_merge seed recorded, silent,
      List.nil_append]
  have follows := Walk.runCalls_follows carries .empty .empty
  rw [List.map_id'] at follows
  have plainly : plain = _ :=
    validate_outcome_eq Conduct.record_quiet messages scope .empty entity
  refine ⟨?_, fun report done => ⟨ErrorMap.keys_prefix_merge seed report.errors, fun key => ?_⟩⟩
  · rw [plainly, ← follows.outcome]
    exact validate_outcome_eq Conduct.record_quiet messages scope seed entity
  · have errors := Stretch.errors_of_outcome (plainly.symm.trans done)
    exact ErrorMap.messages_merge seed (errors ▸ follows.known) key

namespace Walk

/-- A field that is wrong, and a field with a rule that errors keep back. -/
def guardedForm : Entity :=
  let decl : RuleDecl := ⟨"fixed", [], .all, { exitIfAlreadyErrored := true }⟩
  let guarded : Rule := ⟨decl, fun _ => .ok (.error "missing")⟩
  ⟨⟨"form", [], [], [("name", [fixedRule (.error "too short")]), ("mail", [guarded])], []⟩, [], []⟩

end Walk

/-- A seed with messages for another field and for the one that is wrong. -/
theorem validate_record_seeded_guardedForm :
    let seed : ErrorMap := ⟨[("phone", ["unknown"]), ("name", ["taken"])]⟩
    (∀ call ∈ Walk.calls ⟨.record, ⟨[]⟩, .save⟩ Walk.guardedForm, ∀ rule ∈ call.rules,
        Walk.Watchful .save rule → seed.has call.key = false) ∧
      (validate .record ⟨[]⟩ .save seed Walk.guardedForm).outcome = .ok ⟨⟨[("phone", ["unknown"]),
        ("name", ["taken", "too short"]), ("mail", ["missing"])]⟩, false⟩ := by
  intro seed
  have apart : ∀ call ∈ Walk.calls ⟨.record, ⟨[]⟩, .save⟩ Walk.guardedForm, ∀ rule ∈ call.rules,
      Walk.Watchful .save rule → seed.has call.key = false := by
    intro call member rule listed watches
    simp [Walk.calls, Walk.nodes, Walk.slotsNodes, Walk.Node.calls, Walk.guardedForm,
      Walk.prepared] at member
    rcases member with rfl | rfl
    · obtain rfl := List.mem_singleton.mp listed
      exact absurd watches.2 (by decide)
    · decide +kernel
  refine ⟨apart, (validate_record_seeded ⟨[]⟩ .save seed Walk.guardedForm apart).1.trans ?_⟩
  rfl

end Scrutiny
