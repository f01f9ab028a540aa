import Scrutiny.Proofs.Walk.Scoping

/-! # Where a list of rules stops

The rules of a list that are in scope are tried in order up to the first place where the list stops:
before a rule that does not run over errors, if there is a message under the key by then, and after
a rule that fails to give an outcome, that aborts, or whose flags end the list with its outcome.
Which rules are tried is all that there is to say of a run. Its events are their calls, it records
their messages one after the other, and it goes on unless one of them aborts or fails
(`Walk.runRules_tried`).
-/

namespace Scrutiny

namespace Rule

/-- The messages that a rule records for what its test looks at. -/
def messages (rule : Rule) (input : CheckInput) : List String :=
  match rule.test input with
  | .ok (.errors messages) => messages
  | _ => []

/-- How a walk goes on after a rule. -/
def flow (rule : Rule) (input : CheckInput) : Flow :=
  match rule.test input with
  | .error failure => .fail failure
  | .ok .abort => .abort
  | .ok _ => .proceed

theorem flow_eq_abort_iff (rule : Rule) (input : CheckInput) :
    rule.flow input = .abort ↔ rule.test input = .ok .abort := by
  unfold flow
  split <;> simp_all

/-- A rule fails if its test does, and for the same reason. -/
theorem flow_eq_fail_iff (rule : Rule) (input : CheckInput) (failure : Failure) :
    rule.flow input = .fail failure ↔ rule.test input = .error failure := by
  unfold flow
  split <;> simp_all

/-- A rule that has been tried ends its list. -/
inductive Ends (rule : Rule) (input : CheckInput) : Prop
  | failed {failure : Failure} : rule.test input = .error failure → Ends rule input
  | aborted : rule.test input = .ok .abort → Ends rule input
  | refused {messages : List String} : rule.test input = .ok (.errors messages) → messages ≠ [] →
      rule.decl.control.exitOnFailure → Ends rule input
  | passed {outcome : Outcome} : rule.test input = .ok outcome → outcome.isPass →
      rule.decl.control.exitOnSuccess → Ends rule input

/-- A rule that does not run over errors is held back if there is a message under the key, be it
from the start or from one of the rules that have been tried. -/
def HeldBack (rule : Rule) (key : String) (input : CheckInput) (errors : ErrorMap)
    (tried : List Rule) : Prop :=
  rule.decl.control.exitIfAlreadyErrored ∧
    (errors.has key ∨ ∃ earlier ∈ tried, earlier.messages input ≠ [])

end Rule

namespace Walk

/-- A list of rules stops between those that have been tried and the rest: nothing is left, the next
rule is held back, or the last one ends the list. -/
inductive StopsBetween (key : String) (input : CheckInput) (errors : ErrorMap) :
    List Rule → List Rule → Prop
  | exhausted {tried : List Rule} : StopsBetween key input errors tried []
  | heldBack {tried rest : List Rule} {next : Rule} : next.HeldBack key input errors tried →
      StopsBetween key input errors tried (next :: rest)
  | ended {before rest : List Rule} {last : Rule} : last.Ends input →
      StopsBetween key input errors (before ++ [last]) rest

/-- The rules of a list that are tried: those in scope up to the first place where it stops. -/
structure Tried (key : String) (input : CheckInput) (errors : ErrorMap) (rules tried : List Rule) :
    Prop where
  stop : ∃ rest, Rule.inScope input.scope rules = tried ++ rest ∧
    StopsBetween key input errors tried rest
  first : ∀ before after, Rule.inScope input.scope rules = before ++ after →
    StopsBetween key input errors before after → tried <+: before

/-- What trying rules comes to. -/
structure ComesTo (key : String) (input : CheckInput) (errors : ErrorMap) (tried : List Rule)
    (run : Stretch Unit) : Prop where
  events : run.events = tried.map fun rule => .check key rule.decl input
  errors : run.errors = errors.extendAt key (tried.flatMap fun rule => rule.messages input)
  aborts : run.flow = .abort ↔ ∃ rule ∈ tried, rule.test input = .ok .abort
  fails : ∀ failure, run.flow = .fail failure ↔ ∃ rule ∈ tried, rule.test input = .error failure

section Stopping

variable {key : String} {input : CheckInput} {errors : ErrorMap} {rule : Rule}
  {rules rest tried : List Rule}

/-- There is one way to try the rules of a list. -/
theorem Tried.unique {other : List Rule} (one : Tried key input errors rules tried)
    (two : Tried key input errors rules other) : tried = other := by
  obtain ⟨rest, whole, stops⟩ := one.stop
  obtain ⟨further, also, ends⟩ := two.stop
  have shorter := one.first other further also ends
  exact shorter.eq_of_length_le (two.first tried rest whole stops).length_le

/-- With nothing tried, a rule is held back by the errors that are there already. -/
theorem heldBack_nil : rule.HeldBack key input errors [] ↔
    (rule.decl.control.exitIfAlreadyErrored && errors.has key) = true := by
  simp [Rule.HeldBack]

/-- A rule is held back by what the rule before has recorded as by what was there. -/
theorem heldBack_cons (rule next : Rule) : next.HeldBack key input errors (rule :: tried) ↔
    next.HeldBack key input (errors.extendAt key (rule.messages input)) tried := by
  have recorded : (errors.extendAt key (rule.messages input)).has key ↔
      errors.has key ∨ rule.messages input ≠ [] := by
    simp only [ErrorMap.has_eq, ErrorMap.messages_extendAt_self, Bool.not_eq_true',
      List.isEmpty_eq_false_iff, ne_eq, List.append_eq_nil_iff, Decidable.not_and_iff_not_or_not]
  simp only [Rule.HeldBack, recorded, List.mem_cons, exists_eq_or_imp, or_assoc]

/-- A list does not stop before its first rule unless this is held back. -/
theorem not_stopsBetween_nil (free : ¬ rule.HeldBack key input errors []) :
    ¬ StopsBetween key input errors [] (rule :: rest) := by
  generalize start : ([] : List Rule) = tried at free ⊢
  rintro (_ | held | _)
  · exact free held
  · simp at start

/-- After a rule that does not end the list, the list stops where the rest of it stops. -/
theorem stopsBetween_cons (goes : ¬ rule.Ends input) :
    StopsBetween key input errors (rule :: tried) rest ↔
      StopsBetween key input (errors.extendAt key (rule.messages input)) tried rest := by
  constructor
  · generalize start : rule :: tried = whole
    rintro (_ | held | @⟨before, _, last, ends⟩)
    · exact .exhausted
    · exact .heldBack ((heldBack_cons rule _).mp (start ▸ held))
    · cases before with
      | nil =>
        obtain ⟨rfl, _⟩ := List.cons.inj start
        exact absurd ends goes
      | cons first before =>
        obtain ⟨_, rfl⟩ := List.cons.inj start
        exact .ended ends
  · rintro (_ | held | @⟨before, _, last, ends⟩)
    · exact .exhausted
    · exact .heldBack ((heldBack_cons rule _).mpr held)
    · exact @StopsBetween.ended key input errors (rule :: before) _ _ ends

namespace Tried

theorem nil : Tried key input errors [] [] where
  stop := ⟨[], rfl, .exhausted⟩
  first _ _ _ _ := List.nil_prefix

/-- A rule out of scope is passed over, whatever its flags are. -/
theorem passed (outside : ¬ rule.decl.scope.intersects input.scope)
    (later : Tried key input errors rest tried) : Tried key input errors (rule :: rest) tried := by
  have same : Rule.inScope input.scope (rule :: rest) = Rule.inScope input.scope rest :=
    List.filter_cons_of_neg outside
  constructor
  · rw [same]
    exact later.stop
  · rw [same]
    exact later.first

variable (inside : rule.decl.scope.intersects input.scope)

include inside

/-- Where the first rule is held back, none is tried. -/
theorem heldBack (held : rule.HeldBack key input errors []) :
    Tried key input errors (rule :: rest) [] where
  stop := ⟨_, List.filter_cons_of_pos inside, .heldBack held⟩
  first _ _ _ _ := List.nil_prefix

/-- If a rule is not held back, it is tried wherever the list stops. -/
theorem cons_prefix {before after : List Rule} (free : ¬ rule.HeldBack key input errors [])
    (whole : Rule.inScope input.scope (rule :: rest) = before ++ after)
    (stops : StopsBetween key input errors before after) :
    ∃ others, before = rule :: others ∧ Rule.inScope input.scope rest = others ++ after := by
  have kept : Rule.inScope input.scope (rule :: rest) = rule :: Rule.inScope input.scope rest :=
    List.filter_cons_of_pos inside
  rw [kept] at whole
  cases before with
  | nil =>
    rw [List.nil_append] at whole
    exact absurd (whole ▸ stops) (not_stopsBetween_nil free)
  | cons first others =>
    obtain ⟨rfl, later⟩ := List.cons.inj whole
    exact ⟨others, rfl, later⟩

/-- Where the first rule ends the list, it is the only one that is tried. -/
theorem ended (free : ¬ rule.HeldBack key input errors []) (ends : rule.Ends input) :
    Tried key input errors (rule :: rest) [rule] where
  stop := ⟨_, List.filter_cons_of_pos inside, @StopsBetween.ended key input errors [] _ _ ends⟩
  first before after whole stops := by
    obtain ⟨others, rfl, _⟩ := cons_prefix inside free whole stops
    exact ⟨others, rfl⟩

/-- Where it does not, it is tried and then those that are tried of the rest. -/
theorem cons (free : ¬ rule.HeldBack key input errors []) (goes : ¬ rule.Ends input)
    (later : Tried key input (errors.extendAt key (rule.messages input)) rest tried) :
    Tried key input errors (rule :: rest) (rule :: tried) where
  stop := by
    obtain ⟨after, whole, stops⟩ := later.stop
    refine ⟨after, ?_, (stopsBetween_cons goes).mpr stops⟩
    rw [List.cons_append, ← whole]
    exact List.filter_cons_of_pos inside
  first before after whole stops := by
    obtain ⟨others, rfl, further⟩ := cons_prefix inside free whole stops
    exact List.cons_prefix_cons.mpr
      ⟨rfl, later.first others after further ((stopsBetween_cons goes).mp stops)⟩

end Tried

namespace ComesTo

theorem nil : ComesTo key input errors [] ⟨(), errors, [], .proceed⟩ where
  events := rfl
  errors := rfl
  aborts := by simp
  fails := by simp

/-- A run of one rule comes to what its test answers. -/
theorem single : ComesTo key input errors [rule] ⟨(), errors.extendAt key (rule.messages input),
    [.check key rule.decl input], rule.flow input⟩ where
  events := rfl
  errors := by simp
  aborts := by simpa using rule.flow_eq_abort_iff input
  fails failure := by simpa using rule.flow_eq_fail_iff input failure

/-- A rule that does not end the list, and then others over what it has recorded. -/
theorem cons {run : Stretch Unit} (goes : ¬ rule.Ends input)
    (later : ComesTo key input (errors.extendAt key (rule.messages input)) tried run) :
    ComesTo key input errors (rule :: tried)
      { run with events := .check key rule.decl input :: run.events } where
  events := by simp only [later.events, List.map_cons]
  errors := by rw [later.errors, ErrorMap.extendAt_extendAt, List.flatMap_cons]
  aborts := by
    have own : rule.test input ≠ .ok .abort := fun aborts => goes (.aborted aborts)
    simp only [later.aborts, List.mem_cons, exists_eq_or_imp, own, false_or]
  fails failure := by
    have own : rule.test input ≠ .error failure := fun fails => goes (.failed fails)
    simp only [later.fails, List.mem_cons, exists_eq_or_imp, own, false_or]

end ComesTo

section Running

variable (inside : rule.decl.scope.intersects input.scope)
  (free : ¬ rule.HeldBack key input errors [])

include inside free

/-- Where the first rule ends the list, its answer is all that the run leaves. -/
theorem runRules_of_ends (ends : rule.Ends input) : runRules key input (rule :: rest) errors =
    ⟨(), errors.extendAt key (rule.messages input), [.check key rule.decl input],
      rule.flow input⟩ := by
  have goesOn := Bool.eq_false_iff.mpr (mt heldBack_nil.mpr free)
  rcases ends with failed | aborted | ⟨refused, some, flagged⟩ | ⟨answered, passes, flagged⟩
  · simp [runRules, inside, goesOn, Rule.messages, Rule.flow, failed, ErrorMap.extendAt_nil]
  · simp [runRules, inside, goesOn, Rule.messages, Rule.flow, aborted, ErrorMap.extendAt_nil]
  · simp [runRules, inside, goesOn, Rule.messages, Rule.flow, refused, some, flagged]
  · rename_i outcome
    cases outcome with
    | abort => exact absurd passes (by simp [Outcome.isPass])
    | pass => simp [runRules, inside, goesOn, Rule.messages, Rule.flow, answered, flagged]
    | errors messages =>
      obtain rfl : messages = [] := List.isEmpty_iff.mp passes
      simp [runRules, inside, goesOn, Rule.messages, Rule.flow, answered, flagged]

/-- Where it does not, the rest is run with what it has recorded. -/
theorem runRules_of_goes (goes : ¬ rule.Ends input) : runRules key input (rule :: rest) errors =
    let others := runRules key input rest (errors.extendAt key (rule.messages input))
    { others with events := .check key rule.decl input :: others.events } := by
  have goesOn := Bool.eq_false_iff.mpr (mt heldBack_nil.mpr free)
  match answer : rule.test input with
  | .error failure => exact absurd (.failed answer) goes
  | .ok .abort => exact absurd (.aborted answer) goes
  | .ok .pass | .ok (.errors []) =>
    have flagged : ¬ rule.decl.control.exitOnSuccess :=
      fun flagged => goes (.passed answer rfl flagged)
    simp [runRules, inside, goesOn, Rule.messages, answer, flagged]
  | .ok (.errors (_ :: _)) =>
    have flagged : ¬ rule.decl.control.exitOnFailure :=
      fun flagged => goes (.refused answer (List.cons_ne_nil _ _) flagged)
    simp [runRules, inside, goesOn, Rule.messages, answer, flagged]

end Running

/-- Rules are tried up to where the list stops, and a run is what trying them comes to. -/
theorem exists_tried (key : String) (input : CheckInput) (rules : List Rule) (errors : ErrorMap) :
    ∃ tried, Tried key input errors rules tried ∧
      ComesTo key input errors tried (runRules key input rules errors) := by
  induction rules generalizing errors with
  | nil => exact ⟨[], .nil, .nil⟩
  | cons rule rest ih =>
    by_cases inside : rule.decl.scope.intersects input.scope
    case neg =>
      obtain ⟨tried, found, comes⟩ := ih errors
      refine ⟨tried, found.passed inside, ?_⟩
      simpa [runRules, inside] using comes
    by_cases held : rule.HeldBack key input errors []
    case pos =>
      refine ⟨[], .heldBack inside held, ?_⟩
      simpa [runRules, inside, heldBack_nil.mp held] using ComesTo.nil
    by_cases ends : rule.Ends input
    · rw [runRules_of_ends inside held ends]
      exact ⟨[rule], .ended inside held ends, .single⟩
    · obtain ⟨tried, found, comes⟩ := ih (errors.extendAt key (rule.messages input))
      rw [runRules_of_goes inside held ends]
      exact ⟨rule :: tried, .cons inside held ends found, comes.cons ends⟩

end Stopping

/-- Running rules tries those in scope up to the first place where the list stops, and there is no
other way to say which. Their calls are the events. Their messages go under the key one after the
other, and the key goes behind the other keys if it is new and there are any messages. Nothing
changes under the other keys. The run is aborted if and only if one of the rules aborts, and fails
if and only if one of them fails. -/
theorem runRules_tried (key : String) (input : CheckInput) (rules : List Rule)
    (errors : ErrorMap) :
    let run := runRules key input rules errors
    ∃ tried recorded, Tried key input errors rules tried ∧
      (∀ other, Tried key input errors rules other → other = tried) ∧
      run.events = tried.map (fun rule => .check key rule.decl input) ∧
      recorded = tried.flatMap (fun rule => rule.messages input) ∧
      run.errors = errors.extendAt key recorded ∧
      run.errors.messages key = errors.messages key ++ recorded ∧
      run.errors.keys =
        (if recorded = [] ∨ key ∈ errors.keys then errors.keys else errors.keys ++ [key]) ∧
      (∀ other, other ≠ key → run.errors.get? other = errors.get? other) ∧
      (run.flow = .abort ↔ ∃ rule ∈ tried, rule.test input = .ok .abort) ∧
      ∀ failure, run.flow = .fail failure ↔ ∃ rule ∈ tried, rule.test input = .error failure := by
  intro run
  obtain ⟨tried, found, comes⟩ := exists_tried key input rules errors
  have recorded := comes.errors
  refine ⟨tried, _, found, fun other also => also.unique found, comes.events, rfl, recorded, ?_, ?_,
    ?_, comes.aborts, comes.fails⟩
  · rw [recorded, ErrorMap.messages_extendAt_self]
  · rw [recorded]
    generalize (tried.flatMap fun rule => rule.messages input) = messages
    by_cases none : messages = []
    · rw [if_pos (.inl none), none, ErrorMap.extendAt_nil]
    · simp only [ErrorMap.keys_extendAt _ _ none, none, false_or]
  · intro other different
    rw [recorded, ErrorMap.get?_extendAt_of_ne _ _ different]

end Walk

end Scrutiny
