import Scrutiny.Proofs.Word.Remembering
import Scrutiny.Registry

/-! # Checks that are prepared

A procedure that runs reads the arguments of its rule anew, and compiles what it does not find in
memory. Once the arguments have been accepted, neither shows. What is in memory is what compiling
gives, so a procedure answers from any memory as from an empty one (`Registry.steady_procedures`).
And what the run reads is what was accepted, so a test comes to a function of its input in which
the arguments stand as they were read the first time: one lemma for each kind of arguments says
which (`Check.makes_first`, `Check.makes_bound`, `Check.makes_regex`, `Check.makes_bannedWords`).
-/

namespace Scrutiny

/-- A memory that keeps only what compiling gives. -/
structure Memory.Sound (policy : Word.Policy) (memory : Memory) : Prop where
  patterns : ∀ text compiled, memory.patterns.get? text = some compiled →
    Check.compilePattern text = .ok compiled
  words : ∀ word compiled, memory.words.get? word = some compiled →
    Word.compile .standard policy word = .ok compiled

/-- What is done with a memory gives the same from any sound one and leaves it sound. -/
def Memory.Hidden {α : Type} (policy : Word.Policy) (part : Memory → α × Memory) : Prop :=
  ∀ memory, memory.Sound policy → (part memory).1 = (part .empty).1 ∧ (part memory).2.Sound policy

/-- What a procedure finds in memory does not show. -/
structure Procedure.Steady (policy : Word.Policy) (procedure : Procedure) : Prop where
  accept : ∀ args, Memory.Hidden policy (procedure.accept args)
  run : ∀ input args, Memory.Hidden policy (procedure.run input args)

namespace Memory

variable {policy : Word.Policy} {memory : Memory}

theorem sound_empty (policy : Word.Policy) : Memory.empty.Sound policy :=
  ⟨nofun, nofun⟩

/-- What leaves the memory alone. -/
theorem hidden_const {α : Type} (policy : Word.Policy) (value : α) :
    Hidden policy fun memory => (value, memory) :=
  fun _ sound => ⟨rfl, sound⟩

theorem Sound.screen (sound : memory.Sound policy) :
    (memory.screen policy).Sound policy .standard where
  under := by simp only [Memory.screen]
  table := by simp only [Memory.screen]
  kept := sound.words

/-- A memory that takes over the words of a screen. -/
theorem Sound.take (sound : memory.Sound policy) {screen : Word.Screen}
    (keeps : screen.Sound policy .standard) :
    ({ memory with words := screen.compiled } : Memory).Sound policy :=
  ⟨sound.patterns, keeps.kept⟩

/-- A pattern that is recalled is the one that compiling gives, and it is remembered. -/
theorem recallPattern_of_sound (sound : memory.Sound policy) (text : String) :
    (Check.recallPattern memory text).1 = Check.compilePattern text ∧
      (Check.recallPattern memory text).2.Sound policy := by
  unfold Check.recallPattern
  cases known : memory.patterns.get? text with
  | some compiled => exact ⟨(sound.patterns text compiled known).symm, sound⟩
  | none =>
    cases new : Check.compilePattern text with
    | error error => exact ⟨rfl, sound⟩
    | ok compiled =>
      refine ⟨rfl, fun other compiled' found => ?_, sound.words⟩
      by_cases same : other = text
      · subst same
        rw [Entries.get?_put_self] at found
        exact Option.some.inj found ▸ new
      · rw [Entries.get?_put_of_ne _ _ same] at found
        exact sound.patterns other compiled' found

end Memory

namespace Word.Screen.Sound

variable {confusables : Confusables} {policy : Policy} {screen : Screen}

/-- Words are compiled in order, up to the first that is refused. -/
theorem compileAll_cons (screen : Screen) (word : String) (rest : List String) :
    screen.compileAll (word :: rest) =
      match (screen.compile word).1 with
      | .error error => (.error error, (screen.compile word).2)
      | .ok _ => (screen.compile word).2.compileAll rest := by
  rw [Screen.compileAll]
  obtain ⟨result, next⟩ := screen.compile word
  cases result <;> rfl

theorem compileAll (sound : screen.Sound policy confusables) (words : List String) :
    (screen.compileAll words).2.Sound policy confusables := by
  induction words generalizing screen with
  | nil => exact sound
  | cons word rest ih =>
    rw [compileAll_cons]
    split
    · exact sound.compile word
    · exact ih (sound.compile word)

/-- Two screens under one policy compile the same words. -/
theorem compileAll_eq (sound : screen.Sound policy confusables) {other : Screen}
    (sound' : other.Sound policy confusables) (words : List String) :
    (screen.compileAll words).1 = (other.compileAll words).1 := by
  induction words generalizing screen other with
  | nil => rfl
  | cons word rest ih =>
    rw [compileAll_cons, compileAll_cons, sound.compile_eq word, sound'.compile_eq word]
    split
    · rfl
    · exact ih (sound.compile word) (sound'.compile word)

/-- Words that have all been compiled can be compiled. -/
theorem compile_of_compileAll (sound : screen.Sound policy confusables) {words : List String}
    (compiled : (screen.compileAll words).1 = .ok ()) :
    ∀ word ∈ words, ∃ w, Word.compile confusables policy word = .ok w := by
  induction words generalizing screen with
  | nil => exact fun _ member => absurd member List.not_mem_nil
  | cons word rest ih =>
    rw [compileAll_cons, sound.compile_eq word] at compiled
    cases first : Word.compile confusables policy word with
    | error error =>
      rw [first] at compiled
      exact nomatch compiled
    | ok w =>
      rw [first] at compiled
      exact List.forall_mem_cons.mpr ⟨⟨w, first⟩, ih (sound.compile word) compiled⟩

end Word.Screen.Sound

/-- A search for words that can be compiled comes to an end. -/
theorem Word.findFirst_of_compiles {confusables : Confusables} {policy : Policy}
    {words : List String} (compiles : ∀ word ∈ words, ∃ w, compile confusables policy word = .ok w)
    (text : String) : ∃ found, findFirst confusables policy text words = .ok found := by
  induction words with
  | nil => exact ⟨none, rfl⟩
  | cons word rest ih =>
    obtain ⟨⟨w, compiled⟩, compiles⟩ := List.forall_mem_cons.mp compiles
    rw [findFirst]
    split
    · exact ih compiles
    · rw [compiled]
      cases here : w.find? text with
      | some fragment => exact ⟨some ⟨word, fragment⟩, by simp only [here]⟩
      | none =>
        simp only [here]
        exact ih compiles

namespace Check

variable {policy : Word.Policy}

theorem steady_plain (policy : Word.Policy) (name : String) (arity : Arity) (rule : ArgumentRule)
    (judge : CheckInput → List Value → Except Failure Outcome) :
    (Procedure.plain name arity rule judge).Steady policy :=
  ⟨fun _ => Memory.hidden_const policy _, fun _ _ => Memory.hidden_const policy _⟩

/-- Matching a pattern is steady: the pattern that is found in memory is the one compiled. -/
theorem steady_regex (policy : Word.Policy) : regex.Steady policy := by
  constructor
  · intro args memory sound
    simp only [regex]
    cases patternText args with
    | error error => exact ⟨rfl, sound⟩
    | ok text =>
      obtain ⟨same, kept⟩ := Memory.recallPattern_of_sound sound text
      obtain ⟨fresh, -⟩ := Memory.recallPattern_of_sound (Memory.sound_empty policy) text
      exact ⟨congrArg (Except.map fun _ => ()) (same.trans fresh.symm), kept⟩
  · intro input args memory sound
    simp only [regex]
    split
    · exact ⟨rfl, sound⟩
    cases patternText args with
    | error error => exact ⟨rfl, sound⟩
    | ok text =>
      obtain ⟨same, kept⟩ := Memory.recallPattern_of_sound sound text
      obtain ⟨fresh, -⟩ := Memory.recallPattern_of_sound (Memory.sound_empty policy) text
      replace same := same.trans fresh.symm
      clear fresh
      dsimp only
      generalize recallPattern memory text = recalled at same kept ⊢
      generalize recallPattern .empty text = fresh at same ⊢
      obtain ⟨found, after⟩ := recalled
      obtain ⟨found', after'⟩ := fresh
      obtain rfl : found = found' := same
      cases found <;> exact ⟨rfl, kept⟩

/-- Screening for words is steady: what is found in memory is what compiling gives. -/
theorem steady_bannedWords (policy : Word.Policy) : (bannedWords policy).Steady policy := by
  have empty := (Memory.sound_empty policy).screen
  constructor
  · intro args memory sound
    simp only [bannedWords]
    cases wordArguments args with
    | error error => exact ⟨rfl, sound⟩
    | ok words =>
      simp only
      split
      · exact ⟨rfl, sound⟩
      · exact ⟨congrArg (Except.mapError DeclarationError.word)
          (sound.screen.compileAll_eq empty words), sound.take (sound.screen.compileAll words)⟩
  · intro input args memory sound
    simp only [bannedWords]
    split
    · exact ⟨rfl, sound⟩
    cases wordArguments args with
    | error error => exact ⟨rfl, sound⟩
    | ok words =>
      -- Both searches find what compiling every word anew finds.
      have same := (sound.screen.matchAny_eq input.value.display words).trans
        (empty.matchAny_eq input.value.display words).symm
      have kept := sound.take (sound.screen.findAny input.value.display words)
      simp only [same]
      cases ((Memory.empty.screen policy).matchAny input.value.display words).1 with
      | error error => exact ⟨rfl, kept⟩
      | ok found => cases found <;> exact ⟨rfl, kept⟩

end Check

/-- What the built-in checks find in memory does not show. -/
theorem Registry.steady_procedures (policy : Word.Policy) :
    ∀ entry ∈ procedures policy, entry.2.Steady policy := by
  intro entry member
  simp only [procedures, List.mem_cons, List.not_mem_nil, or_false] at member
  rcases member with rfl | rfl | rfl | rfl | rfl | rfl | rfl | rfl | rfl | rfl | rfl | rfl | rfl |
    rfl | rfl | rfl
  -- all but two use no memory
  all_goals
    first
    | exact Check.steady_plain policy _ _ _ _
    | exact Check.steady_regex policy
    | exact Check.steady_bannedWords policy

/-- The memories that a registry of built-in checks comes to: rules are resolved and tried in any
order, with success or without. -/
inductive Memory.Reached (policy : Word.Policy) : Memory → Prop where
  | empty : Reached policy .empty
  | accept {memory : Memory} {name : String} {procedure : Procedure}
    (known : (Registry.procedures policy).get? name = some procedure) (args : List Value)
    (before : Reached policy memory) : Reached policy (procedure.accept args memory).2
  | run {memory : Memory} {name : String} {procedure : Procedure}
    (known : (Registry.procedures policy).get? name = some procedure) (input : CheckInput)
    (args : List Value) (before : Reached policy memory) :
    Reached policy (procedure.run input args memory).2

theorem Memory.Reached.sound {policy : Word.Policy} {memory : Memory}
    (reached : memory.Reached policy) : memory.Sound policy := by
  have steady {name : String} {procedure : Procedure}
      (known : (Registry.procedures policy).get? name = some procedure) :
      procedure.Steady policy :=
    Registry.steady_procedures policy _ (Entries.mem_of_get? known)
  induction reached with
  | empty => exact Memory.sound_empty policy
  | accept known args _ ih => exact ((steady known).accept args _ ih).2
  | run known input args _ ih => exact ((steady known).run input args _ ih).2

namespace Procedure.Steady

variable {policy : Word.Policy} {procedure : Procedure} {args : List Value} {test : Test}

/-- Preparing a steady procedure makes the test that runs with an empty memory. -/
theorem prepare_eq_ok (steady : procedure.Steady policy) :
    procedure.prepare args = .ok test ↔
      (procedure.accept args .empty).1 = .ok () ∧
        test = fun input => (procedure.run input args .empty).1 := by
  have kept := (steady.accept args .empty (Memory.sound_empty policy)).2
  unfold prepare
  revert kept
  obtain ⟨accepted, memory⟩ := procedure.accept args .empty
  intro kept
  cases accepted with
  | error error => simp
  | ok =>
    have same : (fun input => (procedure.run input args memory).1) =
        fun input => (procedure.run input args .empty).1 :=
      funext fun input => (steady.run input args memory kept).1
    simp only [same, Except.ok.injEq, true_and]
    exact eq_comm

/-- Whatever has been compiled before, a run says what the test says that the arguments made. -/
theorem run_eq (steady : procedure.Steady policy) (made : procedure.prepare args = .ok test)
    {memory : Memory} (sound : memory.Sound policy) (input : CheckInput) :
    (procedure.run input args memory).1 = test input := by
  obtain ⟨-, rfl⟩ := steady.prepare_eq_ok.mp made
  exact (steady.run input args memory sound).1

end Procedure.Steady

namespace Check

/-- What arguments make, if they are right, has a property. -/
def Makes (property : Test → Prop) (prepared : Except DeclarationError Test) : Prop :=
  ∀ test, prepared = .ok test → property test

variable {property : Test → Prop} {args : List Value} {policy : Word.Policy}

/-- The test of a steady procedure has each property that its runs have, once the arguments are
accepted. -/
theorem makes_steady {procedure : Procedure} (steady : procedure.Steady policy)
    (holds : (procedure.accept args .empty).1 = .ok () →
      property fun input => (procedure.run input args .empty).1) :
    Makes property (procedure.prepare args) := by
  intro test made
  obtain ⟨accepted, rfl⟩ := steady.prepare_eq_ok.mp made
  exact holds accepted

/-- A check that compiles nothing, with arguments that are right for it. -/
theorem makes_ruled {name : String} {arity : Arity} {rule : ArgumentRule}
    {judge : CheckInput → List Value → Except Failure Outcome}
    (holds : rule args = .ok () → property fun input => judge input args) :
    Makes property ((Procedure.plain name arity rule judge).prepare args) := by
  refine makes_steady (steady_plain {} name arity rule judge) fun accepted => holds ?_
  cases right : rule args with
  | ok => rfl
  | error reason =>
    simp only [Procedure.plain, right] at accepted
    cases counted : expectCount name arity args with
    | error reason =>
      rw [counted] at accepted
      exact nomatch accepted
    | ok =>
      rw [counted] at accepted
      exact nomatch accepted

/-- A check that compiles nothing, whatever its arguments have to be. -/
theorem makes_plain {name : String} {arity : Arity} {rule : ArgumentRule}
    {judge : CheckInput → List Value → Except Failure Outcome}
    (holds : property fun input => judge input args) :
    Makes property ((Procedure.plain name arity rule judge).prepare args) :=
  makes_ruled fun _ => holds

/-- A check whose first argument has to be read as something. The run reads it again. -/
theorem makes_first {α : Type} {name expected : String} {arity : Arity} {read : Value → Option α}
    {judge : CheckInput → List Value → Except Failure Outcome}
    (holds : ∀ first rest value, args = first :: rest → read first = some value →
      property fun input => judge input (first :: rest)) :
    Makes property ((Procedure.plain name arity (firstIs expected read) judge).prepare args) := by
  refine makes_ruled fun ruled => ?_
  unfold firstIs at ruled
  cases args with
  | nil => exact nomatch ruled
  | cons first rest =>
    cases known : read first with
    | none =>
      simp only [List.head?_cons, Option.bind_some, known, reduceCtorEq] at ruled
    | some value => exact holds first rest value rfl known

/-- A field is named by the text of its argument. -/
theorem text?_of_asFieldName {value : Value} {field : String}
    (named : asFieldName value = some field) :
    value.text? = some field := by
  cases value with
  | string text =>
    simp only [asFieldName] at named
    split at named
    · exact nomatch named
    · exact named
  | _ => exact nomatch named

/-- The test of `requiredIf` looks at another field and compares it with the rest of the arguments.
-/
theorem makes_requiredIf
    (holds : ∀ other, property fun input =>
      let isExpected := args.tail.any fun expected => expected.looselySame (input.sibling other)
      input.require (!input.value.isBlank || !isExpected) "required_if"
        [("other", .string (input.labelOf other)),
          ("expected", .string (input.sibling other).display)]) :
    Makes property (requiredIf.prepare args) := by
  refine makes_first fun first rest other same named => ?_
  subst same
  convert holds other using 2 with input
  simp only [List.head?_cons, Option.bind_some, text?_of_asFieldName named]
  cases blank : input.value.isBlank with
  | true => rfl
  | false => rfl

theorem makes_sameAs
    (holds : ∀ other, property fun input =>
      input.require (input.value.isBlank || input.value.looselySame (input.sibling other)) "same_as"
        [("other", .string (input.labelOf other))]) :
    Makes property (sameAs.prepare args) := by
  refine makes_first fun first rest other _ named => ?_
  simp only [List.head?_cons, Option.bind_some, text?_of_asFieldName named]
  exact holds other

/-- The test of `minLength` compares the length with a number. -/
theorem makes_minLength
    (holds : ∀ least : Nat, property fun input =>
      input.require (input.value.isBlank || least ≤ length input.value) "min_length"
        [("min", .number (.int least))]) :
    Makes property (minLength.prepare args) := by
  refine makes_first fun first rest least _ counted => ?_
  simp only [List.head?_cons, Option.bind_some, counted, Option.getD_some]
  exact holds least

/-- The test of `maxLength` compares the length with a number. -/
theorem makes_maxLength
    (holds : ∀ most : Nat, property fun input =>
      input.require (input.value.isBlank || length input.value ≤ most) "max_length"
        [("max", .number (.int most))]) :
    Makes property (maxLength.prepare args) := by
  refine makes_first fun first rest most _ counted => ?_
  simp only [List.head?_cons, Option.bind_some, counted]
  exact holds most

/-- The test of a bound compares with its first argument as a number. -/
theorem makes_bound {name : String} {keeps : Float → Float → Bool}
    (holds : ∀ bound rest, args = .number bound :: rest → property fun input =>
      match numeric? input.value with
      | none => .ok .pass
      | some actual => input.require (keeps actual bound.toFloat) name [(name, .number bound)]) :
    Makes property ((bound name keeps).prepare args) := by
  refine makes_first fun first rest bound same read => ?_
  obtain rfl : first = .number bound := by
    cases first with
    | number value => rw [Option.some.inj read]
    | _ => exact nomatch read
  convert holds bound rest same using 2 with input
  simp only [List.head?_cons, Option.bind_some, asNumber]
  cases numeric? input.value with
  | none => rfl
  | some actual => rfl

/-- The pattern is compiled from the argument, and the run finds it or compiles it again. -/
theorem makes_regex
    (holds : ∀ text pattern, Pattern.read false text = .ok pattern → property fun input =>
      input.require (input.value.isBlank || pattern.matchesText input.value.display) "regex"
        [("pattern", .string text)]) :
    Makes property (regex.prepare args) := by
  refine makes_steady (steady_regex {}) fun accepted => ?_
  simp only [regex] at accepted ⊢
  cases given : patternText args with
  | error error => simp only [given, reduceCtorEq] at accepted
  | ok text =>
    rw [given] at accepted
    cases read : Pattern.read false text with
    | error cause =>
      simp only [recallPattern, Memory.empty, Entries.get?, compilePattern, read, Except.map,
        reduceCtorEq] at accepted
    | ok pattern =>
      convert holds text pattern read using 2 with input
      cases blank : input.value.isBlank with
      | true => simp [CheckInput.require]
      | false =>
        simp only [recallPattern, Memory.empty, Entries.get?, compilePattern, read, Bool.false_or,
          Bool.false_eq_true, if_false]

/-- The words have all been compiled, so that a search for them ends. -/
theorem makes_bannedWords
    (holds : ∀ find : String → Option Word.WordMatch, property fun input =>
      if input.value.isBlank then .ok .pass
      else
        match find input.value.display with
        | none => .ok .pass
        | some found =>
          input.refuse "banned_words"
            [("word", .string found.fragment), ("fragment", .string found.fragment)]) :
    Makes property ((bannedWords policy).prepare args) := by
  have empty := (Memory.sound_empty policy).screen
  refine makes_steady (steady_bannedWords policy) fun accepted => ?_
  simp only [bannedWords] at accepted ⊢
  cases given : wordArguments args with
  | error error =>
    rw [given] at accepted
    exact nomatch accepted
  | ok words =>
    rw [given] at accepted
    have compiled : ((Memory.empty.screen policy).compileAll words).1 = .ok () := by
      simp only at accepted
      split at accepted
      · exact nomatch accepted
      · cases all : ((Memory.empty.screen policy).compileAll words).1 with
        | ok => rfl
        | error error =>
          rw [all] at accepted
          exact nomatch accepted
    choose find finds using Word.findFirst_of_compiles (empty.compile_of_compileAll compiled)
    convert holds find using 2 with input
    split
    · rfl
    · simp only [empty.matchAny_eq, finds, Except.map]
      cases find input.value.display <;> rfl

end Check

end Scrutiny
