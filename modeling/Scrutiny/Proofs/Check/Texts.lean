import Scrutiny.Proofs.Check.Judgement
import Scrutiny.Proofs.Decimal.Reading

/-! # Numbers and their texts

A form sends its numbers as texts. A number and its text have the same content, and the text is read
as the floating-point number of the number, so the checks that go by the content or by that number
say the same of both (`Check.alike_require`, `Check.alike_bound`). `integer` goes by more: it takes
whole numbers of the unsigned range and floating-point numbers without a fraction, but no text of
these (`Registry.number_like_text`).
-/

namespace Scrutiny

namespace CheckInput

/-- The input with a number in place of its value. -/
def withNumber (input : CheckInput) (number : Number) : CheckInput :=
  { input with value := .number number }

/-- The input with the text of a number in place of its value. -/
def withText (input : CheckInput) (number : Number) : CheckInput :=
  { input with value := .string (Json.number number) }

end CheckInput

/-- The test says of the text of a number what it says of the number. -/
def Test.Alike (test : Test) : Prop :=
  ∀ (input : CheckInput) (number : Number), number.InRange →
    test (input.withNumber number) = test (input.withText number)

namespace Check

theorem isBlank_text (number : Number) : (Value.string (Json.number number)).isBlank = false :=
  beq_eq_false_iff_ne.2 (Decimal.number_ne_empty number)

/-- The text of a number stands for the number. -/
theorem numeric?_text {number : Number} (inRange : number.InRange) :
    numeric? (.string (Json.number number)) = numeric? (.number number) :=
  Decimal.finite?_number inRange

/-- A test that goes by a condition which a number and its text meet alike. -/
theorem alike_require (condition : Value → Bool) (name : String) (params : Entries Value)
    (same : ∀ number : Number, number.InRange →
      condition (.number number) = condition (.string (Json.number number))) :
    Test.Alike fun input =>
      input.require (input.value.isBlank || condition input.value) name params := by
  intro input number inRange
  dsimp only [CheckInput.withNumber, CheckInput.withText]
  rw [isBlank_text, same number inRange]
  rfl

/-- A test that goes by the content of its value. -/
theorem alike_display (condition : String → Bool) (name : String) (params : Entries Value) :
    Test.Alike fun input =>
      input.require (input.value.isBlank || condition input.value.display) name params :=
  alike_require (fun value => condition value.display) name params fun _ _ => rfl

/-- A bound says the same of a number and of its text. -/
theorem alike_bound (name : String) (keeps : Float → Float → Bool) (args : List Value) :
    Makes Test.Alike ((bound name keeps).prepare args) := by
  refine makes_bound fun bound _ _ input number inRange => ?_
  dsimp only [CheckInput.withNumber, CheckInput.withText]
  rw [numeric?_text inRange]
  rfl

/-- A pattern is matched by a number as by its text. -/
theorem alike_regex (args : List Value) : Makes Test.Alike (regex.prepare args) :=
  makes_regex fun _ pattern _ => alike_display pattern.matchesText _ _

end Check

namespace Registry

variable {policy : Word.Policy} {name : String} {check : Check}

/-- The checks that go by the content of a value or by the number that it stands for. -/
def readingText : List String :=
  ["number", "min", "max", "min_length", "max_length", "regex", "email", "datetime"]

/-- The checks that read texts say the same of a number and of its text. -/
theorem alike_standard (known : (standard policy).checks.get? name = some check)
    (reads : name ∈ readingText) (args : List Value) :
    Check.Makes Test.Alike (check.prepare args) := by
  obtain ⟨procedure, listed, rfl⟩ := procedure_of_get? known
  simp only [readingText, List.mem_cons, List.not_mem_nil, or_false] at reads
  rcases reads with rfl | rfl | rfl | rfl | rfl | rfl | rfl | rfl <;>
    obtain rfl := Option.some.inj listed
  · exact Check.makes_plain (Check.alike_require
      (fun value => (Check.numeric? value).isSome) "number" []
      fun number inRange => by rw [Check.numeric?_text inRange])
  · exact Check.alike_bound "min" (fun actual bound => actual ≥ bound) args
  · exact Check.alike_bound "max" (fun actual bound => actual ≤ bound) args
  · exact Check.makes_minLength fun least => Check.alike_require
      (fun value => least ≤ Check.length value) "min_length" _ fun _ _ => rfl
  · exact Check.makes_maxLength fun most => Check.alike_require
      (fun value => Check.length value ≤ most) "max_length" _ fun _ _ => rfl
  · exact Check.alike_regex args
  · exact Check.makes_plain (Check.alike_display Check.isMailAddress "email" [])
  · exact Check.makes_plain (Check.alike_display
      (fun text => Calendar.isMoment (args.head?.bind Value.text?) (Text.trimChars text.toList))
      "datetime" [])

end Registry

/-- The numbers of which `integer` says the same as of their texts: the whole numbers of the signed
range, and the floating-point numbers with a fraction. -/
def Number.SpelledAlike : Number → Prop
  | .int value => value ≤ maxSigned
  | .float value => ¬ ∃ whole : Nat, (Binary.ofFloat value).ratio = whole

instance : (number : Number) → Decidable number.SpelledAlike
  | .int value => inferInstanceAs (Decidable (value ≤ Number.maxSigned))
  | .float value => decidable_of_iff (¬ (Binary.ofFloat value).isWhole = true)
      (not_congr (Binary.isWhole_iff _))

namespace Check

/-- The text of an integer is whole if it is in the signed range. -/
theorem isWhole_text_int {value : Int} (inRange : (Number.int value).InRange) :
    isWhole (.string (Json.number (.int value))) = decide (value ≤ Number.maxSigned) := by
  rw [isWhole, Decimal.whole?_int]
  have least := inRange.1
  simp [least]

/-- The text of a floating-point number is never whole. -/
theorem isWhole_text_float {value : Float} (finite : value.isFinite = true) :
    isWhole (.string (Json.number (.float value))) = false := by
  rw [isWhole, Decimal.whole?_float finite]

/-- A floating-point number is whole if it has no fraction. -/
theorem isWhole_float {value : Float} (finite : value.isFinite = true) :
    isWhole (.number (.float value)) = true ↔
      ∃ whole : Nat, (Binary.ofFloat value).ratio = whole := by
  rw [isWhole, finite, Bool.true_and, Binary.isWhole_iff]

/-- A number is as whole as its text exactly if it is spelled alike. -/
theorem isWhole_text_iff {number : Number} (inRange : number.InRange) :
    (isWhole (.number number) = true ↔ isWhole (.string (Json.number number)) = true) ↔
      number.SpelledAlike := by
  cases number with
  | int value =>
    rw [isWhole_text_int inRange, decide_eq_true_iff]
    exact ⟨fun same => same.1 rfl, fun small => iff_of_true rfl small⟩
  | float value =>
    rw [isWhole_text_float inRange, isWhole_float inRange]
    exact ⟨fun same whole => Bool.false_ne_true (same.1 whole),
      fun fraction => iff_of_false fraction Bool.false_ne_true⟩

end Check

namespace Registry

variable {policy : Word.Policy} {name : String} {check : Check}

/-- Of the text of a number the checks that read texts say what they say of the number, and the
verdict of `integer` on both is the same exactly for the numbers that are spelled alike. -/
theorem number_like_text (known : (standard policy).checks.get? name = some check)
    {args : List Value} {test : Test} (made : check.prepare args = .ok test) {number : Number}
    (inRange : number.InRange) (input : CheckInput) :
    (name ∈ readingText → test (input.withNumber number) = test (input.withText number)) ∧
      (name = "integer" →
        ((test (input.withNumber number) = .ok .pass ↔ test (input.withText number) = .ok .pass) ↔
          number.SpelledAlike)) := by
  refine ⟨fun reads => alike_standard known reads args test made input number inRange, ?_⟩
  rintro rfl
  obtain ⟨procedure, listed, rfl⟩ := procedure_of_get? known
  obtain rfl := Option.some.inj listed
  have decides : Check.Makes (fun test =>
      (test (input.withNumber number) = .ok .pass ↔ test (input.withText number) = .ok .pass) ↔
        number.SpelledAlike) (Check.integer.prepare args) := by
    refine Check.makes_plain ?_
    rw [CheckInput.require_eq_pass_iff, CheckInput.require_eq_pass_iff]
    dsimp only [CheckInput.withNumber, CheckInput.withText]
    rw [Check.isBlank_text, Bool.false_or]
    exact Check.isWhole_text_iff inRange
  exact decides test made

/-- Ten is at least three as a number and as a text, and it is an integer as both. -/
theorem number_like_text_ten :
    (∃ test, Check.min.prepare [.number (.int 3)] = .ok test ∧
      test ((CheckInput.alone .null).withNumber (.int 10)) =
        test ((CheckInput.alone .null).withText (.int 10))) ∧
    ∃ test, Check.integer.prepare [] = .ok test ∧
      (test ((CheckInput.alone .null).withNumber (.int 10)) = .ok .pass ↔
        test ((CheckInput.alone .null).withText (.int 10)) = .ok .pass) :=
  have inRange : (Number.int 10).InRange := by decide
  ⟨⟨_, rfl, (@number_like_text {} "min" Check.min rfl [.number (.int 3)] _ rfl _ inRange
      (.alone .null)).1 (by decide)⟩,
    ⟨_, rfl, ((@number_like_text {} "integer" Check.integer rfl [] _ rfl _ inRange
      (.alone .null)).2 rfl).2 (by decide)⟩⟩

/-- A whole number beyond the signed range passes `integer`, and its text does not. -/
theorem integer_refuses_text :
    (Number.int 9223372036854775808).InRange ∧
    ∃ test, Check.integer.prepare [] = .ok test ∧
      test ((CheckInput.alone .null).withNumber (.int 9223372036854775808)) = .ok .pass ∧
      test ((CheckInput.alone .null).withText (.int 9223372036854775808)) ≠ .ok .pass := by
  have refuses : Check.Makes (fun test =>
      test ((CheckInput.alone .null).withText (.int 9223372036854775808)) ≠ .ok .pass)
      (Check.integer.prepare []) := by
    refine Check.makes_plain ?_
    dsimp only
    rw [ne_eq, CheckInput.require_eq_pass_iff]
    decide
  exact ⟨by decide, _, rfl, rfl, refuses _ rfl⟩

end Registry

end Scrutiny
