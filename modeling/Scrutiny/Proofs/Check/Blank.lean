import Scrutiny.Proofs.Check.Judgement
import Scrutiny.Proofs.Decimal.Reading

/-! # Blank values

A field is optional unless a check requires it, so a blank value is to pass every check but those
that ask for it. What the checks make of their arguments has this property one by one
(`Registry.passesBlank_procedures`); the exception is `abortIf`, which looks for the value among its
arguments first and ends the validation if one of them is the same blank value
(`Registry.blank_outcome`).
-/

namespace Scrutiny

namespace Value

/-- A truth value and a number are never shown as nothing. -/
theorem display_ne_empty {value : Value} (scalar : (∃ truth, value = .bool truth) ∨
    ∃ number, value = .number number) : value.display ≠ "" := by
  rcases scalar with ⟨truth, rfl⟩ | ⟨number, rfl⟩
  · cases truth <;> decide
  · exact Decimal.number_ne_empty number

/-- A blank value is loosely the same as itself and as nothing else. -/
theorem looselySame_iff_of_isBlank {arg value : Value} (blank : value.isBlank = true) :
    arg.looselySame value = true ↔ arg = value := by
  cases value with
  | null => cases arg <;> simp [looselySame, same]
  | bool truth => exact absurd blank Bool.false_ne_true
  | number number => exact absurd blank Bool.false_ne_true
  | string text =>
    obtain rfl : text = "" := eq_of_beq blank
    cases arg with
    | bool truth =>
      have apart : (bool truth).display ≠ (string "").display :=
        display_ne_empty (.inl ⟨truth, rfl⟩)
      simpa [looselySame, same] using apart
    | number number =>
      have apart : (Value.number number).display ≠ (string "").display :=
        display_ne_empty (.inr ⟨number, rfl⟩)
      simpa [looselySame, same] using apart
    | _ => simp [looselySame, same, display]
  | list items =>
    obtain rfl := List.isEmpty_iff.1 blank
    cases arg with
    | list others => cases others <;> simp [looselySame, same, sameItems]
    | _ => simp [looselySame, same]
  | object members =>
    obtain rfl := List.isEmpty_iff.1 blank
    cases arg with
    | object others => cases others <;> simp [looselySame, same, sameMembers]
    | _ => simp [looselySame, same]

end Value

/-- The test lets blank values pass. -/
def Test.PassesBlank (test : Test) : Prop :=
  ∀ input, input.value.isBlank = true → test input = .ok .pass

namespace Check

/-- A check that asks for something only where the value is not blank lets blank values pass. -/
theorem passesBlank_require (condition : CheckInput → Bool) (name : String)
    (params : CheckInput → Entries Value) :
    Test.PassesBlank fun input =>
      input.require (input.value.isBlank || condition input) name (params input) := by
  intro input blank
  simp only [CheckInput.require, blank, Bool.true_or, if_true]

/-- A blank value is no number. -/
theorem numeric?_of_isBlank {value : Value} (blank : value.isBlank = true) :
    numeric? value = none := by
  cases value with
  | number number => exact absurd blank Bool.false_ne_true
  | string text =>
    obtain rfl : text = "" := eq_of_beq blank
    rfl
  | _ => rfl

theorem passesBlank_bound (name : String) (keeps : Float → Float → Bool) (args : List Value) :
    Makes Test.PassesBlank ((bound name keeps).prepare args) := by
  refine makes_bound fun bound _ _ input blank => ?_
  simp only [numeric?_of_isBlank blank]

theorem passesBlank_regex (args : List Value) : Makes Test.PassesBlank (regex.prepare args) :=
  makes_regex fun _ pattern _ =>
    passesBlank_require (fun input => pattern.matchesText input.value.display) _ _

/-- The check for banned words lets blank values pass. -/
theorem passesBlank_bannedWords (policy : Word.Policy) (args : List Value) :
    Makes Test.PassesBlank ((bannedWords policy).prepare args) := by
  refine makes_bannedWords fun find input blank => ?_
  dsimp only
  rw [blank, if_pos rfl]

end Check

namespace Registry

/-- Every built-in check but the four that look at blank values lets them pass. -/
theorem passesBlank_procedures (policy : Word.Policy) :
    ∀ entry ∈ procedures policy,
      entry.1 ∉ ["required", "required_if", "abort_if_blank", "abort_if"] →
      ∀ args, Check.Makes Test.PassesBlank (entry.2.prepare args) := by
  intro entry member optional args
  simp only [procedures, List.mem_cons, List.not_mem_nil, or_false] at member
  rcases member with rfl | rfl | rfl | rfl | rfl | rfl | rfl | rfl | rfl | rfl | rfl | rfl | rfl |
    rfl | rfl | rfl
  · exact absurd (by decide) optional
  · exact absurd (by decide) optional
  · exact Check.makes_sameAs fun other => Check.passesBlank_require
      (fun input => input.value.looselySame (input.sibling other)) "same_as" _
  · exact Check.makes_minLength fun least => Check.passesBlank_require
      (fun input => least ≤ Check.length input.value) "min_length" _
  · exact Check.makes_maxLength fun most => Check.passesBlank_require
      (fun input => Check.length input.value ≤ most) "max_length" _
  · exact Check.passesBlank_bound "min" (fun actual bound => actual ≥ bound) args
  · exact Check.passesBlank_bound "max" (fun actual bound => actual ≤ bound) args
  · exact Check.makes_plain
      (Check.passesBlank_require (fun input => Check.isWhole input.value) "integer" _)
  · exact Check.makes_plain
      (Check.passesBlank_require (fun input => (Check.numeric? input.value).isSome) "number" _)
  · exact Check.makes_plain (Check.passesBlank_require
      (fun input => args.any fun choice => choice.looselySame input.value) "one_of" _)
  · exact Check.makes_plain
      (Check.passesBlank_require (fun input => Check.isMailAddress input.value.display) "email" _)
  · exact Check.makes_plain (Check.passesBlank_require
      (fun input => Calendar.isMoment (args.head?.bind Value.text?)
        (Text.trimChars input.value.display.toList)) "datetime" _)
  · exact absurd (by decide) optional
  · exact absurd (by decide) optional
  · exact Check.passesBlank_regex args
  · exact Check.passesBlank_bannedWords policy args

/-- `abortIf` takes a blank value like any other. -/
theorem abortIf_of_isBlank {args : List Value} {test : Test}
    (made : Check.abortIf.prepare args = .ok test) {input : CheckInput}
    (blank : input.value.isBlank = true) :
    (input.value ∈ args → test input = .ok .abort) ∧
      (input.value ∉ args → test input = .ok .pass) := by
  have decides : Check.Makes (fun test => ∀ input, input.value.isBlank = true →
      (input.value ∈ args → test input = .ok .abort) ∧
        (input.value ∉ args → test input = .ok .pass)) (Check.abortIf.prepare args) := by
    refine Check.makes_plain fun input blank => ?_
    have among : (args.any fun arg => arg.looselySame input.value) = true ↔ input.value ∈ args := by
      simp only [List.any_eq_true, Value.looselySame_iff_of_isBlank blank, exists_eq_right]
    dsimp only
    exact ⟨fun inside => by rw [if_pos (among.2 inside)],
      fun outside => by rw [if_neg fun found => outside (among.1 found)]⟩
  exact decides test made input blank

/-- A blank value passes every built-in check that does not ask for a value, whatever the arguments,
unless it is itself among the arguments of `abortIf`. Then the validation ends. -/
theorem blank_outcome {policy : Word.Policy} {name : String} {check : Check}
    (known : (standard policy).checks.get? name = some check)
    (optional : name ∉ ["required", "required_if", "abort_if_blank"]) {args : List Value}
    {test : Test} (made : check.prepare args = .ok test) {input : CheckInput}
    (blank : input.value.isBlank = true) :
    (¬ (name = "abort_if" ∧ input.value ∈ args) → test input = .ok .pass) ∧
      (name = "abort_if" ∧ input.value ∈ args → test input = .ok .abort) := by
  obtain ⟨procedure, listed, rfl⟩ := procedure_of_get? known
  by_cases aborts : name = "abort_if"
  · subst aborts
    obtain rfl : Check.abortIf = procedure := Option.some.inj listed
    obtain ⟨ends, passes⟩ := abortIf_of_isBlank made blank
    exact ⟨fun apart => passes fun inside => apart ⟨rfl, inside⟩, fun both => ends both.2⟩
  · have passes := passesBlank_procedures policy _ (Entries.mem_of_get? listed) (by simp_all) args
      test made input blank
    exact ⟨fun _ => passes, fun both => absurd both.1 aborts⟩

/-- The empty text passes a choice that does not list it, and ends the validation where it is
listed. -/
theorem blank_outcome_emptyText :
    (∃ test, Check.oneOf.prepare [.string "a"] = .ok test ∧
      test (.alone (.string "")) = .ok .pass) ∧
    ∃ test, Check.abortIf.prepare [.string "a", .string ""] = .ok test ∧
      test (.alone (.string "")) = .ok .abort :=
  ⟨⟨_, rfl, (@blank_outcome {} "one_of" Check.oneOf rfl (by decide) [.string "a"] _ rfl
      (.alone (.string "")) rfl).1 fun both => absurd both.1 (by decide)⟩,
    ⟨_, rfl, (@blank_outcome {} "abort_if" Check.abortIf rfl (by decide) [.string "a", .string ""] _
      rfl (.alone (.string "")) rfl).2 ⟨rfl, by simp [CheckInput.alone]⟩⟩⟩

/-- The empty text does not pass `abortIf` where it is an argument itself. -/
theorem abortIf_ends_at_blank :
    (standard {}).checks.get? "abort_if" = some Check.abortIf ∧
      ∃ test, Check.abortIf.prepare [.string ""] = .ok test ∧
        (Value.string "").isBlank = true ∧ test (.alone (.string "")) ≠ .ok .pass :=
  ⟨rfl, _, rfl, rfl, fun passes => absurd (Except.ok.inj passes) (by decide)⟩

end Registry

end Scrutiny
