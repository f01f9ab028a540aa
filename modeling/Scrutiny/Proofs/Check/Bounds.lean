import Scrutiny.Proofs.Check.Judgement
import Scrutiny.Proofs.Decimal.Reading

/-! # Bounds on whole numbers

`min` and `max` compare floating-point numbers. The floating-point number of a whole number is the
nearest one, and it is the same for a number and for its text, so whole numbers are compared as they
are, except that numbers with one floating-point number count as equal (`Check.bounds_whole`). Such
numbers have more than 53 binary digits.
-/

namespace Scrutiny.Check

/-- The value is a whole number or the text of one. -/
inductive Stands (value : Int) : Value → Prop
  | number : Stands value (.number (.int value))
  | text : Stands value (.string (toString value))

/-- A whole number is read as a number from each form in which it may stand. -/
theorem numeric?_of_stands {value : Int} (inRange : (Number.int value).InRange) {form : Value}
    (stands : Stands value form) : numeric? form = some (Number.int value).toFloat := by
  cases stands with
  | number => rfl
  | text =>
    have read := Decimal.finite?_number inRange
    rwa [Json.number] at read

/-- What a bound on a whole number makes lets a number pass that keeps to it. -/
theorem bound_eq_pass_iff (name : String) (keeps : Float → Float → Bool) (given : Int)
    {input : CheckInput} {actual : Float} (stands : numeric? input.value = some actual) :
    ∃ test, (bound name keeps).prepare [.number (.int given)] = .ok test ∧
      (test input = .ok .pass ↔ keeps actual (Number.int given).toFloat = true) := by
  have decides : Makes (fun test => test input = .ok .pass ↔
      keeps actual (Number.int given).toFloat = true)
      ((bound name keeps).prepare [.number (.int given)]) := by
    refine makes_bound fun bound rest same => ?_
    obtain rfl : Number.int given = bound := Value.number.inj (List.cons.inj same).1
    dsimp only
    rw [stands]
    exact CheckInput.require_eq_pass_iff _ _ _ _
  exact ⟨_, rfl, decides _ rfl⟩

/-- Whole numbers keep the bounds `min` and `max` as they are ordered, or if a bound has the same
floating-point number. This cannot be the case where one of the two is below 2 to the power 53. -/
theorem bounds_whole {value bound : Int} (inRange : (Number.int value).InRange) {input : CheckInput}
    (stands : Stands value input.value) :
    (∃ test, min.prepare [.number (.int bound)] = .ok test ∧
      (test input = .ok .pass ↔
        bound ≤ value ∨ (Number.int bound).toFloat = (Number.int value).toFloat)) ∧
    (∃ test, max.prepare [.number (.int bound)] = .ok test ∧
      (test input = .ok .pass ↔
        value ≤ bound ∨ (Number.int value).toFloat = (Number.int bound).toFloat)) ∧
    ((Number.int value).toFloat = (Number.int bound).toFloat → value ≠ bound →
      2 ^ 53 ≤ value.natAbs ∧ 2 ^ 53 ≤ bound.natAbs) := by
  have actual := numeric?_of_stands inRange stands
  refine ⟨?_, ?_, Decimal.large_of_ofInt_eq⟩
  · obtain ⟨test, made, passes⟩ :=
      bound_eq_pass_iff "min" (fun actual bound => actual ≥ bound) bound actual
    refine ⟨test, made, passes.trans ?_⟩
    rw [decide_eq_true_iff]
    exact Decimal.ofInt_le_iff bound value
  · obtain ⟨test, made, passes⟩ :=
      bound_eq_pass_iff "max" (fun actual bound => actual ≤ bound) bound actual
    refine ⟨test, made, passes.trans ?_⟩
    rw [decide_eq_true_iff]
    exact Decimal.ofInt_le_iff value bound

theorem bounds_whole_text :
    ∃ test, min.prepare [.number (.int 1)] = .ok test ∧
      test (.alone (.string "3")) = .ok .pass :=
  have ⟨test, made, passes⟩ := (@bounds_whole 3 1 (by decide) (.alone (.string "3")) .text).1
  ⟨test, made, passes.2 (.inl (by decide))⟩

/-- The number next below a bound passes `min`, and the one next above a bound passes `max`. -/
theorem bounds_miss_neighbour :
    (∃ test, min.prepare [.number (.int 9007199254740993)] = .ok test ∧
      test (.alone (.number (.int 9007199254740992))) = .ok .pass) ∧
    ∃ test, max.prepare [.number (.int 9007199254740992)] = .ok test ∧
      test (.alone (.number (.int 9007199254740993))) = .ok .pass := by
  have held (value : Int) : numeric? (CheckInput.alone (.number (.int value))).value =
      some (Number.int value).toFloat := rfl
  obtain ⟨low, least, passes⟩ := bound_eq_pass_iff "min" (fun actual bound => actual ≥ bound)
    9007199254740993 (held 9007199254740992)
  obtain ⟨high, most, passes'⟩ := bound_eq_pass_iff "max" (fun actual bound => actual ≤ bound)
    9007199254740992 (held 9007199254740993)
  exact ⟨⟨low, least, passes.2 (by decide)⟩, ⟨high, most, passes'.2 (by decide)⟩⟩

end Scrutiny.Check
