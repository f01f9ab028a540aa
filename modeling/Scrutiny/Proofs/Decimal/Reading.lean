import Scrutiny.Proofs.Decimal.ReadBack
import Scrutiny.Proofs.Decimal.Whole

/-! # Numbers read from their own texts

The numbers of documents are whole numbers of 64 bits and finite floating-point numbers
(`Number.InRange`). Each of them has a numeral with a sign as its text, and reading the text gives
the floating-point number of the number (`Decimal.finite?_number`). Read as a whole number, the text
of a whole number gives the number and the text of a floating-point number gives nothing.
-/

namespace Scrutiny

/-- The numbers that documents hold. -/
def Number.InRange : Number → Prop
  | .int value => minInt ≤ value ∧ value ≤ maxInt
  | .float value => value.isFinite = true

instance : (number : Number) → Decidable number.InRange
  | .int value => inferInstanceAs (Decidable (Number.minInt ≤ value ∧ value ≤ Number.maxInt))
  | .float value => inferInstanceAs (Decidable (value.isFinite = true))

namespace Decimal

open Binary (Denotes infinityBits)
open Float.Model.UnpackedFloat (Sign)

/-- The sign that goes with a minus. -/
def signOf (negative : Bool) : Sign := if negative then .negative else .positive

section Signed

variable {numeral : Numeral} {negative : Bool} {text : String}

/-- The text of a numeral with a sign is read as the number nearest to the numeral, with that sign
put on it. -/
theorem finite?_signed (sound : numeral.Sound) (written : text.toList = numeral.signed negative)
    {bits : Nat} (nearest : Denotes numeral.decimal.nearest .positive bits)
    (finite : bits < infinityBits) :
    ∃ value, finite? text = some value ∧ Denotes value (signOf negative) bits := by
  have bounded : numeral.decimal.nearest.isInf = false := by
    rw [← Bool.not_eq_true, nearest.isInf_iff]
    exact Nat.ne_of_lt finite
  refine ⟨if negative then -numeral.decimal.nearest else numeral.decimal.nearest, ?_, ?_⟩
  · rw [finite?, written, Numeral.trimChars_signed sound, finiteChars?,
      Numeral.splitSign_signed sound]
    dsimp only
    rw [Numeral.unsigned_chars sound]
    simp only [bounded, Bool.false_eq_true, if_false]
  · cases negative with
    | false => exact nearest
    | true => exact nearest.neg

/-- The text of a numeral with a sign is read as a whole number if it has digits only. -/
theorem whole?_signed (sound : numeral.Sound) (written : text.toList = numeral.signed negative) :
    whole? text = (digits? numeral.chars).map fun value =>
      if negative then -(value : Int) else value := by
  rw [whole?, written, Numeral.trimChars_signed sound, Numeral.splitSign_signed sound]

end Signed

/-- The text of a whole number is a row of digits with a sign. -/
theorem toList_int (value : Int) : ∃ numeral : Numeral, numeral.Sound ∧
    (Json.number (.int value)).toList = numeral.signed (value < 0) ∧
    digits? numeral.chars = some value.natAbs ∧ numeral.decimal = ⟨value.natAbs, 0⟩ := by
  have sound (n : Nat) : Numeral.Sound ⟨Nat.toDigits 10 n, [], none⟩ :=
    ⟨Nat.toDigits_ne_nil,
      fun c member => Nat.isDigit_of_mem_toDigits (by decide) (by decide) member,
      fun c member => absurd member List.not_mem_nil⟩
  refine ⟨⟨Nat.toDigits 10 value.natAbs, [], none⟩, sound _, ?_, ?_, ?_⟩
  · cases value with
    | ofNat n =>
      have natural : decide (Int.ofNat n < 0) = false :=
        decide_eq_false (Int.not_lt.2 (Int.natCast_nonneg n))
      rw [natural, Numeral.signed, if_neg Bool.false_ne_true, Numeral.chars]
      change n.repr.toList = Nat.toDigits 10 n ++ ([] ++ [])
      rw [Nat.toList_repr, List.append_nil, List.append_nil]
    | negSucc n =>
      have negative : decide (Int.negSucc n < 0) = true := decide_eq_true (Int.negSucc_lt_zero n)
      rw [negative, Numeral.signed, if_pos rfl, Numeral.chars]
      change ("-" ++ (n + 1).repr).toList = '-' :: (Nat.toDigits 10 (n + 1) ++ ([] ++ []))
      rw [String.toList_append, Nat.toList_repr, List.append_nil, List.append_nil]
      rfl
  · simp [Numeral.chars, digits?_toDigits]
  · simp [Numeral.decimal, ofDigits_toDigits]

/-- The text of a finite floating-point number is a numeral with a point or a power of ten, and with
a sign. -/
theorem toList_float {value : Float} (finite : value.isFinite = true) :
    ∃ (numeral : Numeral) (negative : Bool) (bits : Nat), numeral.Sound ∧
      (numeral.fraction ≠ [] ∨ numeral.exponent.isSome = true) ∧
      (Json.number (.float value)).toList = numeral.signed negative ∧
      numeral.decimal.ratio = (shortest (Binary.ofBits bits)).ratio ∧
      Denotes value (signOf negative) bits ∧ bits < infinityBits := by
  obtain ⟨sign, denotes, small⟩ := Binary.exists_denotes finite
  have point : Json.numberStyle.wholePoint = true := rfl
  obtain ⟨numeral, sound, marked, written, same⟩ := NumberStyle.exists_numeral point
    (shortest (Binary.ofBits (value.toBits.toNat % 2 ^ 63)))
  have bounded : value.isInf = false := by
    rw [← Bool.not_eq_true, denotes.isInf_iff]
    exact Nat.ne_of_lt small
  have high := denotes.toBits
  refine ⟨numeral, value.toBits.toNat ≥ 2 ^ 63, value.toBits.toNat % 2 ^ 63, sound, marked, ?_,
    same, ?_, small⟩
  · simp only [Json.number, NumberStyle.render, finite, denotes.isNaN, bounded, Nat.pow_eq, if_true,
      Bool.false_eq_true, if_false, written, Numeral.signed, decide_eq_true_eq]
    split
    · rw [String.toList_append, String.toList_ofList, String.toList_ofList]
      rfl
    · rw [String.toList_ofList]
  · have same : signOf (decide (value.toBits.toNat ≥ 2 ^ 63)) = sign := by
      cases sign with
      | negative =>
        rw [decide_eq_true (by simp [Sign.toBitVec] at high; omega)]
        rfl
      | positive =>
        rw [decide_eq_false (by simp [Sign.toBitVec] at high; omega)]
        rfl
    rwa [same]

theorem nearest_of_digits_eq_zero {decimal : Decimal} (none : decimal.digits = 0) :
    Denotes decimal.nearest .positive 0 := by
  rw [nearest, if_pos none]
  exact ⟨by decide, by decide⟩

/-- The number nearest to a natural, as it is read from its digits. -/
theorem nearest_whole {n : Nat} (small : n ≤ 2 ^ 64) :
    Denotes (nearest ⟨n, 0⟩) .positive (wholeBits n) := by
  rcases Nat.eq_zero_or_pos n with rfl | inhabited
  · exact nearest_of_digits_eq_zero rfl
  have value : ratio ⟨n, 0⟩ = n := by simp [ratio]
  have low : placeWeight (-1200) ≤ n := by
    have tiny := placeWeight_le (show (-1200 : Int) ≤ 0 by decide)
    have one : placeWeight 0 = 1 := rfl
    have least : (1 : ℚ) ≤ n := by exact_mod_cast inhabited
    linarith
  have high : (n : ℚ) < placeWeight 1200 := by
    have huge := placeWeight_le (show (65 : Int) ≤ 1200 by decide)
    have power : placeWeight 65 = 2 ^ 65 := rfl
    have most : (n : ℚ) ≤ 2 ^ 64 := by exact_mod_cast small
    linarith
  have rounds := rounds_whole inhabited
  rw [← value] at rounds low high
  rw [nearest_of_rounds (Nat.ne_of_gt inhabited) low high rounds]
  exact Binary.denotes_toFloat _

/-- The number nearest to the decimal that is printed for a number. -/
theorem nearest_shortest {bits : Nat} (small : bits < infinityBits) {decimal : Decimal}
    (same : decimal.ratio = (shortest (Binary.ofBits bits)).ratio) :
    Denotes decimal.nearest .positive bits := by
  rcases Nat.eq_zero_or_pos (Binary.ofBits bits).mantissa with none | inhabited
  · obtain rfl := (Binary.mantissa_ofBits_eq_zero small).1 none
    have zero : decimal.digits = 0 := by
      rw [shortest, if_pos none, ratio, ratio, Nat.cast_zero, zero_mul] at same
      have weight : (10 : ℚ) ^ decimal.exponent ≠ 0 := zpow_ne_zero _ (by decide)
      exact_mod_cast (mul_eq_zero.1 same).resolve_right weight
    exact nearest_of_digits_eq_zero zero
  · have bits_eq := Binary.toBits_ofBits (Nat.le_of_lt small)
    have reads := readsBack_congr inhabited same.symm (readsBack_shortest inhabited)
    have denotes := Binary.denotes_toFloat (Binary.ofBits bits)
    rw [bits_eq] at denotes
    rwa [nearest_of_readsBack (Binary.regular_ofBits bits) (by rwa [bits_eq]) inhabited reads]

/-- The number that the text of a number of documents is read as is the floating-point number of the
number. -/
theorem finite?_number {number : Number} (inRange : number.InRange) :
    finite? (Json.number number) = some number.toFloat := by
  cases number with
  | int value =>
    obtain ⟨numeral, sound, written, -, decimal⟩ := toList_int value
    have small : value.natAbs ≤ 2 ^ 64 := by
      simp only [Number.InRange, Number.minInt, Number.maxInt] at inRange
      omega
    have nearest := nearest_whole small
    rw [← decimal] at nearest
    obtain ⟨read, found, denotes⟩ :=
      finite?_signed sound written nearest (wholeBits_lt_infinityBits small)
    have same := denotes_ofInt value
    simp only [signOf, decide_eq_true_eq] at denotes
    rw [found, denotes.unique same]
    rfl
  | float value =>
    obtain ⟨numeral, negative, bits, sound, -, written, same, denotes, small⟩ :=
      toList_float inRange
    obtain ⟨read, found, denoted⟩ :=
      finite?_signed sound written (nearest_shortest small same) small
    rw [found, denoted.unique denotes]
    rfl

/-- The text of a whole number is read as the whole number. -/
theorem whole?_int (value : Int) : whole? (Json.number (.int value)) = some value := by
  obtain ⟨numeral, sound, written, digits, -⟩ := toList_int value
  rw [whole?_signed sound written, digits]
  change some (if decide (value < 0) = true then -(value.natAbs : Int) else value.natAbs) = _
  congr 1
  split
  · next negative =>
    have := of_decide_eq_true negative
    omega
  · next natural =>
    have := of_decide_eq_false (Bool.eq_false_of_not_eq_true natural)
    omega

/-- The text of a floating-point number is not that of a whole number. -/
theorem whole?_float {value : Float} (finite : value.isFinite = true) :
    whole? (Json.number (.float value)) = none := by
  obtain ⟨numeral, negative, bits, sound, marked, written, -⟩ := toList_float finite
  rw [whole?_signed sound written, Numeral.digits?_chars marked]
  rfl

/-- The text of a number is not empty. -/
theorem number_ne_empty (number : Number) : Json.number number ≠ "" := by
  have signed (negative : Bool) {numeral : Numeral} (sound : numeral.Sound) :
      numeral.signed negative ≠ [] := by
    cases negative with
    | true => exact List.cons_ne_nil _ _
    | false => exact List.append_ne_nil_of_left_ne_nil sound.begun _
  intro empty
  have nothing : (Json.number number).toList = [] := by rw [empty]; rfl
  cases number with
  | int value =>
    obtain ⟨numeral, sound, written, -⟩ := toList_int value
    exact signed _ sound (written.symm.trans nothing)
  | float value =>
    cases finite : value.isFinite with
    | true =>
      obtain ⟨numeral, negative, bits, sound, -, written, -⟩ := toList_float finite
      exact signed _ sound (written.symm.trans nothing)
    | false =>
      rw [Json.number, finite, if_neg Bool.false_ne_true] at empty
      exact absurd empty (by decide)

end Decimal

end Scrutiny
