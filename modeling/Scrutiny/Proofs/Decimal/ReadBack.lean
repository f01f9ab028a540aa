import Scrutiny.Proofs.Decimal.Nearest
import Scrutiny.Proofs.Decimal.Numeral

/-! # The decimal that is printed reads back

What `Decimal.readsBack` compares are ratios (`Decimal.readsBack_iff`), so that decimals of one
ratio read back alike. The decimal that `Decimal.shortest` takes reads back
(`Decimal.readsBack_shortest`), and a decimal that reads back as a number is nearest to no other
(`Decimal.nearest_of_readsBack`).
-/

namespace Scrutiny.Decimal

/-- The quotient of a fraction. -/
def Fraction.ratio (fraction : Fraction) : ℚ := fraction.numerator / fraction.denominator

namespace Fraction

/-- A number of units has a fraction with a denominator that is not zero. -/
theorem denominator_scaled_pos (units : Nat) {base : Nat} (positive : 0 < base)
    (exponent : Int) : 0 < (scaled units base exponent).denominator := by
  simp only [scaled]
  split
  · exact Nat.pow_pos positive
  · exact Nat.one_pos

/-- The fraction of a number of units is their number times the power of the base. -/
theorem ratio_scaled (units : Nat) {base : Nat} (positive : 0 < base) (exponent : Int) :
    (scaled units base exponent).ratio = units * (base : ℚ) ^ exponent := by
  have inhabited : (base : ℚ) ≠ 0 := by exact_mod_cast Nat.ne_of_gt positive
  simp only [scaled, ratio]
  split
  · next negative =>
    obtain ⟨steps, rfl⟩ := Int.exists_eq_neg_ofNat (Int.le_of_lt negative)
    simp only [Int.natAbs_neg, Int.natAbs_natCast, Nat.pow_eq, Nat.cast_pow, zpow_neg,
      zpow_natCast]
    rfl
  · next natural =>
    obtain ⟨steps, rfl⟩ := Int.eq_ofNat_of_zero_le (Int.not_lt.1 natural)
    simp

/-- Fractions are compared by their ratios. -/
theorem atMost_iff {left right : Fraction} (lower : 0 < left.denominator)
    (upper : 0 < right.denominator) : left.atMost right = true ↔ left.ratio ≤ right.ratio := by
  have lower : (0 : ℚ) < left.denominator := by exact_mod_cast lower
  have upper : (0 : ℚ) < right.denominator := by exact_mod_cast upper
  rw [atMost, ratio, ratio, div_le_div_iff₀ lower upper, decide_eq_true_iff]
  exact_mod_cast Iff.rfl

/-- Fractions of powers are compared as the ratios that they stand for. -/
theorem atMost_scaled_iff (units others : Nat) {base other : Nat} (positive : 0 < base)
    (natural : 0 < other) (exponent place : Int) :
    (scaled units base exponent).atMost (scaled others other place) = true ↔
      units * (base : ℚ) ^ exponent ≤ others * (other : ℚ) ^ place := by
  rw [atMost_iff (denominator_scaled_pos units positive exponent)
    (denominator_scaled_pos others natural place), ratio_scaled units positive,
    ratio_scaled others natural]

end Fraction

/-- The least ratio that may round to a binary number. -/
def lowEnd (value : Binary) : ℚ :=
  (4 * value.mantissa - if value.narrowBelow then 1 else 2) * placeWeight (value.exponent - 2)

/-- The largest ratio that may round to a binary number. -/
def highEnd (value : Binary) : ℚ :=
  (4 * value.mantissa + 2) * placeWeight (value.exponent - 2)

/-- A decimal reads back if it lies between the ends of the number, an end included if the mantissa
is even. -/
theorem readsBack_iff {value : Binary} (inhabited : 0 < value.mantissa) (candidate : Decimal) :
    readsBack value candidate = true ↔
      if value.mantissa % 2 = 0 then
        lowEnd value ≤ candidate.ratio ∧ candidate.ratio ≤ highEnd value
      else lowEnd value < candidate.ratio ∧ candidate.ratio < highEnd value := by
  have low : ((4 * value.mantissa - if value.narrowBelow then 1 else 2 : Nat) : ℚ) *
      ((2 : Nat) : ℚ) ^ (value.exponent - 2) = lowEnd value := by
    rw [lowEnd, placeWeight, Nat.cast_sub (by split <;> omega)]
    push_cast
    rfl
  have high : ((4 * value.mantissa + 2 : Nat) : ℚ) * ((2 : Nat) : ℚ) ^ (value.exponent - 2) =
      highEnd value := by
    rw [highEnd, placeWeight]
    push_cast
    rfl
  have point : (candidate.digits : ℚ) * ((10 : Nat) : ℚ) ^ candidate.exponent =
      candidate.ratio := rfl
  have two : 0 < 2 := by decide
  have ten : 0 < 10 := by decide
  simp only [readsBack]
  split
  · rw [Bool.and_eq_true, Fraction.atMost_scaled_iff _ _ two ten,
      Fraction.atMost_scaled_iff _ _ ten two, low, high, point]
  · rw [Bool.and_eq_true, Bool.not_eq_true', Bool.not_eq_true', ← Bool.not_eq_true,
      ← Bool.not_eq_true, Fraction.atMost_scaled_iff _ _ ten two,
      Fraction.atMost_scaled_iff _ _ two ten, low, high, point, not_le, not_le]

/-- Decimals of one ratio read back alike. -/
theorem readsBack_congr {value : Binary} (inhabited : 0 < value.mantissa) {first second : Decimal}
    (same : first.ratio = second.ratio) (reads : readsBack value first = true) :
    readsBack value second = true := by
  rw [readsBack_iff inhabited, ← same]
  exact (readsBack_iff inhabited first).1 reads

/-- A decimal that reads back lies between the ends or on one of them. -/
theorem ends_of_readsBack {value : Binary} (inhabited : 0 < value.mantissa) {candidate : Decimal}
    (reads : readsBack value candidate = true) :
    lowEnd value ≤ candidate.ratio ∧ candidate.ratio ≤ highEnd value := by
  have inside := (readsBack_iff inhabited candidate).1 reads
  split at inside
  · exact inside
  · exact ⟨le_of_lt inside.1, le_of_lt inside.2⟩

/-- A place weighs four times as much as the one two places lower. -/
theorem placeWeight_quarter (place : Int) : placeWeight place = 4 * placeWeight (place - 2) := by
  have half := placeWeight_succ (place - 1)
  have quarter := placeWeight_succ (place - 2)
  rw [show place - 1 + 1 = place by omega] at half
  rw [show place - 2 + 1 = place - 1 by omega] at quarter
  rw [half, quarter]
  ring

/-- A number reads back from its own ratio. -/
theorem readsBack_exact {value : Binary} (inhabited : 0 < value.mantissa) {candidate : Decimal}
    (exact : candidate.ratio = value.ratio) : readsBack value candidate = true := by
  have quarter := placeWeight_quarter value.exponent
  have weight := placeWeight_pos (value.exponent - 2)
  have low : lowEnd value < value.ratio := by
    rw [lowEnd, Binary.ratio, quarter]
    split <;> nlinarith
  have high : value.ratio < highEnd value := by
    rw [highEnd, Binary.ratio, quarter]
    nlinarith
  rw [readsBack_iff inhabited, exact]
  split
  · exact ⟨le_of_lt low, le_of_lt high⟩
  · exact ⟨low, high⟩

/-- Taking off zeros leaves the ratio as it is. -/
theorem ratio_strip (digits : Nat) (exponent : Int) (steps : Nat) :
    (strip digits exponent steps).ratio = ratio ⟨digits, exponent⟩ := by
  induction steps generalizing digits exponent with
  | zero => rfl
  | succ steps ih =>
    rw [strip]
    split
    · next trailing =>
      have tens : (10 * (digits / 10 : Nat) : ℚ) = digits := by
        exact_mod_cast Nat.mul_div_cancel' (Nat.dvd_of_mod_eq_zero trailing.2)
      rw [ih, ratio, ratio, zpow_add_one₀ (by decide), ← tens]
      ring
    · rfl

/-- A decimal that is found on a grid reads back. -/
theorem readsBack_onGrid {value : Binary} {exact : Fraction} {exponent : Int} {decimal : Decimal}
    (found : onGrid value exact exponent = some decimal) : readsBack value decimal = true := by
  simp only [onGrid] at found
  split at found
  · next reads _ =>
    obtain rfl := Option.some.inj found
    exact reads
  · next reads =>
    obtain rfl := Option.some.inj found
    exact reads
  · exact absurd found (by simp)
  · next lower upper =>
    split at found <;> obtain rfl := Option.some.inj found
    · exact lower
    · exact upper

/-- The decimal taken for a number reads back as the number. -/
theorem readsBack_shortest {value : Binary} (inhabited : 0 < value.mantissa) :
    readsBack value (shortest value) = true := by
  rw [shortest, if_neg (Nat.ne_of_gt inhabited)]
  dsimp only
  split
  · next decimal found =>
    obtain ⟨index, _, taken⟩ := List.exists_of_findSome?_eq_some found
    exact readsBack_congr inhabited (ratio_strip _ _ _).symm (readsBack_onGrid taken)
  · -- on no grid is there a decimal that reads back, so all digits are taken
    refine readsBack_exact inhabited ?_
    rw [Binary.ratio, placeWeight]
    split
    · next negative =>
      obtain ⟨steps, down⟩ := Int.exists_eq_neg_ofNat (Int.le_of_lt negative)
      have ten : (10 : ℚ) ^ steps = 2 ^ steps * 5 ^ steps := by
        rw [← mul_pow]
        norm_num
      rw [ratio, down]
      simp only [Int.natAbs_neg, Int.natAbs_natCast, Nat.pow_eq, Nat.cast_mul, Nat.cast_pow,
        Nat.cast_ofNat, zpow_neg, zpow_natCast, ten]
      field_simp
    · next natural =>
      obtain ⟨steps, up⟩ := Int.eq_ofNat_of_zero_le (Int.not_lt.1 natural)
      rw [ratio, up]
      simp

open Binary (Rounds Regular infinityBits)

section Rounded

variable {value : Binary} {candidate : Decimal}

/-- The lower end is at least half a unit below the number. -/
theorem half_le_lowEnd (value : Binary) :
    (4 * value.mantissa - 2) * placeWeight (value.exponent - 2) ≤ lowEnd value := by
  have weight := placeWeight_pos (value.exponent - 2)
  rw [lowEnd]
  refine mul_le_mul_of_nonneg_right ?_ (le_of_lt weight)
  split <;> linarith

/-- A ratio between the ends that has all binary places is rounded to the number. -/
theorem rounds_of_full (regular : value.Regular) (inhabited : 0 < value.mantissa)
    (reads : readsBack value candidate = true)
    (full : 2 ^ 52 * placeWeight value.exponent ≤ candidate.ratio ∨ value.exponent = -1074) :
    value.Rounds candidate.ratio := by
  obtain ⟨low, high⟩ := ends_of_readsBack inhabited reads
  have inside := (readsBack_iff inhabited candidate).1 reads
  have half := half_le_lowEnd value
  have quarter := placeWeight_quarter value.exponent
  have weight := placeWeight_pos (value.exponent - 2)
  have narrow : (value.mantissa + 1 : ℚ) ≤ 2 ^ 53 := by exact_mod_cast regular.narrow
  rw [highEnd] at high inside
  rw [quarter] at full
  refine ⟨regular.least, by rwa [quarter], ?_, ?_, ?_, ?_⟩ <;> rw [quarter]
  · nlinarith
  · linarith
  · linarith
  · intro tie
    by_contra odd
    rw [if_neg odd] at inside
    rcases tie with tie | tie <;> linarith

/-- A ratio with a place more than the number is near it only below a power of two. -/
theorem mantissa_of_not_full (regular : value.Regular) (inhabited : 0 < value.mantissa)
    (reads : readsBack value candidate = true)
    (short : candidate.ratio < 2 ^ 52 * placeWeight value.exponent)
    (above : value.exponent ≠ -1074) : value.mantissa = 2 ^ 52 := by
  have low := (ends_of_readsBack inhabited reads).1
  have half := half_le_lowEnd value
  have quarter := placeWeight_quarter value.exponent
  have weight := placeWeight_pos (value.exponent - 2)
  have full := regular.full.resolve_right above
  refine Nat.le_antisymm (Nat.le_of_not_lt fun more => ?_) full
  have more : (2 ^ 52 + 1 : ℚ) ≤ value.mantissa := by exact_mod_cast more
  rw [quarter] at short
  nlinarith

/-- A decimal that reads back as a number is rounded to the number. -/
theorem exists_rounds_of_readsBack (regular : value.Regular) (inhabited : 0 < value.mantissa)
    (reads : readsBack value candidate = true) :
    ∃ rounded : Binary, rounded.Rounds candidate.ratio ∧ rounded.toBits = value.toBits := by
  by_cases full : 2 ^ 52 * placeWeight value.exponent ≤ candidate.ratio ∨ value.exponent = -1074
  · exact ⟨value, rounds_of_full regular inhabited reads full, rfl⟩
  obtain ⟨short, above⟩ := not_or.1 full
  have power := mantissa_of_not_full regular inhabited reads (not_le.1 short) above
  obtain ⟨low, high⟩ := ends_of_readsBack inhabited reads
  have weight := placeWeight_pos (value.exponent - 1)
  have double := placeWeight_succ (value.exponent - 1)
  have quarter := placeWeight_succ (value.exponent - 2)
  have least : -1074 < value.exponent := by
    have := regular.least
    simp only [Binary.leastExponent] at this
    omega
  have gap : value.narrowBelow = true := by
    simp only [Binary.narrowBelow, power, Binary.storedBits, Binary.leastExponent]
    simpa using least
  rw [lowEnd, gap, if_pos rfl, power] at low
  rw [Int.sub_add_cancel] at double
  rw [show value.exponent - 2 + 1 = value.exponent - 1 by omega] at quarter
  push_cast at low
  -- one place more, with the mantissa carried over all its bits
  refine ⟨⟨2 ^ 53, value.exponent - 1⟩, ⟨?_, .inl ?_, ?_, ?_, ?_, ?_⟩, ?_⟩
  · dsimp only
    omega
  · dsimp only
    linarith
  · dsimp only
    linarith
  · dsimp only
    push_cast
    linarith
  · dsimp only
    push_cast
    linarith
  · exact fun _ => by norm_num
  · rw [Binary.toBits_eq, Binary.toBits_eq, power]
    simp only [infinityBits]
    split <;> split <;> omega

end Rounded

section Nearest

variable {candidate : Decimal}

/-- The position of the first digit tells the ratio up to a factor of ten. -/
theorem ratio_bounds (some : candidate.digits ≠ 0) :
    (10 : ℚ) ^ (candidate.exponent + (digitCount candidate.digits : Nat) - 1) ≤ candidate.ratio ∧
      candidate.ratio < 10 ^ (candidate.exponent + (digitCount candidate.digits : Nat)) := by
  have weight : (0 : ℚ) < 10 ^ candidate.exponent := zpow_pos (by decide) _
  rw [digitCount, if_neg some, ratio]
  have count : 0 < (Nat.toDigits 10 candidate.digits).length := Nat.length_toDigits_pos
  have below : candidate.digits < 10 ^ (Nat.toDigits 10 candidate.digits).length :=
    (Nat.length_toDigits_le_iff (by decide) count).1 (Nat.le_refl _)
  have above : 10 ^ ((Nat.toDigits 10 candidate.digits).length - 1) ≤ candidate.digits := by
    by_contra small
    rcases Nat.eq_zero_or_pos ((Nat.toDigits 10 candidate.digits).length - 1) with single | more
    · rw [single] at small
      omega
    · have := (Nat.length_toDigits_le_iff (by decide) more).2 (Nat.lt_of_not_le small)
      omega
  generalize (Nat.toDigits 10 candidate.digits).length = length at *
  constructor
  · rw [show candidate.exponent + (length : Int) - 1 = (length - 1 : Nat) + candidate.exponent by
        omega, zpow_add₀ (by decide), zpow_natCast]
    exact mul_le_mul_of_nonneg_right (by exact_mod_cast above) (le_of_lt weight)
  · rw [Int.add_comm, zpow_add₀ (by decide), zpow_natCast]
    exact mul_lt_mul_of_pos_right (by exact_mod_cast below) weight

/-- A large power of two is bounded by a power of ten. -/
theorem placeWeight_le_ten : placeWeight 1200 ≤ 10 ^ (400 : Int) := by
  have eight : placeWeight 1200 = (2 ^ 3) ^ 400 := by
    rw [placeWeight, ← pow_mul]
    rfl
  rw [eight, show (10 : ℚ) ^ (400 : Int) = 10 ^ 400 from zpow_natCast _ _]
  exact pow_le_pow_left₀ (by norm_num) (by norm_num) 400

/-- A small power of two is bounded by a power of ten. -/
theorem ten_le_placeWeight : (10 : ℚ) ^ (-400 : Int) ≤ placeWeight (-1200) := by
  have inverse : placeWeight (-1200) = (placeWeight 1200)⁻¹ := zpow_neg _ _
  rw [inverse, zpow_neg]
  exact inv_anti₀ (placeWeight_pos _) placeWeight_le_ten

/-- Ratios of a size that floating-point numbers have are not settled by their first digit. -/
theorem lead_bounds (some : candidate.digits ≠ 0) (low : placeWeight (-1200) ≤ candidate.ratio)
    (high : candidate.ratio < placeWeight 1200) :
    -400 ≤ candidate.exponent + (digitCount candidate.digits : Nat) ∧
      candidate.exponent + (digitCount candidate.digits : Nat) ≤ 400 := by
  obtain ⟨above, below⟩ := ratio_bounds some
  constructor
  · by_contra small
    have tiny : (10 : ℚ) ^ (candidate.exponent + (digitCount candidate.digits : Nat)) ≤
        10 ^ (-400 : Int) := zpow_le_zpow_right₀ (by decide) (by omega)
    exact absurd (low.trans_lt below) (not_lt.2 (tiny.trans ten_le_placeWeight))
  · by_contra large
    have huge : (10 : ℚ) ^ (400 : Int) ≤
        10 ^ (candidate.exponent + (digitCount candidate.digits : Nat) - 1) :=
      zpow_le_zpow_right₀ (by decide) (by omega)
    exact absurd high (not_lt.2 (placeWeight_le_ten.trans (huge.trans above)))

theorem toFloat_congr {first second : Binary} (same : first.toBits = second.toBits) :
    first.toFloat = second.toFloat := by
  rw [Binary.toFloat, same, Binary.toFloat]

/-- The number nearest to a ratio is the magnitude that rounds it. -/
theorem nearestRatio_eq {dividend divisor : Nat} {rounded : Binary} (inhabited : 0 < dividend)
    (positive : 0 < divisor) (rounds : rounded.Rounds (dividend / divisor)) :
    nearestRatio dividend divisor = rounded.toFloat :=
  toFloat_congr ((rounds_nearestBinary inhabited positive).toBits_eq_of rounds)

/-- What a decimal is rounded to is the floating-point number nearest to it. -/
theorem nearest_of_rounds {rounded : Binary} (some : candidate.digits ≠ 0)
    (low : placeWeight (-1200) ≤ candidate.ratio) (high : candidate.ratio < placeWeight 1200)
    (rounds : rounded.Rounds candidate.ratio) : candidate.nearest = rounded.toFloat := by
  obtain ⟨below, above⟩ := lead_bounds some low high
  have inhabited := Nat.pos_of_ne_zero some
  simp only [nearest]
  rw [if_neg some, if_neg (by omega), if_neg (by omega)]
  split
  · next natural =>
    refine nearestRatio_eq (Nat.mul_pos inhabited (Nat.pow_pos (by decide))) Nat.one_pos ?_
    obtain ⟨steps, up⟩ := Int.eq_ofNat_of_zero_le natural
    rw [ratio, up] at rounds
    rw [up]
    simpa using rounds
  · next negative =>
    refine nearestRatio_eq inhabited (Nat.pow_pos (by decide)) ?_
    obtain ⟨steps, down⟩ := Int.exists_eq_neg_ofNat (Int.le_of_not_le negative)
    rw [ratio, down] at rounds
    rw [down]
    simpa [div_eq_mul_inv] using rounds

/-- The ratios that round to a finite number are neither too small nor too large to be looked at. -/
theorem size_of_readsBack {value : Binary} (regular : value.Regular)
    (finite : value.toBits < infinityBits) (inhabited : 0 < value.mantissa)
    (reads : readsBack value candidate = true) :
    placeWeight (-1200) ≤ candidate.ratio ∧ candidate.ratio < placeWeight 1200 := by
  obtain ⟨low, high⟩ := ends_of_readsBack inhabited reads
  have half := half_le_lowEnd value
  have one : (1 : ℚ) ≤ value.mantissa := by exact_mod_cast inhabited
  have narrow : (value.mantissa : ℚ) < 2 ^ 53 := by exact_mod_cast regular.narrow
  have least := regular.least
  have weight := placeWeight_pos (value.exponent - 2)
  simp only [Binary.leastExponent] at least
  constructor
  · have tiny : placeWeight (-1200) ≤ placeWeight (value.exponent - 2) :=
      placeWeight_le (by omega)
    nlinarith
  · have place : value.exponent ≤ 971 := by
      rcases regular.full with full | least
      · rw [Binary.toBits_eq, if_neg (Nat.not_lt.2 full)] at finite
        simp only [infinityBits] at finite
        omega
      · rw [least]
        decide
    have huge : 2 ^ 56 * placeWeight (value.exponent - 2) ≤ placeWeight 1200 := by
      rw [placeWeight, ← zpow_natCast, ← zpow_add₀ (by decide)]
      exact placeWeight_le (by omega)
    rw [highEnd] at high
    nlinarith

/-- The floating-point number nearest to the decimal taken for a number is the number. -/
theorem nearest_of_readsBack {value : Binary} (regular : value.Regular)
    (finite : value.toBits < infinityBits) (inhabited : 0 < value.mantissa)
    (reads : readsBack value candidate = true) : candidate.nearest = value.toFloat := by
  obtain ⟨low, high⟩ := size_of_readsBack regular finite inhabited reads
  obtain ⟨rounded, rounds, same⟩ := exists_rounds_of_readsBack regular inhabited reads
  have some : candidate.digits ≠ 0 := by
    intro none
    have weight := placeWeight_pos (-1200)
    rw [ratio, none, Nat.cast_zero, zero_mul] at low
    linarith
  rw [nearest_of_rounds some low high rounds, toFloat_congr same]

end Nearest

end Scrutiny.Decimal
