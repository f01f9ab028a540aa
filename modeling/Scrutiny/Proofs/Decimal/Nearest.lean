import Scrutiny.Decimal.Literal
import Scrutiny.Proofs.Decimal.Encoding

/-! # The number nearest to a ratio

A binary number rounds a ratio if it has as many binary places as a floating-point number may have
there, and its mantissa is a nearest one, the even one of two (`Binary.Rounds`). The number that
`Decimal.nearestBinary` takes rounds the quotient (`Decimal.rounds_nearestBinary`), and numbers that
round ratios are ordered as the ratios are (`Binary.Rounds.toBits_le`), so that all numbers that
round one ratio have one bit pattern.
-/

namespace Scrutiny

/-- The weight of a binary place. -/
def placeWeight (place : Int) : ℚ := 2 ^ place

theorem placeWeight_pos (place : Int) : 0 < placeWeight place := zpow_pos (by decide) place

/-- A place weighs twice as much as the one below it. -/
theorem placeWeight_succ (place : Int) : placeWeight (place + 1) = 2 * placeWeight place := by
  rw [placeWeight, zpow_add_one₀ (by decide), mul_comm, placeWeight]

theorem placeWeight_le {low high : Int} (le : low ≤ high) :
    placeWeight low ≤ placeWeight high :=
  zpow_le_zpow_right₀ (by decide) le

namespace Binary

/-- The number that a mantissa and an exponent make. -/
def ratio (value : Binary) : ℚ := value.mantissa * placeWeight value.exponent

/-- A number is taken for whole exactly if its ratio is a whole number. -/
theorem isWhole_iff (value : Binary) :
    value.isWhole = true ↔ ∃ whole : Nat, value.ratio = whole := by
  rw [isWhole, Bool.or_eq_true, decide_eq_true_iff, beq_iff_eq, ratio, placeWeight]
  rcases Int.le_total 0 value.exponent with natural | negative
  · obtain ⟨steps, up⟩ := Int.eq_ofNat_of_zero_le natural
    refine iff_of_true (.inl natural) ⟨value.mantissa * 2 ^ steps, ?_⟩
    rw [up]
    push_cast
    rfl
  · obtain ⟨steps, down⟩ := Int.exists_eq_neg_ofNat negative
    have power : (2 : ℚ) ^ steps ≠ 0 := by positivity
    rw [down, Int.natAbs_neg, Int.natAbs_natCast, Nat.pow_eq, zpow_neg, zpow_natCast]
    constructor
    · rintro (none | divides)
      · obtain rfl : steps = 0 := by omega
        exact ⟨value.mantissa, by simp⟩
      · obtain ⟨whole, product⟩ := Nat.dvd_of_mod_eq_zero divides
        refine ⟨whole, ?_⟩
        rw [product]
        push_cast
        field_simp
    · rintro ⟨whole, same⟩
      right
      have product : (value.mantissa : ℚ) = 2 ^ steps * whole := by
        rw [← same]
        field_simp
      have product : value.mantissa = 2 ^ steps * whole := by exact_mod_cast product
      rw [product, Nat.mul_mod_right]

/-- A binary number is nearest to a ratio with the places that a floating-point number has. -/
structure Rounds (value : Binary) (ratio : ℚ) : Prop where
  least : -1074 ≤ value.exponent
  full : 2 ^ 52 * placeWeight value.exponent ≤ ratio ∨ value.exponent = -1074
  narrow : ratio < 2 ^ 53 * placeWeight value.exponent
  low : (2 * value.mantissa - 1) * placeWeight value.exponent ≤ 2 * ratio
  high : 2 * ratio ≤ (2 * value.mantissa + 1) * placeWeight value.exponent
  even : 2 * ratio = (2 * value.mantissa - 1) * placeWeight value.exponent ∨
    2 * ratio = (2 * value.mantissa + 1) * placeWeight value.exponent → value.mantissa % 2 = 0

namespace Rounds

variable {value other : Binary} {ratio larger : ℚ}

/-- A rounded mantissa has at most 53 places, or is the next power of two. -/
theorem mantissa_le (rounds : value.Rounds ratio) : value.mantissa ≤ 2 ^ 53 := by
  have positive := placeWeight_pos value.exponent
  have low := rounds.low
  have narrow := rounds.narrow
  by_contra large
  have large : (2 ^ 53 + 1 : ℚ) ≤ value.mantissa := by exact_mod_cast Nat.lt_of_not_le large
  nlinarith

/-- A rounded mantissa has 53 places if the ratio has. -/
theorem le_mantissa (rounds : value.Rounds ratio)
    (full : 2 ^ 52 * placeWeight value.exponent ≤ ratio) : 2 ^ 52 ≤ value.mantissa := by
  have positive := placeWeight_pos value.exponent
  have high := rounds.high
  by_contra small
  have small : (value.mantissa + 1 : ℚ) ≤ 2 ^ 52 := by exact_mod_cast Nat.lt_of_not_le small
  nlinarith

/-- A larger ratio is not rounded with a smaller last place. -/
theorem exponent_le (rounds : value.Rounds ratio) (rounded : other.Rounds larger)
    (le : ratio ≤ larger) : value.exponent ≤ other.exponent := by
  by_contra above
  have above : other.exponent + 1 ≤ value.exponent := by omega
  have full : 2 ^ 52 * placeWeight value.exponent ≤ ratio :=
    rounds.full.resolve_right (by have := rounded.least; omega)
  have weights := placeWeight_le above
  rw [placeWeight_succ] at weights
  have narrow := rounded.narrow
  linarith

/-- At one exponent, a larger ratio has no smaller mantissa. -/
theorem mantissa_le_of_exponent_eq (rounds : value.Rounds ratio) (rounded : other.Rounds larger)
    (le : ratio ≤ larger) (same : value.exponent = other.exponent) :
    value.mantissa ≤ other.mantissa := by
  have positive := placeWeight_pos other.exponent
  have low := rounds.low
  have high := rounded.high
  have even := rounds.even
  have odd := rounded.even
  rw [same] at low even
  by_contra above
  have next : (other.mantissa + 1 : ℚ) ≤ value.mantissa := by
    exact_mod_cast Nat.lt_of_not_le above
  have exact : (value.mantissa : ℚ) = other.mantissa + 1 := by
    by_contra apart
    have far := lt_of_le_of_ne next (Ne.symm apart)
    nlinarith
  have successor : value.mantissa = other.mantissa + 1 := by exact_mod_cast exact
  rw [exact] at low even
  have := even (.inl (by nlinarith))
  have := odd (.inr (by nlinarith))
  omega

/-- Bit patterns of rounded numbers are ordered as the ratios are. -/
theorem toBits_le (rounds : value.Rounds ratio) (rounded : other.Rounds larger)
    (le : ratio ≤ larger) : value.toBits ≤ other.toBits := by
  have least := rounds.least
  have bound := rounds.mantissa_le
  rw [toBits_eq, toBits_eq]
  simp only [infinityBits]
  rcases Int.lt_or_eq_of_le (rounds.exponent_le rounded le) with below | same
  · have full := rounded.le_mantissa (rounded.full.resolve_right (by omega))
    split <;> split <;> omega
  · have mantissas := rounds.mantissa_le_of_exponent_eq rounded le same
    rw [same]
    split <;> split <;> omega

/-- The number nearest to a ratio that is not huge is finite. -/
theorem toBits_lt_infinityBits (rounds : value.Rounds ratio)
    (small : ratio < 2 ^ 52 * placeWeight 971) : value.toBits < infinityBits := by
  have bound := rounds.mantissa_le
  have place : value.exponent < 971 := by
    rcases rounds.full with full | least
    · have weights : placeWeight value.exponent < placeWeight 971 := by linarith
      exact (zpow_lt_zpow_iff_right₀ (by decide)).1 weights
    · omega
  rw [toBits_eq]
  simp only [infinityBits]
  split <;> omega

/-- A ratio that is not below one has all binary places. -/
theorem full_of_one_le (rounds : value.Rounds ratio) (large : 1 ≤ ratio) :
    2 ^ 52 * placeWeight value.exponent ≤ ratio := by
  refine rounds.full.resolve_right fun least => ?_
  have narrow := rounds.narrow
  rw [least] at narrow
  have tiny := placeWeight_le (show (-1074 : Int) ≤ -53 by decide)
  have unit : 2 ^ 53 * placeWeight (-53) = 1 := by norm_num [placeWeight]
  linarith

/-- A ratio that is at least one is not rounded to zero. -/
theorem toBits_pos (rounds : value.Rounds ratio) (large : 1 ≤ ratio) : 0 < value.toBits := by
  have full := rounds.le_mantissa (rounds.full_of_one_le large)
  rw [toBits_eq]
  simp only [infinityBits]
  split <;> omega

/-- Numbers that round one ratio are one floating-point number. -/
theorem toBits_eq_of (rounds : value.Rounds ratio) (rounded : other.Rounds ratio) :
    value.toBits = other.toBits :=
  Nat.le_antisymm (rounds.toBits_le rounded (le_refl _)) (rounded.toBits_le rounds (le_refl _))

/-- A whole number with at most 53 binary digits is rounded to itself. -/
theorem exact_of_lt {n : Nat} (rounds : value.Rounds n) (large : 1 ≤ n) (small : n < 2 ^ 53) :
    value.exponent ≤ 0 ∧ value.mantissa * placeWeight value.exponent = n := by
  have full := rounds.full_of_one_le (by exact_mod_cast large)
  have bound : (n : ℚ) < 2 ^ 53 := by exact_mod_cast small
  have place : value.exponent ≤ 0 := by
    have weights : placeWeight value.exponent < placeWeight 1 := by
      rw [show placeWeight 1 = 2 by norm_num [placeWeight]]
      linarith
    exact Int.lt_add_one_iff.1 ((zpow_lt_zpow_iff_right₀ (by decide)).1 weights)
  refine ⟨place, ?_⟩
  obtain ⟨steps, down⟩ := Int.exists_eq_neg_ofNat place
  have weight : placeWeight value.exponent = 1 / 2 ^ steps := by
    rw [down, placeWeight, zpow_neg, zpow_natCast, one_div]
  have positive : (0 : ℚ) < 2 ^ steps := by positivity
  have low := rounds.low
  have high := rounds.high
  rw [weight] at *
  field_simp at low high ⊢
  have low : 2 * (value.mantissa : Int) - 1 ≤ 2 * (2 ^ steps * n) := by
    rw [← Int.cast_le (R := ℚ)]
    push_cast
    linarith
  have high : 2 * (2 ^ steps * (n : Int)) ≤ 2 * value.mantissa + 1 := by
    rw [← Int.cast_le (R := ℚ)]
    push_cast
    linarith
  have exact : (value.mantissa : Int) = 2 ^ steps * n := by omega
  exact_mod_cast exact

/-- No larger number is rounded to a whole number with at most 53 binary digits. -/
theorem toBits_lt {n k : Nat} (rounds : value.Rounds n) (rounded : other.Rounds k) (large : 1 ≤ n)
    (small : n < 2 ^ 53) (less : n < k) : value.toBits < other.toBits := by
  obtain ⟨place, exact⟩ := rounds.exact_of_lt large small
  have le : (n : ℚ) ≤ k := by exact_mod_cast Nat.le_of_lt less
  have least := rounds.least
  have weight := placeWeight_pos value.exponent
  have filled := rounds.le_mantissa (rounds.full_of_one_le (by exact_mod_cast large))
  have narrow : value.mantissa < 2 ^ 53 := by
    have narrow := rounds.narrow
    rw [← exact, mul_lt_mul_iff_left₀ weight] at narrow
    exact_mod_cast narrow
  rw [toBits_eq, toBits_eq]
  simp only [infinityBits]
  rcases Int.lt_or_eq_of_le (rounds.exponent_le rounded le) with below | same
  · have full := rounded.le_mantissa (rounded.full.resolve_right (by omega))
    rw [if_neg (by omega), if_neg (by omega)]
    omega
  · have unit : placeWeight value.exponent ≤ 1 := by
      simpa [placeWeight] using placeWeight_le place
    have high := rounded.high
    rw [← same] at high ⊢
    have next : ((n + 1 : Nat) : ℚ) ≤ k := by exact_mod_cast less
    push_cast at next
    have mantissas : value.mantissa < other.mantissa := by
      have : ((2 * value.mantissa + 2 : Nat) : ℚ) ≤ (2 * other.mantissa + 1 : Nat) := by
        push_cast
        refine le_of_mul_le_mul_right ?_ weight
        linarith
      have : 2 * value.mantissa + 2 ≤ 2 * other.mantissa + 1 := by exact_mod_cast this
      omega
    rw [if_neg (by omega), if_neg (by omega)]
    omega

end Rounds

/-- A number that a floating-point number holds rounds itself. -/
theorem Regular.rounds {value : Binary} (regular : value.Regular) : value.Rounds value.ratio := by
  have weight := placeWeight_pos value.exponent
  refine ⟨regular.least, regular.full.imp_left fun full => ?_, ?_, ?_, ?_, ?_⟩ <;> rw [ratio]
  · exact mul_le_mul_of_nonneg_right (by exact_mod_cast full) (le_of_lt weight)
  · exact mul_lt_mul_of_pos_right (by exact_mod_cast regular.narrow) weight
  · linarith
  · linarith
  · rintro (same | same) <;> linarith

end Binary

namespace Decimal

/-- Rounding errs by half the divisor at most, and by just the half only towards an even number. -/
theorem roundDiv_error (dividend : Nat) {divisor : Nat} (positive : 0 < divisor) :
    ∃ error : Int, dividend = roundDiv dividend divisor * divisor + error ∧
      -divisor ≤ 2 * error ∧ 2 * error ≤ divisor ∧
      (2 * error = -divisor ∨ 2 * error = divisor → roundDiv dividend divisor % 2 = 0) := by
  have parts : (dividend / divisor * divisor + dividend % divisor : Int) = dividend := by
    exact_mod_cast Nat.div_add_mod' dividend divisor
  have rest := Nat.mod_lt dividend positive
  rw [roundDiv]
  split
  · next up =>
    refine ⟨dividend % divisor - divisor, ?_, by omega, by omega, by omega⟩
    push_cast
    linarith
  · next down =>
    refine ⟨dividend % divisor, ?_, by omega, by omega, by omega⟩
    push_cast
    linarith

/-- Scaling by a power of two multiplies the divisor, or the dividend if the power is negative. -/
theorem scaleDown_eq (dividend divisor : Nat) (power : Int) : scaleDown dividend divisor power =
    if 0 ≤ power then (dividend, divisor * 2 ^ power.toNat)
    else (dividend * 2 ^ (-power).toNat, divisor) := by
  simp only [scaleDown, Nat.shiftLeft_eq, ge_iff_le]

theorem scaleDown_pos (dividend : Nat) {divisor : Nat} (positive : 0 < divisor) (power : Int) :
    0 < (scaleDown dividend divisor power).2 := by
  rw [scaleDown_eq]
  split
  · exact Nat.mul_pos positive (Nat.two_pow_pos _)
  · exact positive

/-- Scaling down divides the quotient by the weight of the place. -/
theorem scaleDown_ratio (dividend : Nat) {divisor : Nat} (positive : 0 < divisor) (power : Int) :
    ((scaleDown dividend divisor power).1 : ℚ) =
      dividend / divisor / placeWeight power * (scaleDown dividend divisor power).2 := by
  have inhabited : (divisor : ℚ) ≠ 0 := by exact_mod_cast Nat.ne_of_gt positive
  rw [scaleDown_eq, placeWeight]
  split
  · next upward =>
    obtain ⟨steps, rfl⟩ := Int.eq_ofNat_of_zero_le upward
    simp only [Int.toNat_natCast, Nat.cast_mul, Nat.cast_pow, Nat.cast_ofNat, zpow_natCast]
    field_simp
  · next downward =>
    obtain ⟨steps, rfl⟩ := Int.exists_eq_neg_ofNat (Int.le_of_not_le downward)
    simp only [Int.neg_neg, Int.toNat_natCast, Nat.cast_mul, Nat.cast_pow, Nat.cast_ofNat,
      zpow_neg, zpow_natCast, div_inv_eq_mul]
    field_simp

/-- A quotient rounded at a place is nearest to it there. -/
theorem rounds_roundDiv (dividend : Nat) {divisor : Nat} (positive : 0 < divisor) {place : Int}
    (least : -1074 ≤ place)
    (full : 2 ^ 52 * placeWeight place ≤ (dividend / divisor : ℚ) ∨ place = -1074)
    (narrow : (dividend / divisor : ℚ) < 2 ^ 53 * placeWeight place) :
    Binary.Rounds ⟨roundDiv (scaleDown dividend divisor place).1
      (scaleDown dividend divisor place).2, place⟩ (dividend / divisor) := by
  have scaled := scaleDown_ratio dividend positive place
  have unit := scaleDown_pos dividend positive place
  obtain ⟨error, parts, low, high, even⟩ :=
    roundDiv_error (scaleDown dividend divisor place).1 unit
  have weight := placeWeight_pos place
  generalize (scaleDown dividend divisor place).1 = above,
    (scaleDown dividend divisor place).2 = below at *
  generalize roundDiv above below = mantissa at *
  generalize (dividend / divisor : ℚ) = quotient at *
  have unit : (0 : ℚ) < below := by exact_mod_cast unit
  have parts : (above : ℚ) = mantissa * below + error := by exact_mod_cast parts
  have low : -(below : ℚ) ≤ 2 * error := by exact_mod_cast low
  have high : 2 * error ≤ (below : ℚ) := by exact_mod_cast high
  have exact : 2 * quotient * below = (2 * mantissa * below + 2 * error) * placeWeight place := by
    rw [scaled] at parts
    field_simp at parts ⊢
    linarith
  refine ⟨least, full, narrow, ?_, ?_, ?_⟩
  · refine le_of_mul_le_mul_right ?_ unit
    rw [exact]
    nlinarith
  · refine le_of_mul_le_mul_right ?_ unit
    rw [exact]
    nlinarith
  · intro half
    refine even (half.imp (fun left => ?_) fun right => ?_)
    · rw [left] at exact
      have : (2 * error : ℚ) = -below := by
        refine mul_right_cancel₀ (ne_of_gt weight) ?_
        linarith
      exact_mod_cast this
    · rw [right] at exact
      have : (2 * error : ℚ) = below := by
        refine mul_right_cancel₀ (ne_of_gt weight) ?_
        linarith
      exact_mod_cast this

/-- The first binary place of a natural. -/
theorem log2_bounds {n : Nat} (inhabited : 0 < n) :
    (2 ^ n.log2 : ℚ) ≤ n ∧ (n : ℚ) < 2 * 2 ^ n.log2 := by
  rw [← pow_succ']
  exact ⟨by exact_mod_cast Nat.log2_self_le (Nat.ne_of_gt inhabited),
    by exact_mod_cast Nat.lt_log2_self⟩

/-- At the place that is tried first a quotient has 52 or 53 binary places. -/
theorem quotient_bounds {dividend divisor : Nat} (inhabited : 0 < dividend)
    (positive : 0 < divisor) :
    2 ^ 51 * placeWeight ((dividend.log2 : Int) - divisor.log2 - 52) < (dividend / divisor : ℚ) ∧
      (dividend / divisor : ℚ) <
        2 ^ 53 * placeWeight ((dividend.log2 : Int) - divisor.log2 - 52) := by
  obtain ⟨low, high⟩ := log2_bounds inhabited
  obtain ⟨least, most⟩ := log2_bounds positive
  have weight : placeWeight ((dividend.log2 : Int) - divisor.log2 - 52) * 2 ^ 52 *
      2 ^ divisor.log2 = 2 ^ dividend.log2 := by
    rw [placeWeight, ← zpow_natCast, ← zpow_natCast, ← zpow_natCast, ← zpow_add₀ (by decide),
      ← zpow_add₀ (by decide)]
    congr 1
    omega
  have unit : (0 : ℚ) < divisor := by exact_mod_cast positive
  have place := placeWeight_pos ((dividend.log2 : Int) - divisor.log2 - 52)
  generalize placeWeight ((dividend.log2 : Int) - divisor.log2 - 52) = factor at *
  rw [lt_div_iff₀ unit, div_lt_iff₀ unit]
  constructor
  · calc 2 ^ 51 * factor * divisor < 2 ^ 51 * factor * (2 * 2 ^ divisor.log2) :=
          mul_lt_mul_of_pos_left most (by positivity)
      _ = factor * 2 ^ 52 * 2 ^ divisor.log2 := by ring
      _ ≤ dividend := by rwa [weight]
  · calc (dividend : ℚ) < 2 * 2 ^ dividend.log2 := high
      _ = 2 ^ 53 * factor * 2 ^ divisor.log2 := by rw [← weight]; ring
      _ ≤ 2 ^ 53 * factor * divisor := mul_le_mul_of_nonneg_left least (by positivity)

/-- The last place is the one at which a quotient has 53 binary places, or the least one. -/
theorem lastPlace_spec {dividend divisor : Nat} (inhabited : 0 < dividend)
    (positive : 0 < divisor) :
    -1074 ≤ lastPlace dividend divisor ∧
      (2 ^ 52 * placeWeight (lastPlace dividend divisor) ≤ (dividend / divisor : ℚ) ∨
        lastPlace dividend divisor = -1074) ∧
      (dividend / divisor : ℚ) < 2 ^ 53 * placeWeight (lastPlace dividend divisor) := by
  obtain ⟨low, high⟩ := quotient_bounds inhabited positive
  have scaled := scaleDown_ratio dividend positive ((dividend.log2 : Int) - divisor.log2 - 52)
  have unit := scaleDown_pos dividend positive ((dividend.log2 : Int) - divisor.log2 - 52)
  simp only [lastPlace]
  generalize (dividend.log2 : Int) - divisor.log2 - 52 = guess at *
  generalize (scaleDown dividend divisor guess).1 = above,
    (scaleDown dividend divisor guess).2 = below at *
  generalize (dividend / divisor : ℚ) = quotient at *
  have weight := placeWeight_pos guess
  have unit : (0 : ℚ) < below := by exact_mod_cast unit
  have tooFew : above < below <<< 52 ↔ quotient < 2 ^ 52 * placeWeight guess := by
    rw [Nat.shiftLeft_eq, ← Nat.cast_lt (α := ℚ), scaled]
    rw [Nat.cast_mul, Nat.cast_pow, Nat.cast_ofNat, div_mul_eq_mul_div, div_lt_iff₀ weight,
      mul_comm quotient, mul_assoc, mul_lt_mul_iff_right₀ unit]
  -- the place with 53 binary places
  obtain ⟨full, narrow⟩ : 2 ^ 52 * placeWeight (if above < below <<< 52 then guess - 1 else guess) ≤
      quotient ∧
      quotient < 2 ^ 53 * placeWeight (if above < below <<< 52 then guess - 1 else guess) := by
    split
    · next few =>
      have half := placeWeight_succ (guess - 1)
      rw [Int.sub_add_cancel] at half
      have few := tooFew.1 few
      constructor <;> linarith
    · next enough => exact ⟨le_of_not_gt fun less => enough (tooFew.2 less), high⟩
  generalize (if above < below <<< 52 then guess - 1 else guess) = place at *
  refine ⟨by omega, ?_, ?_⟩
  · rcases Int.le_total place (-1074) with small | large
    · exact .inr (by omega)
    · exact .inl (by rwa [max_eq_left large])
  · exact lt_of_lt_of_le narrow
      (mul_le_mul_of_nonneg_left (placeWeight_le (le_max_left _ _)) (by norm_num))

/-- The binary number taken as nearest to a quotient is nearest to it. -/
theorem rounds_nearestBinary {dividend divisor : Nat} (inhabited : 0 < dividend)
    (positive : 0 < divisor) :
    (nearestBinary dividend divisor).Rounds (dividend / divisor) := by
  obtain ⟨least, full, narrow⟩ := lastPlace_spec inhabited positive
  have rounds := rounds_roundDiv dividend positive least full narrow
  simpa only [nearestBinary] using rounds

end Decimal

end Scrutiny
