import Scrutiny.Proofs.Decimal.Nearest

/-! # Whole numbers as floating-point numbers

The rounding of the floating-point operations drops the last places of a mantissa one by one and
keeps what was dropped in two bits, the last one and whether there was any other
(`Binary.Approximates`). What it gives rounds the number it was given (`Binary.round_spec`). So the
floating-point number of a natural is the one nearest to it (`Decimal.denotes_ofNat`), the one that
is read from its digits, and whole numbers are ordered as their floating-point numbers are unless
these are the same (`Decimal.ofInt_le_iff`).
-/

namespace Scrutiny

open Float.Model (Format UnpackedFloat totalExponent)
open Float.Model.UnpackedFloat (Sign pack Accuracy ExtendedMantissa shiftToExponent
  shiftToTargetExponent roundWithAccuracy)

namespace Binary

/-- A mantissa with its two bits stands for a ratio. -/
structure Approximates (extended : ExtendedMantissa) (ratio : ℚ) : Prop where
  low : extended.mantissa ≤ ratio
  high : ratio < extended.mantissa + 1
  half : extended.roundBit = true ↔ (extended.mantissa + 1 / 2 : ℚ) ≤ ratio
  rest : extended.stickyBit = true ↔
    ratio ≠ extended.mantissa ∧ ratio ≠ (extended.mantissa + 1 / 2 : ℚ)

namespace Approximates

variable {extended : ExtendedMantissa} {ratio : ℚ}

theorem exact (mantissa : Nat) :
    Approximates (.ofMantissaAndAccuracy mantissa .exact) mantissa :=
  ⟨le_refl _, lt_add_one _, by simp [ExtendedMantissa.ofMantissaAndAccuracy],
    by simp [ExtendedMantissa.ofMantissaAndAccuracy]⟩

/-- Whatever was dropped before a place is a rest of what is dropped with it. -/
theorem or_iff (approximates : Approximates extended ratio) :
    (extended.roundBit || extended.stickyBit) = true ↔ ratio ≠ extended.mantissa := by
  rw [Bool.or_eq_true, approximates.half, approximates.rest]
  constructor
  · rintro (half | ⟨rest, _⟩)
    · linarith
    · exact rest
  · intro rest
    rcases le_or_gt (extended.mantissa + 1 / 2 : ℚ) ratio with half | less
    · exact .inl half
    · exact .inr ⟨rest, ne_of_lt less⟩

/-- Dropping a place halves the ratio. -/
theorem shiftRightOne (approximates : Approximates extended ratio) :
    Approximates extended.shiftRightOne (ratio / 2) := by
  have dropped := approximates.or_iff
  obtain ⟨low, high, -, -⟩ := approximates
  obtain ⟨mantissa, round, sticky⟩ := extended
  simp only at low high dropped
  rcases Nat.even_or_odd' mantissa with ⟨kept, rfl | rfl⟩
  · have half : 2 * kept / 2 = kept := by omega
    push_cast at low high dropped
    refine ⟨?_, ?_, ?_, ?_⟩ <;> simp only [ExtendedMantissa.shiftRightOne, half]
    · linarith
    · linarith
    · simp
      linarith
    · rw [dropped]
      have below : ratio / 2 ≠ kept + 1 / 2 := ne_of_lt (by linarith)
      exact ⟨fun apart => ⟨fun same => apart (by linarith), below⟩,
        fun apart same => apart.1 (by linarith)⟩
  · have half : (2 * kept + 1) / 2 = kept := by omega
    push_cast at low high dropped
    refine ⟨?_, ?_, ?_, ?_⟩ <;> simp only [ExtendedMantissa.shiftRightOne, half]
    · linarith
    · linarith
    · simp
      linarith
    · rw [dropped]
      have above : ratio / 2 ≠ kept := ne_of_gt (by linarith)
      exact ⟨fun apart => ⟨above, fun same => apart (by linarith)⟩,
        fun apart same => apart.2 (by linarith)⟩

/-- Dropping places approximates what is divided by as many powers of two. -/
theorem shiftRight (approximates : Approximates extended ratio) (steps : Nat) :
    Approximates (extended >>> steps) (ratio / 2 ^ steps) := by
  induction steps with
  | zero =>
    rw [pow_zero, div_one]
    exact approximates
  | succ steps ih =>
    have next := ih.shiftRightOne
    rw [div_div, ← pow_succ] at next
    exact next

/-- Rounding a mantissa by its two bits takes a nearest whole number, the even one of two. -/
theorem roundedMantissa (approximates : Approximates extended ratio) :
    (2 * extended.roundedMantissa - 1 : ℚ) ≤ 2 * ratio ∧
      2 * ratio ≤ 2 * extended.roundedMantissa + 1 ∧
      (2 * ratio = 2 * extended.roundedMantissa - 1 ∨
        2 * ratio = 2 * extended.roundedMantissa + 1 → extended.roundedMantissa % 2 = 0) := by
  obtain ⟨low, high, half, rest⟩ := approximates
  obtain ⟨mantissa, round, sticky⟩ := extended
  simp only at low high half rest
  simp only [ExtendedMantissa.roundedMantissa, ExtendedMantissa.accuracy]
  cases round with
  | false =>
    have below : ratio < mantissa + 1 / 2 := lt_of_not_ge fun above => by simpa using half.2 above
    cases sticky <;> simp only [Accuracy.roundToNearestEven] <;>
      refine ⟨by linarith, by linarith, ?_⟩ <;> rintro (same | same) <;> linarith
  | true =>
    have above : (mantissa + 1 / 2 : ℚ) ≤ ratio := half.1 rfl
    cases sticky with
    | false =>
      have middle : ratio = mantissa + 1 / 2 := by
        by_contra apart
        simpa using rest.2 ⟨ne_of_gt (by linarith), apart⟩
      simp only [Accuracy.roundToNearestEven, middle]
      rcases Nat.mod_two_eq_zero_or_one mantissa with even | odd
      · rw [even]
        exact ⟨by push_cast; linarith, by push_cast; linarith, fun _ => even⟩
      · rw [odd]
        exact ⟨by push_cast; linarith, by push_cast; linarith, fun _ => by omega⟩
    | true =>
      have apart : (mantissa + 1 / 2 : ℚ) < ratio := lt_of_le_of_ne above (rest.1 rfl).2.symm
      simp only [Accuracy.roundToNearestEven]
      push_cast
      refine ⟨by linarith, by linarith, ?_⟩
      rintro (same | same) <;> linarith

end Approximates

/-- The exponent that a result is rounded to keeps 53 places, or as many as there are above the
least. -/
theorem target_eq (mantissa : Nat) (exponent : Int) :
    Format.binary64.targetExponent (totalExponent mantissa exponent) =
      max (mantissa.log2 + exponent - 52) (-1074) := by
  rw [Format.targetExponent, totalExponent,
    show Format.binary64.minExponent = -1074 from rfl,
    show Format.binary64.mantissaBits = 53 from rfl]
  congr 1
  omega

/-- Shifting to an exponent that is not below gives a mantissa for that exponent. -/
theorem shiftToTarget_of_le (mantissa : Nat) (exponent : Int) (accuracy : Accuracy)
    {target : Int} (aim : Format.binary64.targetExponent (totalExponent mantissa exponent) = target)
    (le : exponent ≤ target) :
    shiftToTargetExponent .binary64 mantissa exponent accuracy =
      (ExtendedMantissa.ofMantissaAndAccuracy mantissa accuracy >>> (target - exponent).toNat,
        target) := by
  simp only [shiftToTargetExponent, aim, shiftToExponent, Prod.mk.injEq, true_and]
  omega

/-- A mantissa that has all its bits is shifted no more. -/
theorem shiftToTarget_of_ge (mantissa : Nat) (exponent : Int) (accuracy : Accuracy)
    (ge : Format.binary64.targetExponent (totalExponent mantissa exponent) ≤ exponent) :
    shiftToTargetExponent .binary64 mantissa exponent accuracy =
      (.ofMantissaAndAccuracy mantissa accuracy, exponent) := by
  simp only [shiftToTargetExponent, shiftToExponent, Int.toNat_of_nonpos (Int.sub_nonpos_of_le ge)]
  simp only [Int.natCast_zero, Int.add_zero]
  rfl

/-- Rounding ends in a second shift, of the mantissa that the first one gave. -/
theorem roundWithAccuracy_eq (sign : Sign) (mantissa : Nat) (exponent : Int) (accuracy : Accuracy) :
    roundWithAccuracy .binary64 sign mantissa exponent accuracy =
      let first := shiftToTargetExponent .binary64 mantissa exponent accuracy
      let second := shiftToTargetExponent .binary64 first.1.roundedMantissa first.2 .exact
      signed sign ⟨second.1.mantissa, second.2⟩ := by
  simp only [roundWithAccuracy, signed]
  split
  · next none => rw [dif_neg (by omega)]
  · next some => rw [dif_pos (Nat.pos_of_ne_zero some)]

/-- The second shift halves a mantissa that the rounding carried over all its bits, which makes no
difference for the bit pattern. -/
theorem pack_second_shift (sign : Sign) {mantissa : Nat} {exponent : Int}
    (least : -1074 ≤ exponent) (narrow : mantissa ≤ 2 ^ 53)
    (full : 2 ^ 52 ≤ mantissa ∨ exponent = -1074) :
    pack .binary64 (signed sign
      ⟨(shiftToTargetExponent .binary64 mantissa exponent .exact).1.mantissa,
        (shiftToTargetExponent .binary64 mantissa exponent .exact).2⟩) =
      word sign (toBits ⟨mantissa, exponent⟩) := by
  have aim := target_eq mantissa exponent
  rcases Nat.lt_or_eq_of_le narrow with below | carried
  · have log : mantissa.log2 < 53 := by
      by_cases zero : mantissa = 0
      · rw [zero]
        decide
      · exact (Nat.log2_lt zero).2 below
    rw [shiftToTarget_of_ge _ _ _ (by omega)]
    exact pack_signed sign ⟨least, below, full⟩
  · have log : mantissa.log2 = 53 := by
      rw [carried]
      decide
    have next :
        Format.binary64.targetExponent (totalExponent mantissa exponent) = exponent + 1 := by
      omega
    rw [shiftToTarget_of_le mantissa exponent .exact next (by omega),
      show (exponent + 1 - exponent).toNat = 1 by omega, carried]
    have regular : Regular ⟨2 ^ 52, exponent + 1⟩ :=
      ⟨by simp only [leastExponent]; omega, by norm_num, .inl (le_refl _)⟩
    refine (pack_signed sign regular).trans (congrArg (word sign) ?_)
    rw [toBits_eq, toBits_eq]
    simp only [infinityBits]
    split <;> split <;> omega

/-- The place at which a number has 53 binary places. -/
theorem leading_place {mantissa : Nat} (inhabited : 0 < mantissa) (exponent : Int) :
    2 ^ 52 * placeWeight (mantissa.log2 + exponent - 52) ≤ mantissa * placeWeight exponent ∧
      mantissa * placeWeight exponent < 2 ^ 53 * placeWeight (mantissa.log2 + exponent - 52) := by
  obtain ⟨low, high⟩ := Decimal.log2_bounds inhabited
  have weight : 2 ^ 52 * placeWeight (mantissa.log2 + exponent - 52) =
      2 ^ mantissa.log2 * placeWeight exponent := by
    rw [placeWeight, placeWeight, ← zpow_natCast, ← zpow_natCast, ← zpow_add₀ (by decide),
      ← zpow_add₀ (by decide)]
    congr 1
    omega
  have positive := placeWeight_pos exponent
  constructor
  · rw [weight]
    exact mul_le_mul_of_nonneg_right low (le_of_lt positive)
  · calc (mantissa : ℚ) * placeWeight exponent < 2 * 2 ^ mantissa.log2 * placeWeight exponent :=
          mul_lt_mul_of_pos_right high positive
      _ = 2 * (2 ^ 52 * placeWeight (mantissa.log2 + exponent - 52)) := by rw [weight, mul_assoc]
      _ = 2 ^ 53 * placeWeight (mantissa.log2 + exponent - 52) := by ring

/-- What the floating-point operations round to is nearest to what they round. -/
theorem round_spec (sign : Sign) {mantissa : Nat} (inhabited : 0 < mantissa) {exponent : Int}
    (fine : exponent ≤ max (mantissa.log2 + exponent - 52) (-1074)) :
    ∃ value : Binary, value.Rounds (mantissa * placeWeight exponent) ∧
      pack .binary64
        (roundWithAccuracy .binary64 sign mantissa exponent .exact) = word sign value.toBits := by
  have aim := target_eq mantissa exponent
  generalize target_def : max (mantissa.log2 + exponent - 52) (-1074) = target at *
  have approximates := (Approximates.exact mantissa).shiftRight (target - exponent).toNat
  rw [roundWithAccuracy_eq, shiftToTarget_of_le mantissa exponent .exact aim fine]
  dsimp only
  generalize ExtendedMantissa.ofMantissaAndAccuracy mantissa .exact >>>
    (target - exponent).toNat = shifted at *
  have weight : placeWeight target = 2 ^ (target - exponent).toNat * placeWeight exponent := by
    rw [placeWeight, placeWeight, ← zpow_natCast, ← zpow_add₀ (by decide)]
    congr 1
    omega
  have positive := placeWeight_pos target
  have scaled : mantissa * placeWeight exponent =
      (mantissa / 2 ^ (target - exponent).toNat : ℚ) * placeWeight target := by
    rw [weight]
    field_simp
  obtain ⟨low, high, even⟩ := approximates.roundedMantissa
  have rounds : Rounds ⟨shifted.roundedMantissa, target⟩ (mantissa * placeWeight exponent) := by
    obtain ⟨filled, narrow⟩ := leading_place inhabited exponent
    refine ⟨?_, ?_, ?_, ?_, ?_, ?_⟩ <;> dsimp only
    · omega
    · rcases Int.le_total (-1074) (mantissa.log2 + exponent - 52) with normal | tiny
      · exact .inl (by rwa [← target_def, max_eq_left normal])
      · exact .inr (by omega)
    · refine lt_of_lt_of_le narrow (mul_le_mul_of_nonneg_left (placeWeight_le ?_) (by norm_num))
      omega
    · rw [scaled, ← mul_assoc]
      exact mul_le_mul_of_nonneg_right low (le_of_lt positive)
    · rw [scaled, ← mul_assoc]
      exact mul_le_mul_of_nonneg_right high (le_of_lt positive)
    · rw [scaled, ← mul_assoc]
      exact fun half => even (half.imp (mul_right_cancel₀ (ne_of_gt positive))
        (mul_right_cancel₀ (ne_of_gt positive)))
  have full := rounds.full.imp_left rounds.le_mantissa
  exact ⟨_, rounds, pack_second_shift sign rounds.least rounds.mantissa_le full⟩

/-- Rounding what is a natural gives the number nearest to the natural. -/
theorem pack_round_of_eq (sign : Sign) {n mantissa : Nat} (inhabited : 0 < n) {exponent : Int}
    (whole : mantissa * placeWeight exponent = n)
    (fine : exponent ≤ max (mantissa.log2 + exponent - 52) (-1074)) :
    pack .binary64 (roundWithAccuracy .binary64 sign mantissa exponent .exact) =
      word sign (Decimal.nearestBinary n 1).toBits := by
  have some : 0 < mantissa := by
    refine Nat.pos_of_ne_zero fun none => ?_
    rw [none, Nat.cast_zero, zero_mul] at whole
    exact Nat.ne_of_lt inhabited (by exact_mod_cast whole)
  obtain ⟨value, rounds, packed⟩ := round_spec sign some fine
  have nearest := Decimal.rounds_nearestBinary inhabited Nat.one_pos
  rw [Nat.cast_one, div_one] at nearest
  rw [whole] at rounds
  rw [packed, rounds.toBits_eq_of nearest]

/-- Places added at the end make a number longer by as many. -/
theorem log2_shiftLeft {n : Nat} (inhabited : n ≠ 0) (steps : Nat) :
    (n <<< steps).log2 = n.log2 + steps := by
  rw [Nat.shiftLeft_eq, Nat.log2_eq_iff (Nat.mul_ne_zero inhabited (Nat.two_pow_pos _).ne')]
  refine ⟨?_, ?_⟩
  · rw [Nat.pow_add]
    exact Nat.mul_le_mul_right _ (Nat.log2_self_le inhabited)
  · rw [Nat.add_right_comm, Nat.pow_add]
    exact Nat.mul_lt_mul_of_pos_right Nat.lt_log2_self (Nat.two_pow_pos _)

/-- Places added at the end of a mantissa are taken from its exponent. -/
theorem shiftLeft_ratio (n steps : Nat) (exponent : Int) :
    ((n <<< steps : Nat) : ℚ) * placeWeight (exponent - steps) = n * placeWeight exponent := by
  rw [Nat.shiftLeft_eq, placeWeight, placeWeight, zpow_sub₀ (by decide), zpow_natCast]
  push_cast
  field_simp

/-- Rounding a whole number with a sign gives its nearest magnitude. -/
theorem pack_round_whole (sign : Sign) {n : Nat} (inhabited : 0 < n) :
    pack .binary64 (Float.Model.UnpackedFloat.round .binary64 sign n 0) =
      word sign (Decimal.nearestBinary n 1).toBits := by
  simp only [Float.Model.UnpackedFloat.round, Float.Model.UnpackedFloat.decreaseExponent, target_eq]
  refine pack_round_of_eq sign inhabited ?_ ?_
  · rw [shiftLeft_ratio, placeWeight, zpow_zero, mul_one]
  · rw [log2_shiftLeft (Nat.ne_of_gt inhabited)]
    omega

/-- Multiplying by one changes nothing. -/
theorem Denotes.mul_one {value : Float} {bits : Nat} (denotes : Denotes value .positive bits)
    (inhabited : 0 < bits) (finite : bits < infinityBits) :
    Denotes (value * Float.ofBits 0x3FF0000000000000) .positive bits := by
  have one : (Float.ofBits 0x3FF0000000000000).toModel.unpack =
      .finite .positive (2 ^ 52) (-52) (by decide) := by rfl
  rcases unpacked_cases .positive denotes.bound with
    ⟨infinite, _⟩ | ⟨zero, _⟩ | ⟨_, _, held, positive⟩
  · omega
  · omega
  have regular := regular_ofBits bits
  have shifted := shiftLeft_ratio (ofBits bits).mantissa 52 (ofBits bits).exponent
  have log := log2_shiftLeft (Nat.ne_of_gt held) 52
  have fine : (ofBits bits).exponent - (52 : Nat) ≤
      max (((ofBits bits).mantissa <<< 52).log2 + ((ofBits bits).exponent - (52 : Nat)) - 52)
        (-1074) := by
    have full := regular.full.imp_left (Nat.le_log2 (Nat.ne_of_gt held)).2
    simp only [leastExponent] at full
    omega
  obtain ⟨rounded, rounds, packed⟩ :=
    round_spec .positive (Nat.lt_of_lt_of_le held Nat.le_shiftLeft) fine
  rw [shifted] at rounds
  rw [rounds.toBits_eq_of regular.rounds, toBits_ofBits denotes.bound] at packed
  refine of_pack denotes.bound ?_
  rw [denotes.unpack, one, positive, ← packed, Nat.shiftLeft_eq]
  rfl

end Binary

namespace Decimal

open Binary (Denotes infinityBits)

/-- The bit pattern of the number nearest to a natural. -/
def wholeBits (n : Nat) : Nat := (nearestBinary n 1).toBits

theorem rounds_whole {n : Nat} (inhabited : 0 < n) : (nearestBinary n 1).Rounds n := by
  simpa using rounds_nearestBinary inhabited Nat.one_pos

theorem wholeBits_zero : wholeBits 0 = 0 := by decide

/-- A number that is not zero has a bit pattern that is not zero. -/
theorem wholeBits_pos {n : Nat} (inhabited : 0 < n) : 0 < wholeBits n :=
  (rounds_whole inhabited).toBits_pos (by exact_mod_cast inhabited)

theorem wholeBits_lt_infinityBits {n : Nat} (small : n ≤ 2 ^ 64) : wholeBits n < infinityBits := by
  rcases Nat.eq_zero_or_pos n with rfl | inhabited
  · rw [wholeBits_zero]
    decide
  · refine (rounds_whole inhabited).toBits_lt_infinityBits ?_
    have small : (n : ℚ) ≤ 2 ^ 64 := by exact_mod_cast small
    have weight := placeWeight_le (show (13 : Int) ≤ 971 by decide)
    have large : placeWeight 13 = 2 ^ 13 := rfl
    rw [large] at weight
    linarith

/-- A number of 64 bits is converted to the nearest one. -/
theorem denotes_toFloat_toUInt64 {n : Nat} (inhabited : 0 < n) (small : n < 2 ^ 64) :
    Denotes n.toUInt64.toFloat .positive (wholeBits n) := by
  have same : n.toUInt64.toNat = n := Nat.mod_eq_of_lt small
  have compared : compare ((n.toUInt64.toNat : Nat) : Int) 0 = .gt := by
    rw [same, Int.compare_eq_gt]
    omega
  refine Denotes.of_pack (Binary.toBits_le _) ?_
  rw [Float.Model.UnpackedFloat.ofUInt64, Float.Model.UnpackedFloat.ofNat,
    Float.Model.UnpackedFloat.ofInt, Float.Model.UnpackedFloat.normalize, compared]
  dsimp only
  rw [Int.toNat_natCast, same]
  exact Binary.pack_round_whole .positive inhabited

/-- A number in scientific notation without an exponent is converted to the nearest one. -/
theorem denotes_ofScientific {n : Nat} (inhabited : 0 < n) :
    Denotes (Float.ofModel (.ofScientific n 0)) .positive (wholeBits n) := by
  refine Denotes.of_pack (Binary.toBits_le _) ?_
  rw [Float.Model.UnpackedFloat.ofScientific, dif_neg (Nat.ne_of_gt inhabited),
    if_neg (by simp), if_neg (by simp), if_pos (Int.le_refl 0)]
  change pack .binary64
    (roundWithAccuracy .binary64 .positive (n <<< 53 * 1) (0 - (53 : Nat)) .exact) = _
  rw [Nat.mul_one]
  refine Binary.pack_round_of_eq .positive inhabited ?_ ?_
  · rw [Binary.shiftLeft_ratio, placeWeight, zpow_zero, mul_one]
  · rw [Binary.log2_shiftLeft (Nat.ne_of_gt inhabited)]
    omega

/-- The floating-point number of a natural is the one nearest to it. -/
theorem denotes_ofNat (n : Nat) : Denotes (Float.ofNat n) .positive (wholeBits n) := by
  rcases Nat.eq_zero_or_pos n with rfl | inhabited
  · exact ⟨by decide, by decide⟩
  -- A number that fits the mantissa is converted as a word and multiplied by a power of ten, which
  -- is one here.
  by_cases small : n < 2 ^ 53
  · have fast : Float.ofNat n = n.toUInt64.toFloat * Float.ofBits 0x3FF0000000000000 :=
      dif_pos ⟨small, by decide⟩
    rw [fast]
    exact (denotes_toFloat_toUInt64 inhabited (by omega)).mul_one (wholeBits_pos inhabited)
      (wholeBits_lt_infinityBits (by omega))
  · have slow : Float.ofNat n = Float.ofModel (.ofScientific n 0) :=
      dif_neg fun both => small both.1
    rw [slow]
    exact denotes_ofScientific inhabited

theorem wholeBits_le {n k : Nat} (le : n ≤ k) : wholeBits n ≤ wholeBits k := by
  rcases Nat.eq_zero_or_pos n with rfl | inhabited
  · rw [wholeBits_zero]
    exact Nat.zero_le _
  · exact (rounds_whole inhabited).toBits_le (rounds_whole (Nat.lt_of_lt_of_le inhabited le))
      (by exact_mod_cast le)

/-- Below the first number that is not exact, a larger number has a larger bit pattern. -/
theorem wholeBits_lt {n k : Nat} (small : n < 2 ^ 53) (less : n < k) :
    wholeBits n < wholeBits k := by
  rcases Nat.eq_zero_or_pos n with rfl | inhabited
  · rw [wholeBits_zero]
    exact wholeBits_pos less
  · exact (rounds_whole inhabited).toBits_lt (rounds_whole (Nat.lt_trans inhabited less)) inhabited
      small less

/-- The order of whole numbers, with the sign and the bit pattern of the number nearest to each. -/
def signedBits (n : Int) : Int := if n < 0 then -wholeBits n.natAbs else wholeBits n.natAbs

/-- An integer is converted to the nearest number with its sign. -/
theorem denotes_ofInt (n : Int) :
    Denotes (Float.ofInt n) (if n < 0 then .negative else .positive) (wholeBits n.natAbs) := by
  cases n with
  | ofNat n => exact denotes_ofNat n
  | negSucc n =>
    rw [if_pos (Int.negSucc_lt_zero n)]
    exact (denotes_ofNat (n + 1)).neg

/-- The sign and the bit pattern of an integer make its signed bit pattern. -/
theorem apply_wholeBits (n : Int) :
    (if n < 0 then Sign.negative else Sign.positive).apply (wholeBits n.natAbs) =
      signedBits n := by
  rw [signedBits]
  split <;> rfl

/-- A larger integer has no smaller signed bit pattern. -/
theorem signedBits_le {n k : Int} (le : n ≤ k) : signedBits n ≤ signedBits k := by
  rw [signedBits, signedBits]
  split <;> split
  · have := wholeBits_le (show k.natAbs ≤ n.natAbs by omega)
    omega
  · omega
  · omega
  · have := wholeBits_le (show n.natAbs ≤ k.natAbs by omega)
    omega

/-- Whole numbers are told apart unless both have more than 53 binary digits. -/
theorem signedBits_lt {n k : Int} (small : n.natAbs < 2 ^ 53 ∨ k.natAbs < 2 ^ 53) (less : n < k) :
    signedBits n < signedBits k := by
  rw [signedBits, signedBits]
  split <;> split
  · have := wholeBits_lt (show k.natAbs < 2 ^ 53 by omega) (show k.natAbs < n.natAbs by omega)
    omega
  · have := wholeBits_pos (show 0 < n.natAbs by omega)
    omega
  · omega
  · have := wholeBits_lt (show n.natAbs < 2 ^ 53 by omega) (show n.natAbs < k.natAbs by omega)
    omega

/-- Integers are ordered, once converted, as their signed bit patterns. -/
theorem ofInt_le_iff_signedBits (n k : Int) :
    Float.ofInt n ≤ Float.ofInt k ↔ signedBits n ≤ signedBits k := by
  rw [(denotes_ofInt n).le_iff (denotes_ofInt k), apply_wholeBits, apply_wholeBits]

/-- Integers are converted to one number if they have one signed bit pattern. -/
theorem ofInt_eq_iff_signedBits (n k : Int) :
    Float.ofInt n = Float.ofInt k ↔ signedBits n = signedBits k := by
  constructor
  · intro same
    have upward := (ofInt_le_iff_signedBits k k).2 (Int.le_refl _)
    refine Int.le_antisymm ((ofInt_le_iff_signedBits n k).1 ?_) ((ofInt_le_iff_signedBits k n).1 ?_)
    · rwa [same]
    · rwa [same]
  · intro same
    have first := denotes_ofInt n
    have second := denotes_ofInt k
    rw [signedBits, signedBits] at same
    split at same <;> split at same
    · next negative below =>
      rw [if_pos negative, Int.ofNat_inj.1 (Int.neg_inj.1 same)] at first
      rw [if_pos below] at second
      exact first.unique second
    · have := wholeBits_pos (show 0 < n.natAbs by omega)
      omega
    · have := wholeBits_pos (show 0 < k.natAbs by omega)
      omega
    · next natural above =>
      rw [if_neg natural, Int.ofNat_inj.1 same] at first
      rw [if_neg above] at second
      exact first.unique second

/-- Whole numbers are ordered as floating-point numbers unless these are the same. -/
theorem ofInt_le_iff (n k : Int) :
    Float.ofInt n ≤ Float.ofInt k ↔ n ≤ k ∨ Float.ofInt n = Float.ofInt k := by
  rw [ofInt_le_iff_signedBits, ofInt_eq_iff_signedBits]
  constructor
  · intro le
    rcases Int.lt_or_eq_of_le le with less | same
    · exact .inl (Int.le_of_not_gt fun more =>
        Int.not_le_of_gt less (signedBits_le (Int.le_of_lt more)))
    · exact .inr same
  · rintro (le | same)
    · exact signedBits_le le
    · exact Int.le_of_eq same

/-- Different whole numbers with one floating-point number have more than 53 binary digits. -/
theorem large_of_ofInt_eq {n k : Int} (same : Float.ofInt n = Float.ofInt k) (apart : n ≠ k) :
    2 ^ 53 ≤ n.natAbs ∧ 2 ^ 53 ≤ k.natAbs := by
  rw [ofInt_eq_iff_signedBits] at same
  by_contra small
  rcases Int.lt_or_gt_of_ne apart with less | more
  · exact Int.ne_of_lt (signedBits_lt (by omega) less) same
  · exact Int.ne_of_lt (signedBits_lt (by omega) more) same.symm

end Decimal

end Scrutiny
