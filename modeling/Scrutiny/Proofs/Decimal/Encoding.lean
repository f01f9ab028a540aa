import Mathlib
import Scrutiny.Decimal.Shortest

/-! # Bit patterns of floating-point numbers

A floating-point number that is no NaN denotes a sign and the bit pattern of a magnitude
(`Binary.Denotes`), and by these two it is known. Reading the bit pattern as a binary number and
writing it again gives the bit pattern, and the other way round (`Binary.toBits_ofBits`,
`Binary.ofBits_toBits`). What the operations do is told on signs and bit patterns: negation changes
the sign, and numbers are ordered as their bit patterns with the signs (`Binary.Denotes.le_iff`).
-/

namespace Scrutiny

open Float.Model (Format UnpackedFloat)
open Float.Model.UnpackedFloat (Sign pack unpack pack_unpack packComponents unpackExponent
  unpackMantissa unpackSign unpackExponent_packComponents unpackMantissa_packComponents
  unpackSign_packComponents isNaNBits)

namespace Binary

/-- The bit pattern of the magnitude of infinity. -/
def infinityBits : Nat := 2047 * 2 ^ 52

/-- A binary number as a floating-point number has it: no more bits than are stored and one, and all
of them unless the exponent is the least. -/
structure Regular (value : Binary) : Prop where
  least : leastExponent ≤ value.exponent
  narrow : value.mantissa < 2 ^ 53
  full : 2 ^ 52 ≤ value.mantissa ∨ value.exponent = leastExponent

/-- The bit pattern of a magnitude has the exponent before the mantissa, and is infinite at most. -/
theorem toBits_eq (value : Binary) : value.toBits =
    if value.mantissa < 2 ^ 52 then value.mantissa
    else min ((value.exponent + 1074).toNat * 2 ^ 52 + value.mantissa) infinityBits := by
  simp only [toBits, storedBits, leastExponent, infinityBits, Nat.pow_eq, Int.sub_neg]

/-- No magnitude has a bit pattern above that of infinity. -/
theorem toBits_le (value : Binary) : value.toBits ≤ infinityBits := by
  rw [toBits_eq]
  split
  · simp only [infinityBits]
    omega
  · exact Nat.min_le_right _ _

/-- A bit pattern is read as a subnormal magnitude if its exponent is zero, and else as a normal
one. -/
theorem ofBits_eq (bits : Nat) : ofBits bits =
    if bits / 2 ^ 52 % 2048 = 0 then ⟨bits % 2 ^ 52, -1074⟩
    else ⟨2 ^ 52 + bits % 2 ^ 52, -1074 + ((bits / 2 ^ 52 % 2048 : Nat) - 1)⟩ := rfl

/-- What a bit pattern denotes is in the normal form of its exponent. -/
theorem regular_ofBits (bits : Nat) : (ofBits bits).Regular := by
  rw [ofBits_eq]
  split
  · exact ⟨Int.le_refl _, by dsimp only; omega, .inr rfl⟩
  · exact ⟨by simp only [leastExponent]; omega, by dsimp only; omega, .inl (by dsimp only; omega)⟩

theorem toBits_ofBits {bits : Nat} (small : bits ≤ infinityBits) : (ofBits bits).toBits = bits := by
  rw [toBits_eq, ofBits_eq]
  simp only [infinityBits] at *
  split <;> dsimp only <;> split <;> omega

theorem ofBits_toBits {value : Binary} (regular : value.Regular)
    (finite : value.toBits < infinityBits) : ofBits value.toBits = value := by
  obtain ⟨mantissa, exponent⟩ := value
  obtain ⟨least, narrow, full⟩ := regular
  rw [toBits_eq] at *
  simp only [infinityBits, leastExponent] at *
  by_cases low : mantissa < 2 ^ 52
  · rw [if_pos low, ofBits_eq, if_pos (by omega), mk.injEq]
    omega
  · rw [if_neg low] at *
    rw [ofBits_eq, if_neg (by omega), mk.injEq]
    omega

/-- The word of a sign and the bit pattern of a magnitude. -/
def word (sign : Sign) (bits : Nat) : BitVec 64 :=
  packComponents .binary64 sign (BitVec.ofNat 11 (bits / 2 ^ 52)) (BitVec.ofNat 52 bits)

/-- A word is its bit pattern with the sign in front. -/
theorem toNat_word (sign : Sign) {bits : Nat} (small : bits < 2 ^ 63) :
    (word sign bits).toNat = sign.toBitVec.toNat * 2 ^ 63 + bits := by
  rw [word, packComponents, BitVec.toNat_append, BitVec.toNat_append,
    ← Nat.shiftLeft_add_eq_or_of_lt (BitVec.isLt _),
    ← Nat.shiftLeft_add_eq_or_of_lt (BitVec.isLt _)]
  simp only [BitVec.toNat_ofNat, Nat.shiftLeft_eq]
  generalize sign.toBitVec.toNat = high
  omega

/-- The sign of a word is read off it. -/
theorem unpackSign_word (sign : Sign) (bits : Nat) :
    Sign.ofBitVec (@unpackSign .binary64 (word sign bits)) = sign := by
  rw [word, unpackSign_packComponents, Sign.ofBitVec_toBitVec]

/-- A finite number as the operations have it. -/
def signed (sign : Sign) (value : Binary) : UnpackedFloat :=
  if inhabited : 0 < value.mantissa then .finite sign value.mantissa value.exponent inhabited
  else .zero sign

/-- A number that is no NaN as the operations have it. -/
def unpacked (sign : Sign) (bits : Nat) : UnpackedFloat :=
  if bits = infinityBits then .infinity sign else signed sign (ofBits bits)

/-- Numbers that fit a width are told apart by their bits. -/
theorem ofNat_eq_iff {width first second : Nat} (small : first < 2 ^ width)
    (other : second < 2 ^ width) :
    BitVec.ofNat width first = BitVec.ofNat width second ↔ first = second := by
  rw [← BitVec.toNat_inj, BitVec.toNat_ofNat, BitVec.toNat_ofNat, Nat.mod_eq_of_lt small,
    Nat.mod_eq_of_lt other]

/-- A word up to that of infinity is unpacked to what its sign and bit pattern denote. -/
theorem unpack_word (sign : Sign) {bits : Nat} (small : bits ≤ infinityBits) :
    unpack .binary64 (word sign bits) = unpacked sign bits := by
  have mantissa : @unpackMantissa .binary64 (word sign bits) = BitVec.ofNat 52 bits :=
    unpackMantissa_packComponents
  have exponent : @unpackExponent .binary64 (word sign bits) =
      BitVec.ofNat 11 (bits / 2 ^ 52) := unpackExponent_packComponents
  have below : bits / 2 ^ 52 ≤ 2047 := by
    rw [infinityBits] at small
    omega
  have top : BitVec.ofNat 11 (bits / 2 ^ 52) = -1#11 ↔ bits / 2 ^ 52 = 2047 :=
    ofNat_eq_iff (by omega) (by decide)
  have bottom : BitVec.ofNat 11 (bits / 2 ^ 52) = 0#11 ↔ bits / 2 ^ 52 = 0 :=
    ofNat_eq_iff (by omega) (by decide)
  have none : BitVec.ofNat 52 bits = 0#52 ↔ bits % 2 ^ 52 = 0 := by
    rw [← BitVec.toNat_inj, BitVec.toNat_ofNat, BitVec.toNat_ofNat, Nat.zero_mod]
  have field : (BitVec.ofNat 11 (bits / 2 ^ 52)).toNat = bits / 2 ^ 52 := by
    rw [BitVec.toNat_ofNat]
    omega
  have hidden : (1#1 ++ BitVec.ofNat 52 bits).toNat = 2 ^ 52 + bits % 2 ^ 52 := by
    rw [BitVec.toNat_append, ← Nat.shiftLeft_add_eq_or_of_lt (BitVec.isLt _), BitVec.toNat_ofNat]
    rfl
  have bias : (Format.binary64.exponentBias : Int) = 1023 := rfl
  rw [unpack]
  simp only [mantissa, exponent, unpackSign_word]
  simp only [top, none, bottom, field, hidden, bias, BitVec.toNat_ofNat]
  by_cases infinite : bits / 2 ^ 52 = 2047
  · have whole : bits = infinityBits := by
      rw [infinityBits] at small ⊢
      omega
    rw [if_pos infinite, whole]
    rfl
  have finite : bits ≠ infinityBits := by
    rintro rfl
    exact infinite rfl
  rw [if_neg infinite, unpacked, if_neg finite, ofBits_eq]
  by_cases low : bits / 2 ^ 52 = 0
  · rw [if_pos low, if_pos (by omega), signed]
    by_cases zero : bits % 2 ^ 52 = 0
    · rw [dif_pos zero, dif_neg (by simpa using zero)]
    · rw [dif_neg zero, dif_pos (Nat.pos_of_ne_zero zero), low]
      rfl
  · rw [if_neg low, if_neg (by omega), signed, dif_pos (by dsimp only; omega)]
    congr 1
    dsimp only
    omega

/-- No word up to that of infinity is a NaN. -/
theorem isNaNBits_word (sign : Sign) {bits : Nat} (small : bits ≤ infinityBits) :
    @isNaNBits .binary64 (word sign bits) = false := by
  rw [isNaNBits, word, unpackExponent_packComponents, unpackMantissa_packComponents,
    decide_eq_false_iff_not]
  rintro ⟨top, some⟩
  rw [infinityBits] at small
  have infinite : bits / 2 ^ 52 = 2047 := (ofNat_eq_iff (by omega) (by decide)).1 top
  obtain rfl : bits = 2047 * 2 ^ 52 := by omega
  exact some rfl

/-- Packing what a sign and a bit pattern denote gives the word. -/
theorem pack_unpacked (sign : Sign) {bits : Nat} (small : bits ≤ infinityBits) :
    pack .binary64 (unpacked sign bits) = word sign bits := by
  rw [← unpack_word sign small, pack_unpack, isNaNBits_word sign small, if_neg Bool.false_ne_true]

/-- A magnitude beyond the largest exponent is packed to infinity. -/
theorem pack_overflow (sign : Sign) {value : Binary} (inhabited : 0 < value.mantissa)
    (large : 972 ≤ value.exponent) :
    pack .binary64 (signed sign value) = word sign infinityBits := by
  have bias : (Format.binary64.exponentBias : Int) = 1023 := rfl
  rw [signed, dif_pos inhabited, pack]
  simp only [bias]
  rw [if_pos (by omega)]
  cases sign <;> rfl

/-- A magnitude in normal form is packed to its sign and bit pattern. -/
theorem pack_signed (sign : Sign) {value : Binary} (regular : value.Regular) :
    pack .binary64 (signed sign value) = word sign value.toBits := by
  rcases Nat.lt_or_eq_of_le (toBits_le value) with finite | infinite
  · rw [← pack_unpacked sign (toBits_le value), unpacked, if_neg (Nat.ne_of_lt finite),
      ofBits_toBits regular finite]
  · rw [infinite]
    obtain ⟨mantissa, exponent⟩ := value
    obtain ⟨least, narrow, full⟩ := regular
    rw [toBits_eq] at infinite
    simp only [infinityBits, leastExponent] at *
    split at infinite <;> exact pack_overflow sign (by dsimp only; omega) (by dsimp only; omega)

theorem signed_zero (sign : Sign) {value : Binary} (zero : value.mantissa = 0) :
    signed sign value = .zero sign :=
  dif_neg (by omega)

/-- Zero is the only bit pattern without a mantissa. -/
theorem mantissa_ofBits_eq_zero {bits : Nat} (small : bits < infinityBits) :
    (ofBits bits).mantissa = 0 ↔ bits = 0 := by
  rw [ofBits_eq]
  simp only [infinityBits] at small
  split <;> dsimp only <;> omega

/-- Bit patterns are ordered first by the exponents and then by the mantissas of the numbers. -/
theorem compare_ofBits {first second : Nat} (small : first < infinityBits)
    (other : second < infinityBits) :
    (compare (ofBits first).exponent (ofBits second).exponent).then
      (compare (ofBits first).mantissa (ofBits second).mantissa) = compare first second := by
  simp only [infinityBits] at small other
  rw [ofBits_eq, ofBits_eq]
  rcases Nat.lt_trichotomy first second with less | same | more
  · rw [Nat.compare_eq_lt.2 less, Ordering.then_eq_lt, Int.compare_eq_lt, Nat.compare_eq_lt,
      Int.compare_eq_eq]
    split <;> split <;> dsimp only <;> omega
  · subst same
    rw [Nat.compare_eq_eq.2 rfl, Int.compare_eq_eq.2 rfl, Nat.compare_eq_eq.2 rfl]
    rfl
  · rw [Nat.compare_eq_gt.2 more, Ordering.then_eq_gt, Int.compare_eq_gt, Nat.compare_eq_gt,
      Int.compare_eq_eq]
    split <;> split <;> dsimp only <;> omega

/-- A sign and a bit pattern denote an infinity, a zero or a finite number, as the bit pattern says.
-/
theorem unpacked_cases (sign : Sign) {bits : Nat} (small : bits ≤ infinityBits) :
    bits = infinityBits ∧ unpacked sign bits = .infinity sign ∨
    bits = 0 ∧ unpacked sign bits = .zero sign ∨
    0 < bits ∧ bits < infinityBits ∧ ∃ inhabited : 0 < (ofBits bits).mantissa,
      unpacked sign bits =
        .finite sign (ofBits bits).mantissa (ofBits bits).exponent inhabited := by
  rw [unpacked]
  split
  · next infinite => exact .inl ⟨infinite, rfl⟩
  · next finite =>
    have below : bits < infinityBits := Nat.lt_of_le_of_ne small finite
    have zero := mantissa_ofBits_eq_zero below
    by_cases nothing : bits = 0
    · exact .inr (.inl ⟨nothing, signed_zero sign (zero.2 nothing)⟩)
    · have inhabited := Nat.pos_of_ne_zero fun none => nothing (zero.1 none)
      exact .inr (.inr ⟨Nat.pos_of_ne_zero nothing, below, inhabited, dif_pos inhabited⟩)

/-- Numbers are ordered as their bit patterns are, taken with the signs. -/
theorem le_unpacked (sign other : Sign) {first second : Nat} (small : first ≤ infinityBits)
    (limited : second ≤ infinityBits) :
    (unpacked sign first).le (unpacked other second) = true ↔
      sign.apply first ≤ other.apply second := by
  have positive : 0 < infinityBits := by decide
  rcases unpacked_cases sign small with ⟨rfl, left⟩ | ⟨rfl, left⟩ | ⟨above, below, _, left⟩ <;>
    rcases unpacked_cases other limited with
      ⟨rfl, right⟩ | ⟨rfl, right⟩ | ⟨inhabited, finite, _, right⟩ <;>
    simp only [left, right, UnpackedFloat.le]
  case inl.inl => cases sign <;> cases other <;> decide
  case inr.inr.inr.inr =>
    cases sign <;> cases other <;> simp only [UnpackedFloat.compare, Sign.apply,
      compare_ofBits below finite, Nat.compare_swap, Option.any_some, Nat.isLE_compare]
    all_goals simp
    all_goals omega
  all_goals cases sign <;> cases other <;> simp [UnpackedFloat.compare, Sign.apply] <;> omega

/-- The floating-point number has a sign and the bit pattern of a magnitude. -/
structure Denotes (value : Float) (sign : Sign) (bits : Nat) : Prop where
  bound : bits ≤ infinityBits
  packed : value.toModel.toBits.toBitVec = word sign bits

namespace Denotes

variable {value another : Float} {sign other : Sign} {bits second : Nat}

/-- A number is unpacked to the sign and the bit pattern that it denotes. -/
theorem unpack (denotes : Denotes value sign bits) :
    value.toModel.unpack = unpacked sign bits := by
  rw [Float.Model.unpack, denotes.packed, unpack_word sign denotes.bound]

/-- A sign and a magnitude make one number. -/
theorem unique (denotes : Denotes value sign bits) (same : Denotes another sign bits) :
    value = another :=
  Float.toBits_inj.1 (UInt64.toBitVec_inj.1 (denotes.packed.trans same.packed.symm))

/-- The bits of a number are its sign and its bit pattern. -/
theorem toBits (denotes : Denotes value sign bits) :
    value.toBits.toNat = sign.toBitVec.toNat * 2 ^ 63 + bits := by
  have small : bits < 2 ^ 63 := Nat.lt_of_le_of_lt denotes.bound (by decide)
  rw [← toNat_word sign small, ← denotes.packed]
  rfl

/-- A number that is packed to a word denotes the sign and the bit pattern of this. -/
theorem of_pack {result : UnpackedFloat} (small : bits ≤ infinityBits)
    (packed : pack .binary64 result = word sign bits) :
    Denotes ⟨Float.Model.pack result⟩ sign bits :=
  ⟨small, packed⟩

theorem neg (denotes : Denotes value sign bits) : Denotes (-value) (-sign) bits := by
  have negated : value.toModel.unpack.neg = unpacked (-sign) bits := by
    rw [denotes.unpack]
    rcases unpacked_cases sign denotes.bound with ⟨rfl, _⟩ | ⟨rfl, _⟩ | ⟨_, below, held, positive⟩
    · rfl
    · rfl
    · rw [positive, unpacked, if_neg (Nat.ne_of_lt below), signed, dif_pos held]
      rfl
  exact of_pack denotes.bound (negated ▸ pack_unpacked (-sign) denotes.bound)

/-- A number is infinite if its bit pattern is that of infinity. -/
theorem isInf_iff (denotes : Denotes value sign bits) :
    value.isInf = true ↔ bits = infinityBits := by
  rw [Float.isInf, Float.Model.isInf, denotes.unpack]
  rcases unpacked_cases sign denotes.bound with ⟨rfl, _⟩ | ⟨rfl, _⟩ | ⟨_, below, held, positive⟩
  · exact iff_of_true rfl rfl
  · exact iff_of_false Bool.false_ne_true (by decide)
  · rw [positive]
    exact iff_of_false Bool.false_ne_true (Nat.ne_of_lt below)

theorem isNaN (denotes : Denotes value sign bits) : value.isNaN = false := by
  rw [Float.isNaN, Float.Model.isNaN, denotes.unpack]
  rcases unpacked_cases sign denotes.bound with ⟨rfl, _⟩ | ⟨rfl, _⟩ | ⟨_, _, _, positive⟩
  · rfl
  · rfl
  · rw [positive]
    rfl

/-- Numbers are ordered as their bit patterns with the signs. -/
theorem le_iff (denotes : Denotes value sign bits) (denoted : Denotes another other second) :
    value ≤ another ↔ sign.apply bits ≤ other.apply second := by
  rw [← le_unpacked sign other denotes.bound denoted.bound, ← denotes.unpack, ← denoted.unpack]
  exact decide_eq_true_iff

end Denotes

/-- A magnitude read as a number denotes its bit pattern, with no sign. -/
theorem denotes_toFloat (value : Binary) : Denotes value.toFloat .positive value.toBits := by
  have small := toBits_le value
  have packed : (UInt64.ofNat value.toBits).toBitVec = word .positive value.toBits := by
    have low : value.toBits < 2 ^ 63 := Nat.lt_of_le_of_lt small (by decide)
    rw [← BitVec.toNat_inj, toNat_word _ low]
    exact (Nat.mod_eq_of_lt (by omega)).trans (by simp [Sign.toBitVec])
  refine Denotes.of_pack small ?_
  rw [packed, unpack_word _ small, pack_unpacked _ small]

/-- A word that is unpacked to a finite number lies below that of infinity. -/
theorem isFinite_unpack_word (sign : Sign) {bits : Nat} (small : bits < 2 ^ 63)
    (finite : (unpack .binary64 (word sign bits)).isFinite = true) : bits < infinityBits := by
  refine Nat.lt_of_not_le fun large => ?_
  rw [infinityBits] at large
  have top : @unpackExponent .binary64 (word sign bits) = -1#11 := by
    rw [word, unpackExponent_packComponents, show bits / 2 ^ 52 = 2047 by omega]
    rfl
  rw [unpack] at finite
  simp only [top, if_pos] at finite
  split at finite <;> exact Bool.false_ne_true finite

/-- A finite floating-point number has a sign and a magnitude. -/
theorem exists_denotes {value : Float} (finite : value.isFinite = true) :
    ∃ sign, Denotes value sign (value.toBits.toNat % 2 ^ 63) ∧
      value.toBits.toNat % 2 ^ 63 < infinityBits := by
  have limit : value.toBits.toNat < 2 ^ 64 := value.toBits.toBitVec.isLt
  have low : value.toBits.toNat % 2 ^ 63 < 2 ^ 63 := Nat.mod_lt _ (by decide)
  obtain ⟨sign, high⟩ : ∃ sign : Sign, sign.toBitVec.toNat = value.toBits.toNat / 2 ^ 63 := by
    by_cases negative : value.toBits.toNat < 2 ^ 63
    · exact ⟨.positive, by simp [Sign.toBitVec]; omega⟩
    · exact ⟨.negative, by simp [Sign.toBitVec]; omega⟩
  have packed : value.toModel.toBits.toBitVec = word sign (value.toBits.toNat % 2 ^ 63) := by
    rw [← BitVec.toNat_inj, toNat_word sign low, high]
    exact (Nat.div_add_mod' _ _).symm
  rw [Float.isFinite, Float.Model.isFinite, Float.Model.unpack, packed] at finite
  have small := isFinite_unpack_word sign low finite
  exact ⟨sign, ⟨Nat.le_of_lt small, packed⟩, small⟩

end Binary

end Scrutiny
