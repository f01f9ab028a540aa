import Mathlib.Algebra.Order.Field.Rat
import Mathlib.Tactic.FieldSimp
import Mathlib.Tactic.Ring
import Scrutiny.Decimal.Text
import Scrutiny.Json.Printer
import Scrutiny.Proofs.Word.Splitting

/-! # Numerals

The text of a number is a numeral: digits, then a point with more digits or not, then a power of ten
with its sign or not. Reading a numeral gives the decimal that its parts make
(`Decimal.Numeral.unsigned_chars`), and laying out a decimal gives a numeral of the same ratio
(`NumberStyle.exists_numeral`).
-/

namespace Scrutiny

namespace Decimal

/-- The number that digits and an exponent make. -/
def ratio (decimal : Decimal) : ℚ := decimal.digits * 10 ^ decimal.exponent

/-- The value of digits is that of the library. -/
theorem ofDigits_eq (cs : List Char) : ofDigits cs = Nat.ofDigitChars 10 cs 0 := by
  simp only [ofDigits, Nat.ofDigitChars, Nat.mul_comm 10]

theorem ofDigits_toDigits (n : Nat) : ofDigits (Nat.toDigits 10 n) = n := by
  rw [ofDigits_eq, Nat.ofDigitChars_ten_toDigits]

theorem ofDigits_zeros_append (count : Nat) (cs : List Char) :
    ofDigits (List.replicate count '0' ++ cs) = ofDigits cs := by
  induction count with
  | zero => rfl
  | succ count ih => exact ih

/-- Zeros at the end multiply by a power of ten. -/
theorem ofDigits_append_zeros (cs : List Char) (count : Nat) :
    ofDigits (cs ++ List.replicate count '0') = ofDigits cs * 10 ^ count := by
  induction count with
  | zero => simp
  | succ count ih =>
    rw [List.replicate_succ', ← List.append_assoc, ofDigits, List.foldl_append, ← ofDigits, ih,
      Nat.pow_succ, ← Nat.mul_assoc]
    rfl

/-- The parts of the text of a number. -/
structure Numeral where
  whole : List Char
  fraction : List Char
  exponent : Option Int

namespace Numeral

/-- A power of ten with its letter and its sign. -/
def power (exponent : Int) : List Char :=
  'e' :: (if exponent < 0 then '-' else '+') :: Nat.toDigits 10 exponent.natAbs

/-- The text of a numeral. -/
def chars (numeral : Numeral) : List Char :=
  numeral.whole ++ ((if numeral.fraction = [] then [] else '.' :: numeral.fraction) ++
    numeral.exponent.elim [] power)

/-- The decimal that a numeral stands for. -/
def decimal (numeral : Numeral) : Decimal :=
  ⟨ofDigits (numeral.whole ++ numeral.fraction),
    numeral.exponent.getD 0 - numeral.fraction.length⟩

/-- There is a digit before the point, and nothing but digits before and after it. -/
structure Sound (numeral : Numeral) : Prop where
  begun : numeral.whole ≠ []
  whole : ∀ c ∈ numeral.whole, c.isDigit = true
  fraction : ∀ c ∈ numeral.fraction, c.isDigit = true

end Numeral

/-- The digits at the start of a text are cut off up to the first other character. -/
theorem span_digits {digits rest : List Char} (all : ∀ c ∈ digits, c.isDigit = true)
    (stop : ∀ c ∈ rest.head?, c.isDigit = false) :
    (digits ++ rest).takeWhile Char.isDigit = digits ∧
      (digits ++ rest).dropWhile Char.isDigit = rest := by
  rw [List.takeWhile_append_of_pos all, List.dropWhile_append_of_pos all]
  cases rest with
  | nil => simp
  | cons c rest =>
    have ends : c.isDigit = false := stop c rfl
    simp [ends]

/-- The digits of a number are read as the number. -/
theorem digits?_toDigits (n : Nat) : digits? (Nat.toDigits 10 n) = some n := by
  have all : (Nat.toDigits 10 n).all Char.isDigit = true := by
    rw [List.all_eq_true]
    exact fun c member => Nat.isDigit_of_mem_toDigits (by decide) (by decide) member
  have some : (Nat.toDigits 10 n).isEmpty = false := by
    rw [List.isEmpty_eq_false_iff]
    exact List.ne_nil_of_length_pos Nat.length_toDigits_pos
  rw [digits?, all, some, ofDigits_toDigits]
  rfl

/-- A power of ten is read as its exponent. -/
theorem exponent?_power (exponent : Int) : exponent? (Numeral.power exponent) = some exponent := by
  have read := digits?_toDigits exponent.natAbs
  by_cases negative : exponent < 0
  · rw [Numeral.power, if_pos negative]
    simp only [exponent?, splitSign, read, true_or, if_true]
    change some (-(exponent.natAbs : Int)) = some exponent
    rw [Int.ofNat_natAbs_of_nonpos (Int.le_of_lt negative), Int.neg_neg]
  · rw [Numeral.power, if_neg negative]
    simp only [exponent?, splitSign, read, true_or, if_true]
    exact congrArg some (Int.natAbs_of_nonneg (Int.not_lt.1 negative))

namespace Numeral

variable {numeral : Numeral}

/-- A fraction is cut off before the power of ten. -/
theorem splitFraction_eq (fraction : List Char) (exponent : Option Int)
    (all : ∀ c ∈ fraction, c.isDigit = true) :
    splitFraction ((if fraction = [] then [] else '.' :: fraction) ++ exponent.elim [] power) =
      (fraction, exponent.elim [] power) := by
  have stop : ∀ c ∈ (exponent.elim [] power).head?, c.isDigit = false := by
    cases exponent <;> simp [power]
  split
  · next none =>
    subst none
    cases exponent <;> rfl
  · obtain ⟨taken, dropped⟩ := span_digits all stop
    rw [List.cons_append, splitFraction, taken, dropped]

/-- A numeral is read as what it stands for. -/
theorem unsigned_chars (sound : numeral.Sound) :
    unsigned? numeral.chars = some numeral.decimal := by
  have stop : ∀ c ∈ ((if numeral.fraction = [] then [] else '.' :: numeral.fraction) ++
      numeral.exponent.elim [] power).head?, c.isDigit = false := by
    split
    · cases numeral.exponent <;> simp [power]
    · simp
  obtain ⟨taken, dropped⟩ := span_digits sound.whole stop
  have ends : exponent? (numeral.exponent.elim [] power) = some (numeral.exponent.getD 0) := by
    cases numeral.exponent with
    | none => rfl
    | some exponent => exact exponent?_power exponent
  have begun : numeral.whole.isEmpty = false := List.isEmpty_eq_false_iff.2 sound.begun
  rw [unsigned?, chars, taken, dropped, splitFraction_eq _ _ sound.fraction, begun]
  simp only [ends, Bool.false_and, Bool.false_eq_true, if_false, Option.map_some]
  rfl

/-- A numeral with a point or a power of ten is not a row of digits. -/
theorem digits?_chars (marked : numeral.fraction ≠ [] ∨ numeral.exponent.isSome = true) :
    digits? numeral.chars = none := by
  obtain ⟨c, member, other⟩ : ∃ c ∈ numeral.chars, c.isDigit = false := by
    rcases marked with fraction | power
    · exact ⟨'.', by simp [chars, fraction], rfl⟩
    · obtain ⟨exponent, given⟩ := Option.isSome_iff_exists.1 power
      exact ⟨'e', by simp [chars, given, Numeral.power], rfl⟩
  have all : numeral.chars.all Char.isDigit = false := by
    rw [List.all_eq_false]
    exact ⟨c, member, by simp [other]⟩
  rw [digits?, all]
  simp

theorem isWhiteSpace_of_isDigit {c : Char} (digit : c.isDigit = true) :
    Text.isWhiteSpace c = false := by
  obtain ⟨low, high⟩ : 48 ≤ c.toNat ∧ c.toNat ≤ 57 := by
    rw [Char.isDigit, Bool.and_eq_true, decide_eq_true_iff, decide_eq_true_iff] at digit
    exact digit
  have below : ¬ c.toNat < 0x9 := by omega
  have beyond : ¬ c.toNat ≤ 0xD := by omega
  have control : ¬ c.toNat < 0x20 := by omega
  have space : ¬ c.toNat ≤ 0x20 := by omega
  have next : c.toNat < 0x85 := by omega
  simp [Text.isWhiteSpace, Text.whiteSpaceRanges, Text.Ranges.has, Text.Ranges.hasCode, below,
    beyond, control, space, next]

/-- A numeral holds digits, a point, and the letter and the sign of a power of ten. -/
theorem mem_chars (sound : numeral.Sound) {c : Char} (member : c ∈ numeral.chars) :
    c.isDigit = true ∨ c ∈ ['.', 'e', '-', '+'] := by
  rw [chars, List.mem_append, List.mem_append] at member
  rcases member with whole | fraction | power
  · exact .inl (sound.whole c whole)
  · split at fraction
    · exact absurd fraction List.not_mem_nil
    rcases List.mem_cons.1 fraction with rfl | digit
    · exact .inr (by simp)
    · exact .inl (sound.fraction c digit)
  · cases given : numeral.exponent with
    | none => simp [given] at power
    | some exponent =>
      rw [given, Option.elim_some, Numeral.power] at power
      rcases List.mem_cons.1 power with rfl | signed
      · exact .inr (by simp)
      rcases List.mem_cons.1 signed with rfl | digit
      · right
        split <;> simp
      · exact .inl (Nat.isDigit_of_mem_toDigits (by decide) (by decide) digit)

theorem not_white (sound : numeral.Sound) {c : Char} (member : c ∈ numeral.chars) :
    Text.isWhiteSpace c = false := by
  rcases mem_chars sound member with digit | sign
  · exact isWhiteSpace_of_isDigit digit
  · simp only [List.mem_cons, List.not_mem_nil, or_false] at sign
    rcases sign with rfl | rfl | rfl | rfl <;> rfl

/-- The text of a numeral with a sign. -/
def signed (negative : Bool) (numeral : Numeral) : List Char :=
  if negative then '-' :: numeral.chars else numeral.chars

theorem trimChars_signed (sound : numeral.Sound) (negative : Bool) :
    Text.trimChars (numeral.signed negative) = numeral.signed negative := by
  have dark : ∀ c ∈ numeral.signed negative, Text.isWhiteSpace c = false := by
    cases negative with
    | false => exact fun c => not_white sound
    | true =>
      intro c member
      rcases List.mem_cons.1 member with rfl | inside
      · decide
      · exact not_white sound inside
  have trimmed : Text.Trimmed (numeral.signed negative) :=
    ⟨fun c first => dark c (List.mem_of_mem_head? first),
      fun c last => dark c (List.mem_of_mem_getLast? last)⟩
  exact trimmed.trimChars_eq

theorem splitSign_signed (sound : numeral.Sound) (negative : Bool) :
    splitSign (numeral.signed negative) = (negative, numeral.chars) := by
  cases negative with
  | true => rfl
  | false =>
    obtain ⟨first, rest, starts⟩ := List.exists_cons_of_ne_nil sound.begun
    have digit := sound.whole first (by simp [starts])
    rw [signed, if_neg Bool.false_ne_true, chars, starts, List.cons_append]
    have minus : first ≠ '-' := by rintro rfl; exact absurd digit (by decide)
    have plus : first ≠ '+' := by rintro rfl; exact absurd digit (by decide)
    simp [splitSign, minus, plus]

end Numeral

end Decimal

namespace NumberStyle

open Decimal (Numeral ofDigits)

variable {digits : List Char}

/-- The point of a positional number moves by the exponent. -/
theorem positional_numeral {style : NumberStyle} (point : style.wholePoint = true)
    (some : digits ≠ []) (all : ∀ c ∈ digits, c.isDigit = true) (exponent : Int) :
    ∃ numeral : Numeral, numeral.Sound ∧ numeral.fraction ≠ [] ∧
      style.layPositional digits exponent = numeral.chars ∧
      numeral.decimal.ratio = Decimal.ratio ⟨ofDigits digits, exponent⟩ := by
  have zeros (count : Nat) : ∀ c ∈ List.replicate count '0', c.isDigit = true := by
    intro c member
    rw [(List.mem_replicate.1 member).2]
    rfl
  rw [layPositional, point]
  by_cases whole : exponent ≥ 0
  · obtain ⟨count, rfl⟩ := Int.eq_ofNat_of_zero_le whole
    refine ⟨⟨digits ++ List.replicate count '0', ['0'], none⟩, ⟨by simp [some], ?_, by simp⟩,
      by simp, by simp [Numeral.chars], ?_⟩
    · intro c member
      exact (List.mem_append.1 member).elim (all c) (zeros count c)
    · have shifted : (digits ++ List.replicate count '0') ++ ['0'] =
          digits ++ List.replicate (count + 1) '0' := by
        rw [List.replicate_succ', List.append_assoc]
      rw [Numeral.decimal, shifted, Decimal.ofDigits_append_zeros]
      simp only [Decimal.ratio, Option.getD_none, List.length_singleton]
      push_cast
      rw [zpow_natCast, pow_succ, zpow_neg_one]
      field_simp
  by_cases inside : exponent.natAbs < digits.length
  · refine ⟨⟨digits.take (digits.length - exponent.natAbs),
      digits.drop (digits.length - exponent.natAbs), none⟩,
      ⟨?_, fun c member => all c (List.mem_of_mem_take member),
        fun c member => all c (List.mem_of_mem_drop member)⟩, ?_, ?_, ?_⟩
    · simp [some]
      omega
    · simp
      omega
    · simp [Numeral.chars, whole, inside]
      omega
    · rw [Numeral.decimal, List.take_append_drop, List.length_drop, Option.getD_none]
      congr 2
      omega
  · refine ⟨⟨['0'], List.replicate (exponent.natAbs - digits.length) '0' ++ digits, none⟩,
      ⟨by simp, by simp, ?_⟩, by simp [some], by simp [Numeral.chars, whole, inside, some], ?_⟩
    · intro c member
      exact (List.mem_append.1 member).elim (zeros _ c) (all c)
    · have value := Decimal.ofDigits_zeros_append (exponent.natAbs - digits.length + 1) digits
      rw [List.replicate_succ, List.cons_append] at value
      rw [Numeral.decimal, List.singleton_append, value, List.length_append, List.length_replicate,
        Option.getD_none]
      congr 2
      omega

/-- Scientific notation is a numeral with a power of ten, of the same decimal. -/
theorem scientific_numeral (some : digits ≠ []) (all : ∀ c ∈ digits, c.isDigit = true)
    (lead : Int) :
    ∃ numeral : Numeral, numeral.Sound ∧ numeral.exponent.isSome = true ∧
      layScientific digits lead = numeral.chars ∧
      numeral.decimal = ⟨ofDigits digits, lead - digits.length + 1⟩ := by
  cases digits with
  | nil => exact absurd rfl some
  | cons first rest =>
    refine ⟨⟨[first], rest, .some lead⟩, ⟨by simp, ?_, ?_⟩, rfl, ?_, ?_⟩
    · simpa using all first
    · exact fun c member => all c (List.mem_cons_of_mem _ member)
    · cases rest <;> simp [layScientific, Numeral.chars, Numeral.power]
    · simp [Numeral.decimal]
      omega

/-- A decimal is laid out as a numeral of its ratio, which has a point or a power of ten. -/
theorem exists_numeral {style : NumberStyle} (point : style.wholePoint = true)
    (decimal : Decimal) :
    ∃ numeral : Numeral, numeral.Sound ∧ (numeral.fraction ≠ [] ∨ numeral.exponent.isSome = true) ∧
      style.layOut decimal = String.ofList numeral.chars ∧
      numeral.decimal.ratio = decimal.ratio := by
  rw [layOut]
  split
  · next none =>
    refine ⟨⟨['0'], ['0'], .none⟩, ⟨by simp, by simp, by simp⟩, .inl (by simp), rfl, ?_⟩
    rw [Decimal.ratio, Decimal.ratio, none, show (Numeral.decimal ⟨['0'], ['0'], .none⟩).digits = 0
      from rfl, Nat.cast_zero, zero_mul, zero_mul]
  have some : Nat.toDigits 10 decimal.digits ≠ [] :=
    List.ne_nil_of_length_pos Nat.length_toDigits_pos
  have all (c : Char) (member : c ∈ Nat.toDigits 10 decimal.digits) : c.isDigit = true :=
    Nat.isDigit_of_mem_toDigits (by decide) (by decide) member
  dsimp only
  split
  · obtain ⟨numeral, sound, fraction, written, value⟩ :=
      positional_numeral point some all decimal.exponent
    rw [Decimal.ofDigits_toDigits] at value
    exact ⟨numeral, sound, .inl fraction, congrArg _ written, value⟩
  · obtain ⟨numeral, sound, power, written, value⟩ := scientific_numeral some all
      (decimal.exponent + (Nat.toDigits 10 decimal.digits).length - 1)
    refine ⟨numeral, sound, .inr power, congrArg _ written, ?_⟩
    rw [value, Decimal.ofDigits_toDigits]
    congr 2
    omega

end NumberStyle

end Scrutiny
