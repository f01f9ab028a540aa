import Mathlib.Data.Char
import Scrutiny.Pattern.Reader

/-! # Sets with case ignored

A pattern text is read with case ignored or not, and it can change this within itself. The sets of
the two readings are put together in the same way, with case variants added in more places where
case is ignored (`CharSet.Folds`). So they have the same members among the characters that have no
case variants (`CharSet.Folds.has_eq`).
-/

namespace Scrutiny.Pattern

/-- Options with case ignored or not. -/
def Flags.withCase (flags : Flags) (ignoreCase : Bool) : Flags :=
  { flags with ignoreCase := ignoreCase }

section WithCase

variable (flags : Flags) (ignoreCase : Bool)

@[simp] theorem Flags.unicode_withCase : (flags.withCase ignoreCase).unicode = flags.unicode := rfl

@[simp] theorem Flags.spaced_withCase : (flags.withCase ignoreCase).spaced = flags.spaced := rfl

@[simp] theorem Flags.skip_withCase : (flags.withCase ignoreCase).skip = flags.skip := rfl

@[simp] theorem Flags.withCase_self : flags.withCase flags.ignoreCase = flags := rfl

end WithCase

/-- How a second reading of a text treats case. -/
inductive Casing where
  /-- As the first reading does. -/
  | kept
  /-- It ignores case, at least where the first reading does. -/
  | ignored
  /-- In any way. -/
  | free
  deriving DecidableEq

/-- What the second reading may do where the first ignores case or does not. -/
structure Casing.Allows (casing : Casing) (first second : Bool) : Prop where
  same : casing = .kept → second = first
  grows : casing = .ignored → first = true → second = true

/-- Reading twice in one way is allowed in any case. -/
theorem Casing.Allows.refl {casing : Casing} (ignoreCase : Bool) :
    casing.Allows ignoreCase ignoreCase :=
  ⟨fun _ => rfl, fun _ ignored => ignored⟩

theorem Casing.Allows.free (first second : Bool) : Casing.free.Allows first second :=
  ⟨nofun, nofun⟩

theorem Casing.Allows.ignored (first : Bool) : Casing.ignored.Allows first true :=
  ⟨nofun, fun _ _ => rfl⟩

namespace CharSet

/-- The second set is the first one with case ignored, also in places where the first one minds
it. -/
inductive Folds : CharSet → CharSet → Prop
  | refl (set : CharSet) : Folds set set
  | anyCase {left right : CharSet} (inner : Folds left right) : Folds left (.anyCase right)
  | anyBasicCase {left right : CharSet} (inner : Folds left right) :
    Folds left (.anyBasicCase right)
  | anyCases {left right : CharSet} (inner : Folds left right) :
    Folds (.anyCase left) (.anyCase right)
  | anyBasicCases {left right : CharSet} (inner : Folds left right) :
    Folds (.anyBasicCase left) (.anyBasicCase right)
  | complement {left right : CharSet} (inner : Folds left right) :
    Folds (.complement left) (.complement right)
  | union {left right left' right' : CharSet} (one : Folds left right) (two : Folds left' right') :
    Folds (.union left left') (.union right right')
  | intersection {left right left' right' : CharSet} (one : Folds left right)
    (two : Folds left' right') : Folds (.intersection left left') (.intersection right right')
  | difference {left right left' right' : CharSet} (one : Folds left right)
    (two : Folds left' right') : Folds (.difference left left') (.difference right right')
  | symmetricDifference {left right left' right' : CharSet} (one : Folds left right)
    (two : Folds left' right') :
    Folds (.symmetricDifference left left') (.symmetricDifference right right')

/-- Letters of the basic range are all that has other variants in it. -/
theorem basicVariants_high {c : Char} (high : 128 ≤ c.toNat) : basicVariants c = [c, c, c] := by
  have lower : c.toLower = c := by
    unfold Char.toLower
    rw [dif_neg]
    rintro ⟨_, small⟩
    have : c.toNat ≤ 90 := small
    omega
  have upper : c.toUpper = c := by
    unfold Char.toUpper
    rw [dif_neg]
    rintro ⟨_, small⟩
    have : c.toNat ≤ 122 := small
    omega
  rw [basicVariants, lower, upper]

/-- A character without case variants has none in the basic range. -/
theorem basicVariants_caseless {c : Char} (caseless : Text.caseVariants c = [c]) :
    basicVariants c = [c, c, c] := by
  have letters : ∀ code < 128, let c := Char.ofNat code
      basicVariants c = [c, c, c] ∨ Text.foldCase c ≠ c ∨
        (Text.foldSources (Text.foldCase c)).isEmpty = false := by
    decide +kernel
  obtain ⟨folded, sources⟩ := List.cons.inj caseless
  by_cases small : c.toNat < 128
  · have known := letters c.toNat small
    rw [Char.ofNat_toNat] at known
    rcases known with same | other | some
    · exact same
    · exact absurd folded other
    · rw [sources] at some
      exact nomatch some
  · exact basicVariants_high (Nat.le_of_not_lt small)

/-- Ignoring case changes nothing for a character without case variants. -/
theorem Folds.has_eq {left right : CharSet} (folds : left.Folds right) {c : Char}
    (caseless : Text.caseVariants c = [c]) : right.has c = left.has c := by
  have basic := basicVariants_caseless caseless
  induction folds with
  | refl => rfl
  | anyCase _ ih => simp only [has, caseless, List.any_cons, List.any_nil, Bool.or_false, ih]
  | anyBasicCase _ ih =>
    simp only [has, basic, List.any_cons, List.any_nil, Bool.or_false, Bool.or_self, ih]
  | anyCases _ ih => simp only [has, caseless, List.any_cons, List.any_nil, Bool.or_false, ih]
  | anyBasicCases _ ih =>
    simp only [has, basic, List.any_cons, List.any_nil, Bool.or_false, Bool.or_self, ih]
  | complement _ ih => simp only [has, ih]
  | union _ _ one two => simp only [has, one, two]
  | intersection _ _ one two => simp only [has, one, two]
  | difference _ _ one two => simp only [has, one, two]
  | symmetricDifference _ _ one two => simp only [has, one, two]

section Options

variable {flags : Flags} {ignoreCase : Bool} {left right left' right' : CharSet}

/-- Case variants are added under the options of both readings, or only under those of the
second. -/
theorem Folds.fold (folds : left.Folds right)
    (grows : flags.ignoreCase = true → ignoreCase = true) :
    (flags.fold left).Folds ((flags.withCase ignoreCase).fold right) := by
  obtain ⟨ignored, multiLine, dotAll, swapGreed, unicode, returns, spaced⟩ := flags
  cases ignored with
  | true =>
    obtain rfl := grows rfl
    cases unicode with
    | true => exact .anyCases folds
    | false => exact .anyBasicCases folds
  | false =>
    cases ignoreCase with
    | false => exact folds
    | true =>
      cases unicode with
      | true => exact .anyCase folds
      | false => exact .anyBasicCase folds

/-- Closing under case and negating keeps sets put together alike. -/
theorem Folds.foldAndNegate (negated : Bool) (folds : left.Folds right)
    (grows : flags.ignoreCase = true → ignoreCase = true) :
    (flags.foldAndNegate negated left).Folds
      ((flags.withCase ignoreCase).foldAndNegate negated right) := by
  unfold Flags.foldAndNegate
  cases negated with
  | true => exact .complement (folds.fold grows)
  | false => exact folds.fold grows

theorem Folds.apply (operation : SetOperation) (one : left.Folds right) (two : left'.Folds right') :
    (operation.apply left left').Folds (operation.apply right right') := by
  cases operation with
  | intersection => exact .intersection one two
  | difference => exact .difference one two
  | symmetricDifference => exact .symmetricDifference one two

end Options

/-- Sets of two readings of a text. -/
structure Alike (casing : Casing) (left right : CharSet) : Prop where
  same : casing = .kept → left = right
  folds : casing = .ignored → left.Folds right

theorem Alike.refl {casing : Casing} (set : CharSet) : set.Alike casing set :=
  ⟨fun _ => rfl, fun _ => .refl set⟩

/-- Sets that are alike are so when each is closed under the case of its reading. -/
theorem Alike.fold {casing : Casing} {flags : Flags} {ignoreCase : Bool} {left right : CharSet}
    (alike : left.Alike casing right) (allowed : casing.Allows flags.ignoreCase ignoreCase) :
    (flags.fold left).Alike casing ((flags.withCase ignoreCase).fold right) where
  same keeps := by rw [alike.same keeps, allowed.same keeps, Flags.withCase_self]
  folds ignores := (alike.folds ignores).fold (allowed.grows ignores)

end CharSet

end Scrutiny.Pattern
