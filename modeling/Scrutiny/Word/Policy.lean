import Scrutiny.Decimal.Notation
import Scrutiny.Pattern.Matching
import Scrutiny.Pattern.Reader

/-! # Policies of matching

A policy says which characters may separate the units of a banned word, which may mask a unit, and
how much of a word may be masked.
-/

namespace Scrutiny.Word

/-- The two classes that a policy gives as patterns. -/
inductive PolicyClass where
  | separator | blank
  deriving Repr, DecidableEq

/-- What is wrong with a banned word or with a policy. -/
inductive WordError where
  /-- The word has no unit. -/
  | anchorOnly (word : String)
  /-- A class of the policy is no pattern. -/
  | invalidClass (which : PolicyClass) (pattern : String) (cause : PatternError)
  /-- A class of the policy remembers groups. -/
  | capturingClass (which : PolicyClass) (pattern : String)
  /-- A class of the policy matches the empty text. -/
  | emptyMatchingClass (which : PolicyClass) (pattern : String)
  /-- The share of masked units is not between nothing and all. -/
  | invalidRatio (ratio : Float)
  /-- The pattern of the word is no usable pattern. -/
  | unusablePattern (word : String) (cause : PatternError)

/-- The name of a class in messages. -/
def PolicyClass.name : PolicyClass → String
  | separator => "separator"
  | blank => "blank"

/-- Ratios are written positionally and without a needless point. -/
def ratioStyle : NumberStyle where
  positionalBelow := none
  positionalFrom := none
  wholePoint := false
  notANumber := "NaN"
  infinity := "inf"

/-- What is said of a banned word or a policy that cannot be used. -/
def WordError.message : WordError → String
  | anchorOnly word => "Banned word '" ++ word ++ "' consists only of boundary anchors"
  | invalidClass which pattern cause =>
    "Policy " ++ which.name ++ " class '" ++ pattern ++ "' is not a valid pattern: " ++
      cause.message
  | capturingClass which pattern =>
    "Policy " ++ which.name ++ " class '" ++ pattern ++ "' must not contain capture groups"
  | emptyMatchingClass which pattern =>
    "Policy " ++ which.name ++ " class '" ++ pattern ++ "' must not match empty text"
  | invalidRatio ratio =>
    "Policy blank ratio threshold " ++ ratioStyle.render ratio ++ " is outside 0.0..=1.0"
  | unusablePattern word cause =>
    "Failed to compile pattern for banned word '" ++ word ++ "': " ++ cause.message

/-- How tolerant matching is. -/
structure Policy where
  /-- The pattern of what may stand between units. -/
  separatorClass : String := "[\\s\\p\x7bP\x7d\\p\x7bS\x7d\\p\x7bCf\x7d]"
  /-- The pattern of what may stand in place of a unit. -/
  blankClass : String := "[*＊_＿〇○◯●◎?？]"
  /-- Words with fewer units are never masked. -/
  minLengthForBlank : Nat := 3
  /-- The greatest share of units that may be masked. -/
  blankRatioThreshold : Float := 0.4

namespace Policy

/-- Check that a class is a pattern on its own, has no groups and does not match the empty text. -/
def checkClass (which : PolicyClass) (text : String) : Except WordError Unit :=
  match Pattern.read false text with
  | .error cause => .error (.invalidClass which text cause)
  | .ok pattern =>
    if pattern.groupCount > 0 then .error (.capturingClass which text)
    else if pattern.matchesText "" then .error (.emptyMatchingClass which text)
    else .ok ()

/-- Check both classes and the ratio, in this order. -/
def validate (policy : Policy) : Except WordError Unit := do
  checkClass .separator policy.separatorClass
  checkClass .blank policy.blankClass
  if 0.0 ≤ policy.blankRatioThreshold ∧ policy.blankRatioThreshold ≤ 1.0 then .ok ()
  else .error (.invalidRatio policy.blankRatioThreshold)

/-- The pattern of a text that is one blank and nothing else. -/
def blankPattern (policy : Policy) : Except WordError Pattern :=
  match Pattern.read false ("^(?:" ++ policy.blankClass ++ ")$") with
  | .error cause => .error (.invalidClass .blank policy.blankClass cause)
  | .ok pattern => .ok pattern

end Policy

end Scrutiny.Word
