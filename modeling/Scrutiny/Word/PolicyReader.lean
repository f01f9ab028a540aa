import Scrutiny.Document
import Scrutiny.Word.Policy

/-! # Policies in documents

A policy is written as a structure of four fields, each with a default.
-/

namespace Scrutiny.Word.Policy

/-- The largest length that a document can give. -/
def maxLength : Nat := 18446744073709551615

/-- The names of the fields of a policy, in order. -/
def fieldNames : List String :=
  ["separator_class", "blank_class", "min_length_for_blank", "blank_ratio_threshold"]

/-- The policy that a document denotes. -/
def ofDocument? (document : Document) : Option Policy := do
  let fields ← document.fields? fieldNames
  match fields with
  | [separator, blank, least, ratio] =>
    let default : Policy := {}
    let separator ← Document.fieldOr default.separatorClass Document.string? separator
    let blank ← Document.fieldOr default.blankClass Document.string? blank
    let least ← Document.fieldOr default.minLengthForBlank (Document.nat? maxLength) least
    let ratio ← Document.fieldOr default.blankRatioThreshold Document.float? ratio
    some ⟨separator, blank, least, ratio⟩
  | _ => none

/-- The document of a policy. -/
def toValue (policy : Policy) : Value :=
  .object [
    ("separator_class", .string policy.separatorClass),
    ("blank_class", .string policy.blankClass),
    ("min_length_for_blank", .number (.int policy.minLengthForBlank)),
    ("blank_ratio_threshold", .number (.float policy.blankRatioThreshold))]

end Scrutiny.Word.Policy
