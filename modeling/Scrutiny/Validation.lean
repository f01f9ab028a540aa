import Scrutiny.Populate
import Scrutiny.Schema
import Scrutiny.Walk

/-! # Validating documents

The whole way of a document: a record of the entity's shape is made, the document is copied into it,
and the record is validated.
-/

namespace Scrutiny

/-- Why a document gets no report. -/
inductive Rejection where
  /-- The scope or the entity is not declared. -/
  | declaration (cause : DeclarationError)
  /-- The document does not fit the entity. -/
  | binding (entity : String) (cause : BindError)
  /-- The validation failed. -/
  | failure (cause : Failure)

/-- What is said of a document without a report. -/
def Rejection.message : Rejection → String
  | declaration cause => cause.message
  | binding entity cause =>
    "Failed to bind input to entity '" ++ entity ++ "': " ++ cause.message
  | failure cause => cause.message

/-- Validate a document as an entity for the operations that an expression names. -/
def Schema.validate (schema : Schema) (entity scope : String) (document : Value) :
    Except Rejection Report := do
  let scope ← (schema.names.parseScope scope).mapError .declaration
  let shape ← (schema.shape entity).mapError .declaration
  let copied := populate .record .plain (Entity.fresh shape) document
  match copied.failure with
  | some cause => .error (.binding entity cause)
  | none =>
    (Scrutiny.validate .record schema.messages scope .empty copied.result).outcome.mapError .failure

/-- The document of a report. -/
def Report.toValue (report : Report) : Value :=
  .object [
    ("valid", .bool report.isValid),
    ("aborted", .bool report.aborted),
    ("errors", report.errors.toValue)]

end Scrutiny
