import Scrutiny.Described
import Scrutiny.Messages
import Scrutiny.Outcome
import Scrutiny.Scope

/-! # Checks

A check is given its arguments when a rule is resolved, and comes to a test. A test looks at one
value: the field it stands in, the other fields of the entity, and the entities around that one.
-/

namespace Scrutiny

/-- The values of an entity when its nested entities were entered. -/
structure Snapshot where
  /-- The name of the entity's shape. -/
  entity : String
  values : Entries Value

/-- The value of a field, null if the field is unknown. -/
def Snapshot.get (snapshot : Snapshot) (field : String) : Value :=
  (snapshot.values.get? field).getD .null

/-- What a test may look at. -/
structure CheckInput where
  field : String
  label : String
  value : Value
  /-- The operations that are under way. -/
  scope : Scope
  /-- The values of the entity's fields. -/
  sibling : String → Value
  labelOf : String → String
  /-- The entities around this one, outermost first. -/
  lineage : List Snapshot
  messages : Messages

/-- Why a validation fails to give a report. -/
inductive Failure where
  /-- A declaration turns out to be wrong. -/
  | declaration (cause : DeclarationError)
  /-- A check, a hook or a setter says that it cannot go on, or breaks off. -/
  | raised (message : String)

/-- What is said of a failure. -/
def Failure.message : Failure → String
  | declaration cause => cause.message
  | raised message => message

/-- A check that has its arguments. -/
abbrev Test := CheckInput → Except Failure Outcome

/-- A check: which arguments it takes, and the test it is with them. -/
structure Check where
  prepare : List Value → Except DeclarationError Test

namespace CheckInput

/-- The entity directly around this one. -/
def parent? (input : CheckInput) : Option Snapshot :=
  input.lineage.getLast?

/-- The entities around this one, innermost first. -/
def ancestors (input : CheckInput) : List Snapshot :=
  input.lineage.reverse

/-- Add a member to the parameters of a message unless there is one of that name. -/
def withDefault (params : Entries Value) (name : String) (value : Value) : Entries Value :=
  if params.has name then params else params.put name value

/-- The message of a name. Its parameters are those given, and the label, the name and the content
of the field. -/
def message (input : CheckInput) (name : String) (params : Entries Value) :
    Except Failure String :=
  let params := withDefault params "label" (.string input.label)
  let params := withDefault params "field" (.string input.field)
  let params := withDefault params "value" (.string input.value.display)
  (input.messages.render name (.object params)).mapError .declaration

/-- Refuse a value with the message of a name. -/
def refuse (input : CheckInput) (name : String) (params : Entries Value) :
    Except Failure Outcome :=
  (input.message name params).map Outcome.error

/-- Let a value pass if a condition holds, and refuse it otherwise. -/
def require (input : CheckInput) (condition : Bool) (name : String) (params : Entries Value) :
    Except Failure Outcome :=
  if condition then .ok .pass else input.refuse name params

end CheckInput

end Scrutiny
