import Scrutiny.Check.Procedure

/-! # Presence

Checks that ask whether a value is there. The checks of other modules let a blank value pass, so a
field is optional unless one of these requires it.
-/

namespace Scrutiny.Check

/-- The value is not blank. -/
def required : Procedure :=
  .plain "required" (.exactly 0) anything fun input _ =>
    input.require (!input.value.isBlank) "required" []

/-- The value is not blank if another field has one of the expected values. -/
def requiredIf : Procedure :=
  .plain "required_if" (.atLeast 2) (firstIs "a field name" asFieldName) fun input args =>
    match args.head?.bind Value.text? with
    | none => .ok .pass
    | some other =>
      if !input.value.isBlank then .ok .pass
      else do
        let actual := input.sibling other
        let choices ← argumentsFrom args 1
        let isExpected := choices.any fun expected => expected.looselySame actual
        input.require (!isExpected) "required_if"
          [("other", .string (input.labelOf other)), ("expected", .string actual.display)]

/-- The whole validation ends if the value is one of the arguments. -/
def abortIf : Procedure :=
  .plain "abort_if" (.atLeast 1) anything fun input args =>
    .ok (if args.any fun value => value.looselySame input.value then .abort else .pass)

/-- The whole validation ends if the value is blank. -/
def abortIfBlank : Procedure :=
  .plain "abort_if_blank" (.exactly 0) anything fun input _ =>
    .ok (if input.value.isBlank then .abort else .pass)

end Scrutiny.Check
