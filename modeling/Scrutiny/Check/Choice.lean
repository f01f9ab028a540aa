import Scrutiny.Check.Procedure

/-! # Comparison

Checks that compare a value with other values. A number or a truth value and its text are the same
to them.
-/

namespace Scrutiny.Check

/-- The value is that of another field. -/
def sameAs : Procedure :=
  .plain "same_as" (.exactly 1) (firstIs "a field name" asFieldName) fun input args =>
    match args.head?.bind Value.text? with
    | none => .ok .pass
    | some other =>
      input.require (input.value.isBlank || input.value.looselySame (input.sibling other)) "same_as"
        [("other", .string (input.labelOf other))]

/-- The value is one of the arguments. -/
def oneOf : Procedure :=
  .plain "one_of" (.atLeast 1) anything fun input args =>
    let isChoice := args.any fun choice => choice.looselySame input.value
    input.require (input.value.isBlank || isChoice) "one_of"
      [("choices", .string (String.intercalate ", " (args.map Value.display)))]

end Scrutiny.Check
