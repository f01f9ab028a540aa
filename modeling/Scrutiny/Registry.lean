import Scrutiny.Check.Choice
import Scrutiny.Check.Form
import Scrutiny.Check.Presence
import Scrutiny.Check.Size
import Scrutiny.Check.Words
import Scrutiny.Rule

/-! # Registries of checks

Rules refer to checks by name. A registry gives a name its check and resolves declared rules.
-/

namespace Scrutiny

/-- Checks by name. -/
structure Registry where
  checks : Entries Check

namespace Registry

/-- No check. -/
def empty : Registry := ⟨[]⟩

/-- Give a name to a check; a later check replaces an earlier one. -/
def register (registry : Registry) (name : String) (check : Check) : Registry :=
  ⟨registry.checks.put name check⟩

/-- The procedures of the built-in checks, with a policy for banned words. -/
def procedures (policy : Word.Policy) : Entries Procedure := [
  ("required", Check.required),
  ("required_if", Check.requiredIf),
  ("same_as", Check.sameAs),
  ("min_length", Check.minLength),
  ("max_length", Check.maxLength),
  ("min", Check.min),
  ("max", Check.max),
  ("integer", Check.integer),
  ("number", Check.number),
  ("one_of", Check.oneOf),
  ("email", Check.email),
  ("datetime", Check.datetime),
  ("abort_if", Check.abortIf),
  ("abort_if_blank", Check.abortIfBlank),
  ("regex", Check.regex),
  ("banned_words", Check.bannedWords policy)]

/-- The built-in checks, with a policy for banned words. -/
def standard (policy : Word.Policy) : Registry where
  checks := (procedures policy).mapValues Procedure.toCheck

/-- The built-in checks with a policy that is checked first. -/
def ofPolicy (policy : Word.Policy) : Except DeclarationError Registry := do
  policy.validate.mapError DeclarationError.word
  .ok (standard policy)

/-- Whether there is a check of a name. -/
def has (registry : Registry) (name : String) : Bool :=
  registry.checks.has name

/-- The names of the checks in alphabetical order. -/
def names (registry : Registry) : List String :=
  registry.checks.keys.mergeSort fun left right => !decide (right < left)

/-- A registry in words. -/
def describe (registry : Registry) : String :=
  "CheckRegistry \x7b checks: [" ++ String.intercalate ", " (registry.names.map Text.quoted) ++
    "] \x7d"

/-- Resolve a rule for a field: the rule names an operation, its check is known, and the arguments
are right for it. -/
def resolve (registry : Registry) (field : String) (decl : RuleDecl) :
    Except DeclarationError Rule :=
  if decl.scope.isEmpty then .error (.emptyScope field decl.check)
  else
    match registry.checks.get? decl.check with
    | none => .error (.unknownCheck field decl.check)
    | some check =>
      match check.prepare decl.args with
      | .error error => .error error
      | .ok test => .ok ⟨decl, test⟩

end Registry

end Scrutiny
