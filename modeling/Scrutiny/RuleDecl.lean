import Scrutiny.Json.Printer
import Scrutiny.ScopeNames

/-! # Rule declarations

A rule names its check and says which arguments it gets, for which operations it holds and when it
ends its list. In a document a rule is a list: the name, the flags and the arguments.
-/

namespace Scrutiny

/-- A declared rule. -/
structure RuleDecl where
  check : String
  args : List Value
  scope : Scope
  control : Control

namespace RuleDecl

/-- The rule that a list of values declares; field and position serve messages alone. -/
def ofValues (field : String) (index : Nat) (names : ScopeNames) :
    List Value → Except DeclarationError RuleDecl
  | check :: flags :: args =>
    match check, flags with
    | .string check, .string expression =>
      match names.parseFlags expression with
      | .ok (scope, control) => .ok ⟨check, args, scope, control⟩
      | .error error => .error error
    | .string _, other => .error (.unknownFlag (Json.compact other))
    | _, _ => .error (.ruleCheckId field index)
  | parts => .error (.ruleArity field index parts.length)

end RuleDecl

end Scrutiny
