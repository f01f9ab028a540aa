import Scrutiny.Word.Policy

/-! # Mistakes in declarations

What can be wrong with the declaration of a scope, a rule, a shape, a schema or a message template.
Such a mistake is raised when the declaration is read or resolved and is never a validation message.
-/

namespace Scrutiny

/-- A mistake in a declaration. -/
inductive DeclarationError where
  /-- A rule with fewer parts than a check and a scope. -/
  | ruleArity (field : String) (index count : Nat)
  /-- A rule that does not begin with the name of a check. -/
  | ruleCheckId (field : String) (index : Nat)
  | unknownCheck (field check : String)
  | unknownFlag (flag : String)
  | emptyScope (field check : String)
  | scopeNotSingleBit (name : String) (value : Nat)
  | reservedScope (name : String)
  | scopeBitTaken (name : String) (value : Nat) (takenBy : String)
  | invalidArgs (check reason : String)
  /-- An entity that refers to one that is not declared. -/
  | unknownEntity (entity target : String)
  | undeclaredEntity (entity : String)
  | cyclicShape (entity : String)
  | duplicateField (entity field : String)
  | invalidTemplate (name reason : String)
  /-- A message template that breaks off inside a tag or an escape. -/
  | brokenTemplate (name : String)
  | missingTemplate (name : String)
  /-- A banned word or its policy cannot be used. -/
  | word (cause : Word.WordError)

/-- What is said of a mistake in a declaration. -/
def DeclarationError.message : DeclarationError → String
  | ruleArity field index count =>
    "Rule #" ++ toString index ++ " for field '" ++ field ++ "' has " ++ toString count ++
      " element(s); a check id and a scope are required"
  | ruleCheckId field index =>
    "Rule #" ++ toString index ++ " for field '" ++ field ++ "' must start with a check id string"
  | unknownCheck field check =>
    "Unknown check '" ++ check ++ "' declared for field '" ++ field ++ "'"
  | unknownFlag flag => "Unknown scope or control flag '" ++ flag ++ "'"
  | emptyScope field check =>
    "Rule '" ++ check ++ "' for field '" ++ field ++ "' does not name any scope"
  | scopeNotSingleBit name value =>
    "Scope '" ++ name ++ "' has value " ++ toString value ++ ", which is not a single power of two"
  | reservedScope name =>
    "Scope '" ++ name ++ "' collides with a built-in scope or control flag name"
  | scopeBitTaken name value takenBy =>
    "Scope '" ++ name ++ "' reuses bit value " ++ toString value ++ " already taken by scope '" ++
      takenBy ++ "'"
  | invalidArgs check reason => "Check '" ++ check ++ "' received invalid arguments: " ++ reason
  | unknownEntity entity target =>
    "Entity '" ++ entity ++ "' references unknown entity '" ++ target ++ "'"
  | undeclaredEntity entity => "Entity '" ++ entity ++ "' is not declared in the schema"
  | cyclicShape entity => "Entity '" ++ entity ++ "' is part of a reference cycle"
  | duplicateField entity field =>
    "Entity '" ++ entity ++ "' declares field '" ++ field ++ "' more than once"
  | invalidTemplate name reason => "Message template '" ++ name ++ "' is invalid: " ++ reason
  | brokenTemplate name => "Message template '" ++ name ++ "' breaks off"
  | missingTemplate name => "No message template is registered for '" ++ name ++ "'"
  | word cause => cause.message

end Scrutiny
