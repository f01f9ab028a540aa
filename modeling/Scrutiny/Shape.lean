import Scrutiny.Registry

/-! # Shapes

A shape says what entities of a kind consist of: their fields with labels, the rules of each field,
and the entities nested in them. A shape is declared first; building it resolves its rules.
-/

namespace Scrutiny

/-- How many entities a field holds. -/
inductive Nesting where
  | one | many
  deriving Repr, DecidableEq, Inhabited

/-- A field that holds entities of a shape. -/
structure Nested (σ : Type) where
  field : String
  nesting : Nesting
  shape : σ

/-- A shape whose rules are resolved. -/
structure Shape where
  name : String
  /-- The fields that hold values. -/
  fields : List String
  labels : Entries String
  /-- The rules of each field. There may be rules for a field that is not declared. -/
  rules : Entries (List Rule)
  nested : List (Nested Shape)

/-- A declaration of a shape. -/
structure ShapeDecl where
  name : String
  fields : List String := []
  labels : Entries String := []
  rules : Entries (List RuleDecl) := []
  nested : List (Nested Shape) := []

namespace Shape

/-- The label of a field, which is its name if it has no other. -/
def label (shape : Shape) (field : String) : String :=
  (shape.labels.get? field).getD field

/-- The rules of a field. -/
def rulesFor (shape : Shape) (field : String) : List Rule :=
  (shape.rules.get? field).getD []

/-- Whether a field holds a value or has rules. -/
def hasField (shape : Shape) (field : String) : Bool :=
  shape.fields.contains field || shape.rules.has field

/-- The declaration of the entities that a field holds. -/
def nested? (shape : Shape) (field : String) : Option (Nested Shape) :=
  shape.nested.find? fun nested => nested.field == field

/-- The fields whose values nested entities can look at: those declared, and then those that only
have rules. -/
def visibleFields (shape : Shape) : List String :=
  shape.fields ++ shape.rules.keys.filter fun key => !shape.fields.contains key

end Shape

namespace ShapeDecl

/-- Add a field. -/
def field (decl : ShapeDecl) (name : String) : ShapeDecl :=
  { decl with fields := decl.fields ++ [name] }

/-- Give a field a label. -/
def label (decl : ShapeDecl) (field label : String) : ShapeDecl :=
  { decl with labels := decl.labels.put field label }

/-- Add rules at the end of the list of a field. -/
def addRules (decl : ShapeDecl) (field : String) (rules : List RuleDecl) : ShapeDecl :=
  { decl with rules := decl.rules.put field ((decl.rules.get? field).getD [] ++ rules) }

/-- Let a field hold entities. -/
def nest (decl : ShapeDecl) (field : String) (nesting : Nesting) (shape : Shape) : ShapeDecl :=
  { decl with nested := decl.nested ++ [⟨field, nesting, shape⟩] }

/-- The first name that occurs a second time. -/
def repeated? (seen : List String) : List String → Option String
  | [] => none
  | name :: rest => if seen.contains name then some name else repeated? (name :: seen) rest

/-- Resolve the rules of several fields in order. -/
def resolveRules (registry : Registry) :
    Entries (List RuleDecl) → Except DeclarationError (Entries (List Rule))
  | [] => .ok []
  | (field, decls) :: rest => do
    let rules ← decls.mapM (registry.resolve field)
    let others ← resolveRules registry rest
    .ok ((field, rules) :: others)

/-- Build a shape: no name is declared twice, and every rule can be resolved. -/
def build (decl : ShapeDecl) (registry : Registry) : Except DeclarationError Shape :=
  match repeated? [] (decl.fields ++ decl.nested.map Nested.field) with
  | some field => .error (.duplicateField decl.name field)
  | none =>
    match resolveRules registry decl.rules with
    | .error error => .error error
    | .ok rules => .ok ⟨decl.name, decl.fields, decl.labels, rules, decl.nested⟩

end ShapeDecl

end Scrutiny
