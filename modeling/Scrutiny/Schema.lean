import Scrutiny.Schema.Config
import Scrutiny.Shape

/-! # Schemas

Building a schema defines its scope names and messages and resolves its kinds of entities, each
after the kinds that are nested in it. A kind that contains itself, at whatever depth, cannot be
built.
-/

namespace Scrutiny

/-- A built schema. Its shapes stand in the order in which they were resolved. -/
structure Schema where
  names : ScopeNames
  shapes : Entries Shape
  messages : Messages

namespace SchemaConfig

/-- What a resolution needs to know. -/
structure Resolution where
  entities : Entries EntityConfig
  registry : Registry
  names : ScopeNames

namespace Resolution

/-- The declared rules of a field from a position on. -/
def rulesOf (names : ScopeNames) (field : String) :
    Nat → List (List Value) → Except DeclarationError (List RuleDecl)
  | _, [] => .ok []
  | index, parts :: rest => do
    let rule ← RuleDecl.ofValues field index names parts
    let others ← rulesOf names field (index + 1) rest
    .ok (rule :: others)

/-- Add the rules of several fields to a shape. -/
def addRules (names : ScopeNames) (decl : ShapeDecl) :
    Entries (List (List Value)) → Except DeclarationError ShapeDecl
  | [] => .ok decl
  | (field, parts) :: rest => do
    let rules ← rulesOf names field 0 parts
    let decl := if rules.isEmpty then decl else decl.addRules field rules
    addRules names decl rest

/-- Add nested entities to a shape. `shapeOf` finds the shape of a kind among those that have been
resolved, or resolves it. -/
def addNested (shapeOf : Entries Shape → String → Except DeclarationError (Shape × Entries Shape))
    (nesting : Nesting) :
    Entries String → ShapeDecl → Entries Shape → Except DeclarationError (ShapeDecl × Entries Shape)
  | [], decl, shapes => .ok (decl, shapes)
  | (field, target) :: rest, decl, shapes => do
    let (shape, shapes) ← shapeOf shapes target
    addNested shapeOf nesting rest (decl.nest field nesting shape) shapes

/-- The shape of a kind: one that has been resolved, or a new one, which joins the others. The kinds
being resolved may not occur again. -/
def resolve (resolution : Resolution) :
    Nat → List String → Entries Shape → String → Except DeclarationError (Shape × Entries Shape)
  | 0, _, _, name => .error (.cyclicShape name)
  | depth + 1, underWay, shapes, name =>
    match shapes.get? name with
    | some shape => .ok (shape, shapes)
    | none =>
      if underWay.contains name then .error (.cyclicShape name)
      else
        match resolution.entities.get? name with
        | none => .error (.undeclaredEntity name)
        | some entity => do
          let shapeOf (shapes : Entries Shape) (target : String) :=
            if resolution.entities.has target then
              resolve resolution depth (name :: underWay) shapes target
            else .error (.unknownEntity name target)
          let decl : ShapeDecl := { name := name, fields := entity.fields, labels := entity.labels }
          let decl ← addRules resolution.names decl entity.rules
          let (decl, shapes) ← addNested shapeOf .one entity.one decl shapes
          let (decl, shapes) ← addNested shapeOf .many entity.many decl shapes
          let shape ← decl.build resolution.registry
          .ok (shape, shapes.put name shape)

/-- Resolve several kinds in turn. -/
def resolveAll (resolution : Resolution) :
    List String → Entries Shape → Except DeclarationError (Entries Shape)
  | [], shapes => .ok shapes
  | name :: rest, shapes => do
    let (_, shapes) ← resolution.resolve (resolution.entities.length + 1) [] shapes name
    resolveAll resolution rest shapes

end Resolution

/-- Build a schema with the checks of a registry. -/
def buildWith (config : SchemaConfig) (registry : Registry) : Except DeclarationError Schema := do
  let names ← ScopeNames.standard.defineAll config.scopes
  let messages ← Messages.standard.setAll config.messages
  let shapes ← Resolution.resolveAll ⟨config.entities, registry, names⟩ config.entities.keys []
  .ok ⟨names, shapes, messages⟩

/-- The registry that a schema asks for: the built-in checks under its policy. -/
def registry (config : SchemaConfig) : Except DeclarationError Registry :=
  match config.policy with
  | some policy => Registry.ofPolicy policy
  | none => .ok (Registry.standard {})

/-- Build a schema with the built-in checks. -/
def build (config : SchemaConfig) : Except DeclarationError Schema := do
  config.buildWith (← config.registry)

end SchemaConfig

namespace Schema

/-- The names of the kinds of entities. -/
def entityNames (schema : Schema) : List String :=
  schema.shapes.keys

/-- The shape of a kind. -/
def shape (schema : Schema) (entity : String) : Except DeclarationError Shape :=
  match schema.shapes.get? entity with
  | some shape => .ok shape
  | none => .error (.undeclaredEntity entity)

end Schema

end Scrutiny
