import Scrutiny.Word.PolicyReader

/-! # Declared schemas

A schema as it is written down: names of scopes, a policy for banned words, messages, and the kinds
of entities. Nothing in it is resolved yet.
-/

namespace Scrutiny

/-- A kind of entities as it is written down. -/
structure EntityConfig where
  fields : List String := []
  labels : Entries String := []
  /-- The rules of each field, a rule being a list of its parts. -/
  rules : Entries (List (List Value)) := []
  /-- Fields that hold one entity, with the names of their kinds. -/
  one : Entries String := []
  /-- Fields that hold lists of entities. -/
  many : Entries String := []

/-- A schema as it is written down. -/
structure SchemaConfig where
  scopes : Entries Nat := []
  policy : Option Word.Policy := none
  messages : Entries String := []
  entities : Entries EntityConfig := []

/-- The largest number that a scope can have. -/
def maxScope : Nat := 4294967295

namespace EntityConfig

/-- The kind of entities that a document denotes. -/
def ofDocument? (document : Document) : Option EntityConfig := do
  let found ← document.fields? ["fields", "labels", "rules", "one", "many"]
  match found with
  | [fields, labels, rules, one, many] =>
    let texts := Document.entries? Document.string?
    let parts := Document.list? Document.value?
    let fields ← Document.fieldOr [] (Document.list? Document.string?) fields
    let labels ← Document.fieldOr [] texts labels
    let rules ← Document.fieldOr [] (Document.entries? (Document.list? parts)) rules
    let one ← Document.fieldOr [] texts one
    let many ← Document.fieldOr [] texts many
    some ⟨fields, labels, rules, one, many⟩
  | _ => none

/-- An object of texts. -/
def textsValue (texts : Entries String) : Value :=
  .object (texts.mapValues Value.string)

/-- The document of a kind of entities. -/
def toValue (entity : EntityConfig) : Value :=
  .object [
    ("fields", .list (entity.fields.map .string)),
    ("labels", textsValue entity.labels),
    ("rules", .object (entity.rules.mapValues fun rules => .list (rules.map .list))),
    ("one", textsValue entity.one),
    ("many", textsValue entity.many)]

end EntityConfig

namespace SchemaConfig

/-- The schema that a document denotes. -/
def ofDocument? (document : Document) : Option SchemaConfig := do
  let found ← document.fields? ["scopes", "policy", "messages", "entities"]
  match found with
  | [scopes, policy, messages, entities] =>
    let scopes ← Document.fieldOr [] (Document.entries? (Document.nat? maxScope)) scopes
    let policy ← Document.fieldOr none (Document.optional? Word.Policy.ofDocument?) policy
    let messages ← Document.fieldOr [] (Document.entries? Document.string?) messages
    let entities ← Document.fieldOr [] (Document.entries? EntityConfig.ofDocument?) entities
    some ⟨scopes, policy, messages, entities⟩
  | _ => none

/-- The document of a schema. -/
def toValue (config : SchemaConfig) : Value :=
  .object [
    ("scopes", .object (config.scopes.mapValues fun (value : Nat) => Value.number (.int value))),
    ("policy", match config.policy with
      | some policy => policy.toValue
      | none => .null),
    ("messages", EntityConfig.textsValue config.messages),
    ("entities", .object (config.entities.mapValues EntityConfig.toValue))]

end SchemaConfig

end Scrutiny
