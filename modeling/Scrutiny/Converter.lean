import Scrutiny.Value

/-! # Converters

A converter decides what is written into a field when an object is copied into an entity or an
entity into an object. Converters are built in layers: each layer answers for some fields and leaves
the others to the layer inside it.
-/

namespace Scrutiny

/-- What a converter looks at. -/
structure Binding where
  field : String
  /-- The object that is copied, at the level of the field. -/
  source : Entries Value
  /-- The path of the entity that the field belongs to, empty at the root. -/
  path : String
  /-- The source of the level above. -/
  parent : Option (Entries Value)
  /-- The value in the source, if there is one. -/
  candidate : Option Value
  /-- The value before. -/
  previous : Value

/-- Where the value of a field comes from, if not from the member of its own name. -/
inductive Origin where
  /-- The member of another name. -/
  | renamed (key : String)
  /-- Computed from the source; nothing keeps the value. -/
  | derived (compute : Entries Value → Option Value)

/-- A converter. -/
inductive Converter where
  /-- Takes what the source has, and keeps the value if it has nothing. -/
  | plain
  /-- Leaves the fields of some names alone, at all levels. -/
  | excluding (fields : List String) (inner : Converter)
  /-- Leaves all but the fields of some names alone, at the root; what is nested in such a field is
  copied whole. -/
  | including (fields : List String) (inner : Converter)
  /-- Takes some fields from elsewhere. -/
  | sourcing (origins : Entries Origin) (inner : Converter)
  /-- Answers for some bindings by itself, and enters every nested entity. -/
  | answering (answer : Binding → Option Value) (inner : Converter)
  /-- Notes what it is asked and what it answers. -/
  | noting (inner : Converter)
  deriving Inhabited

namespace Converter

/-- Whether the inner layer decides about a field under a list of names for the root. -/
def admits (fields : List String) (path field : String) : Bool :=
  !path.isEmpty || fields.contains field

/-- The binding that the inner layer sees when the member of another name is taken. -/
def rename (binding : Binding) (key : String) : Binding :=
  { binding with candidate := binding.source.get? key }

/-- The value of a field. -/
def convert : Converter → Binding → Value
  | plain, binding => binding.candidate.getD binding.previous
  | excluding fields inner, binding =>
    if fields.contains binding.field then binding.previous else inner.convert binding
  | including fields inner, binding =>
    if admits fields binding.path binding.field then inner.convert binding else binding.previous
  | sourcing origins inner, binding =>
    match origins.get? binding.field with
    | some (.renamed key) => inner.convert (rename binding key)
    | some (.derived compute) => (compute binding.source).getD binding.previous
    | none => inner.convert binding
  | answering answer inner, binding =>
    match answer binding with
    | some value => value
    | none => inner.convert binding
  | noting inner, binding => inner.convert binding

/-- Whether a field is entered: whether what is nested in it is copied, and whether it occurs in an
object at all. -/
def enters : Converter → String → String → Bool
  | plain, _, _ => true
  | excluding fields inner, path, field => !fields.contains field && inner.enters path field
  | including fields inner, path, field => admits fields path field && inner.enters path field
  | sourcing _ inner, path, field => inner.enters path field
  | answering _ _, _, _ => true
  | noting inner, path, field => inner.enters path field

/-- What a noting layer was asked and what it answered. -/
inductive Note where
  | converted (binding : Binding) (value : Value)
  | entered (path field : String) (parent : Option (Entries Value)) (answer : Bool)

/-- The notes taken while a value is found, in order. -/
def notesOfConvert : Converter → Binding → List Note
  | plain, _ => []
  | excluding fields inner, binding =>
    if fields.contains binding.field then [] else inner.notesOfConvert binding
  | including fields inner, binding =>
    if admits fields binding.path binding.field then inner.notesOfConvert binding else []
  | sourcing origins inner, binding =>
    match origins.get? binding.field with
    | some (.renamed key) => inner.notesOfConvert (rename binding key)
    | some (.derived _) => []
    | none => inner.notesOfConvert binding
  | answering answer inner, binding =>
    match answer binding with
    | some _ => []
    | none => inner.notesOfConvert binding
  | noting inner, binding =>
    inner.notesOfConvert binding ++ [.converted binding (inner.convert binding)]

/-- The notes taken while it is decided whether a field is entered, in order. -/
def notesOfEnters (parent : Option (Entries Value)) : Converter → String → String → List Note
  | plain, _, _ => []
  | excluding fields inner, path, field =>
    if fields.contains field then [] else inner.notesOfEnters parent path field
  | including fields inner, path, field =>
    if admits fields path field then inner.notesOfEnters parent path field else []
  | sourcing _ inner, path, field => inner.notesOfEnters parent path field
  | answering _ _, _, _ => []
  | noting inner, path, field =>
    inner.notesOfEnters parent path field ++
      [.entered path field parent (inner.enters path field)]

end Converter

end Scrutiny
