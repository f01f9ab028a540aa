import Scrutiny.Messages

/-! # Templates of text and plain variables

A template without blocks, formatters and keywords that looks its values up by single names can be
written for every object that has these names, each with a value that can be printed
(`Template.write_of_wants`). The messages of the built-in checks are such templates, and the names
that they look up are known (`Messages.wants?_standard`).
-/

namespace Scrutiny

namespace Template

/-- The names that a part looks up, if it is text or the value of a single name. -/
def Node.wants? : Node → Option (List String)
  | .text _ => some []
  | .value path =>
    if path.isKeyword || !path.rest.isEmpty then none else some [path.first.text]
  | _ => none

def nodesWant? : List Node → Option (List String)
  | [] => some []
  | node :: rest =>
    match node.wants?, nodesWant? rest with
    | some names, some others => some (names ++ others)
    | _, _ => none

end Template

/-- The names that a template looks up, if it consists of text and plain variables. -/
def Template.wants? (template : Template) : Option (List String) :=
  Template.nodesWant? template.nodes

/-- The names that the template of a name looks up. -/
def Messages.wants? (messages : Messages) (name : String) : Option (List String) :=
  (messages.templates.get? name).bind Template.wants?

/-- An object has a value under a name that can be printed. -/
def Template.Shows (members : Entries Value) (name : String) : Prop :=
  ∃ value text, members.get? name = some value ∧ Template.printed value = .ok text

namespace Template

variable {members : Entries Value}

/-- A part of a template is written where what it wants is there and can be printed. -/
theorem writeNode_of_wants (self : String × (Value → Except WriteFault String)) {node : Node}
    {names : List String} (wants : node.wants? = some names)
    (shows : ∀ name ∈ names, Shows members name) :
    ∃ text, writeNode self node ⟨.object members, []⟩ = .ok text := by
  cases node with
  | text chars => exact ⟨String.ofList chars, by rw [writeNode]⟩
  | value path =>
    obtain ⟨first, rest⟩ := path
    simp only [Node.wants?] at wants
    split at wants
    · exact absurd wants (by simp)
    next plain =>
    obtain rfl := Option.some.inj wants
    obtain ⟨keyword, rfl⟩ : Path.isKeyword ⟨first, rest⟩ = false ∧ rest = [] := by
      simpa using plain
    obtain ⟨value, text, found, prints⟩ := shows first.text List.mem_cons_self
    have looked : Surroundings.valueOf ⟨.object members, []⟩ ⟨first, []⟩ = .ok value := by
      simp [Surroundings.valueOf, keyword, Surroundings.lookup, Path.steps, follow, step?, element?,
        Value.member?, found]
    refine ⟨text, ?_⟩
    rw [writeNode, looked]
    exact prints
  | formatted => exact absurd wants (by simp [Node.wants?])
  | branch => exact absurd wants (by simp [Node.wants?])
  | scope => exact absurd wants (by simp [Node.wants?])
  | each => exact absurd wants (by simp [Node.wants?])
  | call => exact absurd wants (by simp [Node.wants?])

theorem writeNodes_of_wants (self : String × (Value → Except WriteFault String)) {nodes : List Node}
    {names : List String} (wants : nodesWant? nodes = some names)
    (shows : ∀ name ∈ names, Shows members name) :
    ∃ text, writeNodes self nodes ⟨.object members, []⟩ = .ok text := by
  induction nodes generalizing names with
  | nil => exact ⟨"", by rw [writeNodes]⟩
  | cons node rest ih =>
    simp only [nodesWant?] at wants
    split at wants
    · next own others here later =>
      obtain rfl := Option.some.inj wants
      obtain ⟨first, written⟩ := writeNode_of_wants self here fun name member =>
        shows name (List.mem_append_left _ member)
      obtain ⟨second, further⟩ := ih later fun name member =>
        shows name (List.mem_append_right _ member)
      refine ⟨first ++ second, ?_⟩
      rw [writeNodes, written, further]
      rfl
    · exact absurd wants (by simp)

/-- A template of text and plain variables can be written for an object that has the variables. -/
theorem write_of_wants (self : String) {template : Template} {names : List String}
    (wants : template.wants? = some names) (shows : ∀ name ∈ names, Shows members name) :
    ∃ text, template.write self (.object members) = .ok text := by
  rw [write, height, writeWithin]
  exact writeNodes_of_wants _ wants shows

end Template

/-- A message whose template looks up plain variables can be made for an object that has them. -/
theorem Messages.render_of_wants {messages : Messages} {name : String} {names : List String}
    {members : Entries Value} (wants : messages.wants? name = some names)
    (shows : ∀ name ∈ names, Template.Shows members name) :
    ∃ text, messages.render name (.object members) = .ok text := by
  obtain ⟨template, found, plain⟩ := Option.bind_eq_some_iff.mp wants
  obtain ⟨text, written⟩ := Template.write_of_wants name plain shows
  refine ⟨text, ?_⟩
  simp only [render, found, written]
  rfl

/-- The names that the messages of the built-in checks look up. -/
def Messages.standardVariables : Entries (List String) := [
  ("required", ["label"]),
  ("required_if", ["label", "other", "expected"]),
  ("same_as", ["label", "other"]),
  ("min_length", ["label", "min"]),
  ("max_length", ["label", "max"]),
  ("min", ["label", "min"]),
  ("max", ["label", "max"]),
  ("integer", ["label"]),
  ("number", ["label"]),
  ("one_of", ["label", "choices"]),
  ("regex", ["label"]),
  ("email", ["label"]),
  ("datetime", ["label"]),
  ("banned_words", ["label", "word"])]

/-- The messages of the catalog want the variables that are listed for them. -/
theorem Messages.wants?_standard (name : String) :
    standard.wants? name = standardVariables.get? name := by
  have read : standard.templates.mapValues Template.wants? = standardVariables.mapValues some := by
    decide +kernel
  have found := congrArg (Entries.get? · name) read
  simp only [Entries.get?_mapValues] at found
  calc standard.wants? name
      = ((standard.templates.get? name).map Template.wants?).bind id := by
        rw [Option.bind_map]
        rfl
    _ = ((standardVariables.get? name).map some).bind id := by rw [found]
    _ = standardVariables.get? name := by
        rw [Option.bind_map]
        exact Option.bind_fun_some _

end Scrutiny
