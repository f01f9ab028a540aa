/-! # The words of a structured text

A text is cut into marks of structure and scalars. Marks that are not written but follow from the
indentation of lines are words too.
-/

namespace Scrutiny.Yaml

/-- A word of a text. -/
inductive Token where
  /-- A line that names the version of the language. -/
  | version (major minor : Nat)
  /-- A line that lays down what a handle of tags stands for. -/
  | handle (name value : String)
  | documentStart | documentEnd
  | blockListStart | blockMapStart | blockEnd
  | flowListStart | flowListEnd | flowMapStart | flowMapEnd
  /-- The dash before an item of a list. -/
  | entry
  /-- The comma between the items of a bracketed list or mapping. -/
  | comma
  /-- What follows is the key of a mapping. -/
  | key
  /-- What follows is the value of a mapping. -/
  | value
  /-- The name of a node given elsewhere. -/
  | reference (name : String)
  /-- The name of the node that follows. -/
  | anchor (name : String)
  /-- The tag of the node that follows; an empty handle stands before a tag written in full. -/
  | tag (handle suffix : String)
  | scalar (text : String) (plain : Bool)
  deriving Inhabited, BEq

end Scrutiny.Yaml
