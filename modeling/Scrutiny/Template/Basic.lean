import Scrutiny.Template.Located

/-! # Message templates

A template is text with tags: values that are looked up by a path, and blocks that depend on a
value, name one, or repeat for the elements of a list.
-/

namespace Scrutiny

namespace Template

/-- The steps from a value to one inside it. The first step may be a keyword. -/
structure Path where
  first : Located
  rest : List Located
  deriving Repr, DecidableEq, Inhabited

namespace Path

/-- All steps. -/
def steps (path : Path) : List Located :=
  path.first :: path.rest

/-- Steps as they are written. -/
def render (steps : List Located) : String :=
  String.intercalate "." (steps.map Located.text)

/-- The place of the last step. -/
def lastPlace (path : Path) : Place :=
  ((path.rest.getLast?).getD path.first).place

/-- Whether a path is a keyword. -/
def isKeyword (path : Path) : Bool :=
  path.first.startsWith ['@']

end Path

/-- A part of a template. -/
inductive Node where
  | text (chars : List Char)
  /-- A value, written plainly. -/
  | value (path : Path)
  /-- A value written by the formatter of a name. -/
  | formatted (path : Path) (formatter : Located)
  /-- Segments between the parts of an `if` block. They belong in turn to the case that holds and
  to the one that does not. -/
  | branch (path : Path) (negated : Bool) (segments : List (List Node))
  /-- A block in which a value has a name. -/
  | scope (path : Path) (name : String) (body : List Node)
  /-- A block for each element of a list. -/
  | each (path : Path) (name : String) (body : List Node)
  /-- The template of a name, written for a value. -/
  | call (name : Located) (path : Path)
  deriving Inhabited

mutual

/-- A part without white space at the end of its last text. Only a text and the last segment of an
`if` block have such an end; every other part ends in something else. -/
def Node.trimEnd : Node → Node
  | .text chars => .text (chars.reverse.dropWhile Text.isWhiteSpace).reverse
  | .branch path negated segments => .branch path negated (trimLastSegment segments)
  | node => node

/-- Parts without white space at the end of their last text. -/
def trimLastNode : List Node → List Node
  | [] => []
  | [node] => [node.trimEnd]
  | node :: next :: rest => node :: trimLastNode (next :: rest)

/-- Segments without white space at the end of the last one. -/
def trimLastSegment : List (List Node) → List (List Node)
  | [] => []
  | [segment] => [trimLastNode segment]
  | segment :: next :: rest => segment :: trimLastSegment (next :: rest)

end

/-- Why a text is no template. -/
inductive ReadFault where
  /-- A tag is not closed on its line. -/
  | unclosedTag (place : Place) (close : String)
  | unknownBlock (word : Located)
  /-- Something follows a word that stands alone. -/
  | unexpected (text : Located)
  | unknownKeyword (text : Located)
  /-- A block has no end. -/
  | unclosedBlock (word : Located)
  | strayBranch (word : Located)
  | strayEach (word : Located)
  | strayScope (word : Located)
  | scopeForm (text : Located)
  | eachForm (text : Located)
  | callForm (text : Located)
  /-- A tag or an escape breaks off before what it must hold. -/
  | brokenOff

/-- The place and the reason of a fault, if it has them. -/
def ReadFault.detail? : ReadFault → Option (Place × String)
  | unclosedTag place close =>
    some (place, "Expected a closing '" ++ close ++ "' but found end-of-line instead.")
  | unknownBlock word => some (word.place, "Unknown block type '" ++ word.text ++ "'")
  | unexpected text => some (text.place, "Unexpected text '" ++ text.text ++ "'")
  | unknownKeyword text => some (text.place, "Invalid keyword name '" ++ text.text ++ "'")
  | unclosedBlock word =>
    some (word.place, "Expected block-closing tag, but reached the end of input.")
  | strayBranch word =>
    some (word.place, "Found a closing endif or else which doesn't match with a preceding if.")
  | strayEach word =>
    some (word.place, "Found a closing endfor which doesn't match with a preceding for.")
  | strayScope word =>
    some (word.place, "Found a closing endwith that doesn't match with a preceeding with.")
  | scopeForm text =>
    some (text.place,
      "Expected 'as <path>' in with block, but found \"" ++ text.text ++ "\" instead")
  | eachForm text => some (text.place, "Unable to parse for block text '" ++ text.text ++ "'")
  | callForm text => some (text.place, "Unable to parse call block text '" ++ text.text ++ "'")
  | brokenOff => none

/-- A place in words. -/
def Place.render (place : Place) : String :=
  "line " ++ toString place.line ++ ", column " ++ toString place.column

/-- What is said of a text that is no template. -/
def ReadFault.message (fault : ReadFault) : String :=
  match fault.detail? with
  | some (place, reason) =>
    "Failed to parse the template (" ++ place.render ++ "). Reason: " ++ reason
  | none => "Failed to parse the template."

end Template

/-- A template: its parts in order. -/
structure Template where
  nodes : List Template.Node
  deriving Inhabited

end Scrutiny
