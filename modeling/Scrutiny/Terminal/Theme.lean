import Scrutiny.Document
import Scrutiny.Terminal.Color

/-! # Themes

A theme gives a colour to each element of what is shown. A document names the elements it changes;
the others keep the colours they have without a theme.
-/

namespace Scrutiny.Terminal

/-- An element of what is shown. -/
inductive Element where
  | header | success | info | warning | error
  /-- The place of an error. -/
  | fieldKey
  /-- The fragment of a text that a word matched. -/
  | fragment
  deriving Repr, DecidableEq

namespace Element

/-- The elements. -/
def all : List Element :=
  [header, success, info, warning, error, fieldKey, fragment]

/-- The name of an element in documents. -/
def name : Element → String
  | header => "header"
  | success => "success"
  | info => "info"
  | warning => "warn"
  | error => "error"
  | fieldKey => "field_key"
  | fragment => "match"

/-- The element of a name. -/
def ofName? (name : String) : Option Element :=
  all.find? fun element => element.name == name

/-- The colour of an element without a theme. -/
def color : Element → Color
  | header => ⟨.white, true⟩
  | success => ⟨.green, false⟩
  | info => ⟨.cyan, false⟩
  | warning => ⟨.yellow, false⟩
  | error => ⟨.red, false⟩
  | fieldKey => ⟨.blue, true⟩
  | fragment => ⟨.red, true⟩

end Element

/-- The colours of the elements, none for an element that is shown as it is. -/
structure Theme where
  color : Element → Option Color

namespace Theme

/-- The colours without a theme. -/
def standard : Theme :=
  ⟨fun element => some element.color⟩

/-- The theme that changes some elements. -/
def ofChanges (changes : List (Element × Option Color)) : Theme :=
  ⟨fun element => (changes.lookup element).getD (some element.color)⟩

/-- The colour that a style asks for. In a style given by position it may not be left out. -/
def style? (document : Document) : Option (Option Color) :=
  let read := Document.optional? fun color => color.string?.bind Color.ofName?
  match document with
  | .list _ [color] => read color
  | .list .. => none
  | document => (document.fields? ["fg"]).bind fun fields =>
    Document.fieldOr none read (fields.head?.join)

/-- The theme that a document denotes. -/
def ofDocument? (document : Document) : Option Theme := do
  let styles ← document.entries? style?
  let changes ← styles.mapM fun entry =>
    (Element.ofName? entry.1).map fun element => (element, entry.2)
  some (ofChanges changes)

end Theme

end Scrutiny.Terminal
