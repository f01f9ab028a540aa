import Scrutiny.Text.WhiteSpace

/-! # Colours

The eight colours of a terminal, each in a normal and a bright variant.
-/

namespace Scrutiny.Terminal

/-- A basic colour. -/
inductive Hue where
  | black | red | green | yellow | blue | magenta | cyan | white
  deriving Repr, DecidableEq

namespace Hue

/-- The colours in the order of their numbers. -/
def all : List Hue :=
  [black, red, green, yellow, blue, magenta, cyan, white]

/-- The name of a colour. -/
def name : Hue → String
  | black => "black"
  | red => "red"
  | green => "green"
  | yellow => "yellow"
  | blue => "blue"
  | magenta => "magenta"
  | cyan => "cyan"
  | white => "white"

end Hue

/-- A colour. -/
structure Color where
  hue : Hue
  bright : Bool := false
  deriving Repr, DecidableEq

namespace Color

/-- All colours. -/
def all : List Color :=
  Hue.all.map (⟨·, false⟩) ++ Hue.all.map (⟨·, true⟩)

/-- The name of a colour. -/
def name (color : Color) : String :=
  (if color.bright then "bright" else "") ++ color.hue.name

/-- The number that selects a colour for text. -/
def code (color : Color) : Nat :=
  (if color.bright then 90 else 30) + Hue.all.idxOf color.hue

/-- A letter in lower case. The Kelvin sign is the only character outside the basic range whose
lower case is a basic letter. -/
def lowerLetter (c : Char) : Char :=
  if c.toNat = 0x212A then 'k' else c.toLower

/-- The colour of a name, in any case and with white space around it. -/
def ofName? (text : String) : Option Color :=
  let wanted := String.ofList ((Text.trimChars text.toList).map lowerLetter)
  all.find? fun color => color.name == wanted

/-- What is said of a text that names no colour. -/
def refusal (text : String) : String :=
  "Invalid theme color '" ++ text ++ "'; expected one of: " ++
    String.intercalate ", " (Hue.all.map Hue.name) ++
    ", or their bright variants (e.g. brightred)."

end Color

end Scrutiny.Terminal
