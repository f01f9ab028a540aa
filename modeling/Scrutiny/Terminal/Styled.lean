import Scrutiny.ErrorMap
import Scrutiny.Terminal.Theme

/-! # What is shown

Output is a list of pieces, each of which may be an element of a theme. Colours are put in only when
the pieces are written out, and only where they can be seen.
-/

namespace Scrutiny.Terminal

/-- A piece of output. -/
structure Piece where
  text : String
  element : Option Element := none
  deriving Repr, DecidableEq

/-- Output. -/
abbrev Output := List Piece

/-- A text in a colour, after which the colour is the one before. -/
def inColor (color : Color) (text : String) : String :=
  "\x1b[" ++ toString color.code ++ "m" ++ text ++ "\x1b[39m"

/-- A piece written out. -/
def Piece.render (theme : Theme) (colored : Bool) (piece : Piece) : String :=
  match piece.element.bind theme.color with
  | some color => if colored then inColor color piece.text else piece.text
  | none => piece.text

namespace Output

/-- Output written out. -/
def render (theme : Theme) (colored : Bool) (output : Output) : String :=
  String.join (output.map (Piece.render theme colored))

/-- A piece that is no element. -/
def plain (text : String) : Output :=
  [⟨text, none⟩]

/-- A piece that is an element. -/
def styled (text : String) (element : Element) : Output :=
  [⟨text, some element⟩]

/-- A line that begins with a word of its kind. -/
def line (kind : String) (element : Element) (text : String) : Output :=
  styled kind element ++ plain (" " ++ text ++ "\n")

/-- A piece of information. -/
def info (text : String) : Output :=
  line "info:" .info text

/-- A warning. -/
def warning (text : String) : Output :=
  line "warning:" .warning text

/-- An error. -/
def error (text : String) : Output :=
  line "error:" .error text

/-- The messages of one place, each on a line of its own. -/
def place (key : String) (messages : List String) : Output :=
  plain "  " ++ styled key .fieldKey ++ plain "\n" ++
    messages.flatMap fun message => plain "    - " ++ styled message .error ++ plain "\n"

/-- The errors of an entity, place by place. -/
def errors (entity : String) (errors : ErrorMap) : Output :=
  if errors.isEmpty then line "valid:" .success (entity ++ " passed every rule in scope")
  else
    let total := errors.entries.foldl (fun total entry => total + entry.2.length) 0
    let header := entity ++ " is invalid: " ++ toString total ++ " error(s) in " ++
      toString errors.size ++ " field(s)"
    styled header .header ++ plain "\n" ++
      errors.entries.flatMap fun entry => place entry.1 entry.2

/-- The outcome of a search for words: the word that was found and the fragment it matched. -/
def search : Option (String × String) → Output
  | some (word, fragment) =>
    styled "match:" .warning ++ plain (" banned word '" ++ word ++ "' found as \"") ++
      styled fragment .fragment ++ plain "\"\n"
  | none => line "clean:" .success "no banned words found"

end Output

end Scrutiny.Terminal
