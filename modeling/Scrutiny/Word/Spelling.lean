import Scrutiny.Text.Category
import Scrutiny.Text.WhiteSpace

/-! # How a banned word is spelled

A word is a sequence of units with optional anchors at its ends. A unit is a character with the
marks that combine with it, so an accented letter stays one position however it is encoded. After a
backslash the next character stands for itself alone.
-/

namespace Scrutiny.Word

/-- One position of a banned word. -/
inductive WordUnit where
  /-- A character with its marks, for which confusable characters may stand. -/
  | plain (text : List Char)
  /-- A character with its marks that stands for itself alone. -/
  | escaped (text : List Char)
  deriving Repr, DecidableEq

namespace WordUnit

/-- The characters of a unit. -/
def chars : WordUnit → List Char
  | plain text => text
  | escaped text => text

/-- The character of a unit that has no marks. -/
def single? (u : WordUnit) : Option Char :=
  match u.chars with
  | [c] => some c
  | _ => none

end WordUnit

/-- A word taken apart into anchors and units. -/
structure Spelling where
  /-- Nothing but separators may precede the word. -/
  anchoredStart : Bool
  /-- Nothing but separators may follow the word. -/
  anchoredEnd : Bool
  units : List WordUnit
  deriving Repr, DecidableEq

namespace Spelling

/-- The number of units. -/
def size (spelling : Spelling) : Nat :=
  spelling.units.length

/-- The pieces of a text from the middle of one on. A mark joins the piece before it, and so does
whatever follows a backslash that begins a piece. -/
def piecesFrom (current : List Char) : List Char → List (List Char)
  | [] => if current.isEmpty then [] else [current]
  | c :: rest =>
    if current.isEmpty then piecesFrom [c] rest
    else if Text.isMark c || current == ['\\'] then piecesFrom (current ++ [c]) rest
    else current :: piecesFrom [c] rest

/-- The pieces of a text. -/
def pieces (body : List Char) : List (List Char) :=
  piecesFrom [] body

/-- The unit of a piece: nothing for a blank one, an escaped unit after a backslash. -/
def unitOfPiece (piece : List Char) : Option WordUnit :=
  match piece with
  | '\\' :: c :: rest => some (.escaped (c :: rest))
  | piece => if piece.all Text.isWhiteSpace then none else some (.plain piece)

/-- Whether the last character of a text is escaped: an odd number of backslashes precede it. -/
def endsEscaped (body : List Char) : Bool :=
  (body.dropLast.reverse.takeWhile (· == '\\')).length % 2 == 1

/-- A word without its anchors, and whether it has them. -/
def anchors (word : List Char) : Bool × Bool × List Char :=
  let (start, body) := match word with
    | '^' :: rest => (true, rest)
    | body => (false, body)
  if body.getLast? == some '$' && !endsEscaped body then (start, true, body.dropLast)
  else (start, false, body)

/-- The spelling of a word, white space around it left aside. -/
def ofWord (word : String) : Spelling :=
  let (start, stop, body) := anchors (Text.trimChars word.toList)
  ⟨start, stop, (pieces body).filterMap unitOfPiece⟩

end Spelling

end Scrutiny.Word
