import Scrutiny.Text.WhiteSpace

/-! # Text that knows its place

Pieces of a text keep the place where they begin, so that a message about a piece can say where it
stands. Lines are counted from one and columns from zero, a column being a byte of the encoded
text.
-/

namespace Scrutiny.Template

/-- A place in a text. -/
structure Place where
  line : Nat := 1
  column : Nat := 0
  deriving Repr, DecidableEq, Inhabited

/-- The place after one character. -/
def Place.next (place : Place) (c : Char) : Place :=
  if c = '\n' then ⟨place.line + 1, 0⟩ else ⟨place.line, place.column + c.utf8Size⟩

/-- The place after some characters. -/
def Place.after (place : Place) (cs : List Char) : Place :=
  cs.foldl Place.next place

/-- A piece of a text and the place where it begins. -/
structure Located where
  chars : List Char
  place : Place
  deriving Repr, DecidableEq, Inhabited

namespace Located

/-- A whole text. -/
def ofText (text : String) : Located :=
  ⟨text.toList, {}⟩

/-- The text of a piece. -/
def text (piece : Located) : String :=
  String.ofList piece.chars

/-- A piece without its first characters. -/
def drop (piece : Located) (count : Nat) : Located :=
  ⟨piece.chars.drop count, piece.place.after (piece.chars.take count)⟩

/-- The first characters of a piece. -/
def take (piece : Located) (count : Nat) : Located :=
  ⟨piece.chars.take count, piece.place⟩

/-- A piece without its last characters. -/
def dropLast (piece : Located) (count : Nat) : Located :=
  piece.take (piece.chars.length - count)

/-- Whether a piece begins with some characters. -/
def startsWith (piece : Located) (mark : List Char) : Bool :=
  mark.isPrefixOf piece.chars

/-- A piece without white space at either end. Of a blank piece nothing is left where it began. -/
def trim (piece : Located) : Located :=
  match Text.trimChars piece.chars with
  | [] => ⟨[], piece.place⟩
  | cs => ⟨cs, piece.place.after (piece.chars.takeWhile Text.isWhiteSpace)⟩

/-- How many characters stand before the first occurrence of a mark. -/
def distance? (mark : List Char) : List Char → Option Nat
  | [] => if mark.isEmpty then some 0 else none
  | c :: rest =>
    if mark.isPrefixOf (c :: rest) then some 0 else (distance? mark rest).map (· + 1)

/-- What stands before the first occurrence of a mark, and what stands after it. -/
def cut? (piece : Located) (mark : String) : Option (Located × Located) :=
  (distance? mark.toList piece.chars).map fun count =>
    (piece.take count, piece.drop (count + mark.length))

/-- The pieces between points, as characters with the places where they begin. -/
def splitAtPoints (place : Place) (start : Place) (current : List Char) :
    List Char → List Located
  | [] => [⟨current, start⟩]
  | c :: rest =>
    let next := place.next c
    if c = '.' then ⟨current, start⟩ :: splitAtPoints next next [] rest
    else splitAtPoints next start (current ++ [c]) rest

/-- The pieces of a piece between its points. -/
def atPoints (piece : Located) : List Located :=
  splitAtPoints piece.place piece.place [] piece.chars

/-- The first word of a piece that begins with one, and the rest of it. -/
def word (piece : Located) : Located × Located :=
  let count := (piece.chars.takeWhile fun c => !Text.isWhiteSpace c).length
  (piece.take count, (piece.drop count).trim)

end Located

end Scrutiny.Template
