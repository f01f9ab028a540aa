/-! # Places in a text

A text is read from a cursor that knows its line and column. Line ends of every spelling are made
equal before anything is read, so a break is one character everywhere else.
-/

namespace Scrutiny.Yaml

/-- Whether a character may occur in a text at all. -/
def isAllowed (c : Char) : Bool :=
  let code := c.toNat
  code == 0x09 || code == 0x0A || code == 0x0D || (0x20 ≤ code && code ≤ 0x7E) || code == 0x85 ||
    (0xA0 ≤ code && code ≤ 0xFFFD && code != 0xFEFF) || 0x10000 ≤ code

/-- One character for each line end: a carriage return with or without a line feed and a next line
are line feeds. -/
def unifyBreaks : List Char → List Char
  | [] => []
  | '\r' :: '\n' :: rest => '\n' :: unifyBreaks rest
  | '\r' :: rest => '\n' :: unifyBreaks rest
  | c :: rest => (if c.toNat = 0x85 then '\n' else c) :: unifyBreaks rest

/-- The line ends that are left: line feeds, and the line and paragraph separators. -/
def isBreak (c : Char) : Bool :=
  c == '\n' || c.toNat == 0x2028 || c.toNat == 0x2029

/-- White space within a line. -/
def isBlank (c : Char) : Bool :=
  c == ' ' || c == '\t'

/-- White space. -/
def isSpace (c : Char) : Bool :=
  isBlank c || isBreak c

/-- The characters of names. -/
def isNameChar (c : Char) : Bool :=
  c.isAlphanum || c == '_' || c == '-'

/-- Whether white space or the end comes next. -/
def atGap : List Char → Bool
  | [] => true
  | c :: _ => isSpace c

/-- A place in a text, with what follows it. -/
structure Cursor where
  rest : List Char
  /-- The number of characters before the place. -/
  index : Nat := 0
  line : Nat := 0
  column : Nat := 0

namespace Cursor

/-- The place after the next character. -/
def next (cursor : Cursor) : Cursor :=
  match cursor.rest with
  | [] => cursor
  | c :: rest =>
    if isBreak c then ⟨rest, cursor.index + 1, cursor.line + 1, 0⟩
    else ⟨rest, cursor.index + 1, cursor.line, cursor.column + 1⟩

/-- The place a number of characters further on. -/
def skip (cursor : Cursor) : Nat → Cursor
  | 0 => cursor
  | count + 1 => cursor.next.skip count

/-- The characters that follow and satisfy a test. -/
def run (cursor : Cursor) (test : Char → Bool) : List Char :=
  cursor.rest.takeWhile test

/-- The place after the characters that follow and satisfy a test. -/
def skipWhile (cursor : Cursor) (test : Char → Bool) : Cursor :=
  cursor.skip (cursor.run test).length

/-- Whether a character comes next. -/
def sees (cursor : Cursor) (c : Char) : Bool :=
  cursor.rest.head? == some c

/-- Whether white space or the end comes next. -/
def atGap (cursor : Cursor) : Bool :=
  Yaml.atGap cursor.rest

/-- Skip a comment, if one comes next. -/
def skipComment (cursor : Cursor) : Cursor :=
  if cursor.sees '#' then cursor.skipWhile fun c => !isBreak c else cursor

/-- Skip blanks, a comment and the line end, before which nothing else may stand. -/
def endLine? (cursor : Cursor) : Option Cursor :=
  let cursor := (cursor.skipWhile isBlank).skipComment
  match cursor.rest with
  | [] => some cursor
  | c :: _ => if isBreak c then some cursor.next else none

/-- The mark at the start of a line that begins or ends a document: true for the one that
begins it. -/
def documentMark? (cursor : Cursor) : Option Bool :=
  if cursor.column = 0 then
    match cursor.rest with
    | '-' :: '-' :: '-' :: rest => if Yaml.atGap rest then some true else none
    | '.' :: '.' :: '.' :: rest => if Yaml.atGap rest then some false else none
    | _ => none
  else none

end Cursor

end Scrutiny.Yaml
