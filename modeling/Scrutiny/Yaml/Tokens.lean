import Scrutiny.Yaml.Block
import Scrutiny.Yaml.Plain
import Scrutiny.Yaml.Tag

/-! # The words of a text

Words are cut off one after the other. The indentation of lines opens and closes blocks, and a
mapping shows only at the colon after its first key: then the words that begin the mapping and the
key are put in before the key, at the place that was remembered as one where a key may begin.
-/

namespace Scrutiny.Yaml

/-- A place where a key may have begun. -/
structure KeyPlace where
  /-- A colon has to follow, as nothing but a key can stand there. -/
  required : Bool
  /-- The number of words before the place. -/
  before : Nat
  cursor : Cursor

/-- Where the cutting of a text stands. -/
structure Layout where
  cursor : Cursor
  /-- The words so far, latest first. -/
  words : List Token := []
  /-- The column of the innermost block, below zero outside all blocks. -/
  indent : Int := -1
  /-- The columns of the blocks around it. -/
  outer : List Int := []
  /-- Whether a key may begin at the next word. -/
  keyAllowed : Bool := true
  /-- The place where a key may have begun, outside all brackets. -/
  blockKey : Option KeyPlace := none
  /-- The same for each open bracket, innermost first. -/
  flowKeys : List (Option KeyPlace) := []

namespace Layout

variable (layout : Layout)

/-- Whether a bracket is open. -/
def inFlow : Bool :=
  !layout.flowKeys.isEmpty

/-- The next word, and the place after it. -/
def emit (token : Token) (cursor : Cursor) : Layout :=
  { layout with words := token :: layout.words, cursor := cursor }

/-- Put a word in after a number of words. -/
def insertAfter (before : Nat) (token : Token) : Layout :=
  let later := layout.words.length - before
  { layout with words := layout.words.take later ++ token :: layout.words.drop later }

/-- The place where a key may have begun at the present depth. -/
def keyPlace : Option KeyPlace :=
  match layout.flowKeys with
  | place :: _ => place
  | [] => layout.blockKey

/-- Change the place where a key may have begun at the present depth. -/
def setKeyPlace (place : Option KeyPlace) : Layout :=
  match layout.flowKeys with
  | _ :: outer => { layout with flowKeys := place :: outer }
  | [] => { layout with blockKey := place }

/-- The place is no longer one of a key, unless it has to be. -/
def dropKey? : Option Layout :=
  if layout.keyPlace.any KeyPlace.required then none else some (layout.setKeyPlace none)

/-- Remember the present place as one where a key may begin. -/
def markKey? : Option Layout :=
  if layout.keyAllowed then
    layout.dropKey?.map fun free =>
      free.setKeyPlace (some
        ⟨!layout.inFlow && layout.indent == layout.cursor.column, layout.words.length,
          layout.cursor⟩)
  else some layout

/-- The greatest length of a key that is followed by its colon. -/
def maxKeyLength : Nat := 1024

/-- Whether a place lies too far back to be one of a key: on another line, or too many characters
away. -/
def isStale (place : KeyPlace) : Bool :=
  place.cursor.line < layout.cursor.line ||
    place.cursor.index + maxKeyLength < layout.cursor.index

/-- Forget the places that lie too far back, unless one of them has to be that of a key. -/
def dropStale? : Option Layout :=
  let stale (place : Option KeyPlace) : Bool := place.any layout.isStale
  let places := layout.blockKey :: layout.flowKeys
  if places.any fun place => stale place && place.any KeyPlace.required then none
  else
    let fresh (place : Option KeyPlace) : Option KeyPlace := if stale place then none else place
    some { layout with blockKey := fresh layout.blockKey, flowKeys := layout.flowKeys.map fresh }

/-- Close blocks that lie deeper than a column, of those that are open. -/
def closeBlocks (column : Int) : List Int → Layout → Layout
  | [], layout => layout
  | around :: outer, layout =>
    if layout.indent > column then
      closeBlocks column outer
        { layout with indent := around, outer := outer, words := .blockEnd :: layout.words }
    else layout

/-- Outside brackets, close the blocks that lie deeper than a column. -/
def unindent (column : Int) : Layout :=
  if layout.inFlow then layout else closeBlocks column layout.outer layout

/-- Outside brackets, open a block at a column that lies deeper than the innermost one. The word
that opens it stands after a number of words. -/
def openBlock (column before : Nat) (token : Token) : Layout :=
  if layout.inFlow || layout.indent ≥ column then layout
  else
    { layout.insertAfter before token with
      indent := column, outer := layout.indent :: layout.outer }

/-- Skip white space and comments up to the next word. A tab does not count as white space where a
key may begin. The count bounds the characters that are left. -/
def skipSpace : Nat → Layout → Layout
  | 0, layout => layout
  | count + 1, layout =>
    let isPadding (c : Char) : Bool :=
      c == ' ' || (c == '\t' && (layout.inFlow || !layout.keyAllowed))
    let cursor := (layout.cursor.skipWhile isPadding).skipComment
    match cursor.rest with
    | c :: _ =>
      if isBreak c then
        skipSpace count
          { layout with cursor := cursor.next, keyAllowed := !layout.inFlow || layout.keyAllowed }
      else { layout with cursor := cursor }
    | [] => { layout with cursor := cursor }

/-- A word that ends all blocks: a mark of a document or a directive. -/
def atMargin? (token : Token) (cursor : Cursor) : Option Layout :=
  (layout.unindent (-1)).dropKey?.map fun free =>
    { free with keyAllowed := false }.emit token cursor

/-- An opening bracket. -/
def openFlow? (token : Token) : Option Layout :=
  layout.markKey?.map fun marked =>
    { marked with flowKeys := none :: marked.flowKeys, keyAllowed := true }.emit token
      layout.cursor.next

/-- A closing bracket. -/
def closeFlow? (token : Token) : Option Layout :=
  layout.dropKey?.map fun free =>
    { free with flowKeys := free.flowKeys.drop 1, keyAllowed := false }.emit token
      layout.cursor.next

/-- A comma between brackets. -/
def comma? : Option Layout :=
  layout.dropKey?.map fun free => { free with keyAllowed := true }.emit .comma layout.cursor.next

/-- A mark that opens a block at its own column, where a key may begin. -/
def mark? (opening token : Token) (keyAllowed : Bool) : Option Layout :=
  if !layout.inFlow && !layout.keyAllowed then none
  else
    (layout.openBlock layout.cursor.column layout.words.length opening).dropKey?.map fun free =>
      { free with keyAllowed := keyAllowed }.emit token layout.cursor.next

/-- The colon before a value. If a key may have begun before it, it did. -/
def value? : Option Layout :=
  match layout.keyPlace with
  | some place =>
    let begun := layout.insertAfter place.before .key
    let opened := begun.openBlock place.cursor.column place.before .blockMapStart
    some ({ opened.setKeyPlace none with keyAllowed := false }.emit .value layout.cursor.next)
  | none => layout.mark? .blockMapStart .value (!layout.inFlow)

/-- A word that may be or begin a key. -/
def keyWord? (scan : Cursor → Option (Token × Cursor)) : Option Layout := do
  let marked ← layout.markKey?
  let (token, cursor) ← scan layout.cursor
  some ({ marked with keyAllowed := false }.emit token cursor)

/-- A plain scalar, which may be a key. -/
def plainWord? : Option Layout := do
  let marked ← layout.markKey?
  let (text, breaks, cursor) ←
    scanPlain? layout.inFlow (layout.indent + 1).toNat layout.cursor
  some ({ marked with keyAllowed := breaks }.emit (.scalar text true) cursor)

/-- A scalar of indented lines. -/
def blockWord? : Option Layout := do
  let free ← layout.dropKey?
  let (text, cursor) ← scanBlock? layout.indent layout.cursor
  some ({ free with keyAllowed := true }.emit (.scalar text false) cursor)

/-- Characters that no plain scalar begins with. -/
def isIndicator (c : Char) : Bool :=
  ['-', '?', ':', ',', '[', ']', '{', '}', '#', '&', '*', '!', '|', '>', '\'', '"', '%', '@',
    '\x60'].contains c

/-- Cut off the word that begins with a character before others. -/
def word? (c : Char) (rest : List Char) : Option Layout :=
  let markFollows := layout.inFlow || atGap rest
  match layout.cursor.documentMark? with
  | some true => layout.atMargin? .documentStart (layout.cursor.skip 3)
  | some false => layout.atMargin? .documentEnd (layout.cursor.skip 3)
  | none =>
    match c with
    | '[' => layout.openFlow? .flowListStart
    | '{' => layout.openFlow? .flowMapStart
    | ']' => layout.closeFlow? .flowListEnd
    | '}' => layout.closeFlow? .flowMapEnd
    | ',' => layout.comma?
    | '*' => layout.keyWord? fun cursor =>
      (scanName? cursor).map fun (name, after) => (.reference name, after)
    | '&' => layout.keyWord? fun cursor =>
      (scanName? cursor).map fun (name, after) => (.anchor name, after)
    | '!' => layout.keyWord? (scanTag? layout.inFlow)
    | '\'' => layout.keyWord? quotedWord?
    | '"' => layout.keyWord? quotedWord?
    | '-' =>
      if atGap rest then layout.mark? .blockListStart .entry true else layout.plainWord?
    | '?' =>
      if markFollows then layout.mark? .blockMapStart .key (!layout.inFlow)
      else layout.plainWord?
    | ':' => if markFollows then layout.value? else layout.plainWord?
    | '%' =>
      if layout.cursor.column = 0 then
        (scanDirective? layout.cursor).bind fun (token, after) => layout.atMargin? token after
      else none
    | '|' => if layout.inFlow then none else layout.blockWord?
    | '>' => if layout.inFlow then none else layout.blockWord?
    | c => if isIndicator c || isSpace c then none else layout.plainWord?
where
  quotedWord? (cursor : Cursor) : Option (Token × Cursor) :=
    (scanQuoted? cursor).map fun (text, after) => (.scalar text false, after)

/-- Cut off the words that are left. -/
def words? : Nat → Layout → Option (List Token)
  | 0, _ => none
  | count + 1, layout => do
    let spaced := layout.skipSpace (layout.cursor.rest.length + 1)
    let fresh ← spaced.dropStale?
    let closed := fresh.unindent fresh.cursor.column
    match closed.cursor.rest with
    | [] => (closed.unindent (-1)).dropKey?.map fun ended => ended.words.reverse
    | c :: rest => words? count (← closed.word? c rest)

end Layout

/-- The words of a text. -/
def tokens? (text : String) : Option (List Token) :=
  let cs := match text.toList with
    | c :: rest => if c.toNat = 0xFEFF then rest else c :: rest
    | [] => []
  if cs.all isAllowed then
    let cs := unifyBreaks cs
    Layout.words? (cs.length + 1) { cursor := { rest := cs } }
  else none

end Scrutiny.Yaml
