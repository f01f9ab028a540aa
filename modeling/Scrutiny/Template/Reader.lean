import Scrutiny.Template.Basic

/-! # Reading templates

A template is read from its start to its end, tag by tag, and the first fault ends the reading.
Open blocks are kept on a stack, each with the parts that precede it. A hyphen at either end of a
tag takes away the white space on that side.
-/

namespace Scrutiny

namespace Template

/-- The keywords that may stand in place of a path. -/
def keywords : List String :=
  ["@index", "@first", "@last", "@root"]

/-- Read a path: a keyword, or steps between points. -/
def Path.read (piece : Located) : Except ReadFault Path :=
  if piece.startsWith ['@'] then
    if keywords.contains piece.text then .ok ⟨piece, []⟩ else .error (.unknownKeyword piece)
  else
    match piece.atPoints with
    | first :: rest => .ok ⟨first, rest⟩
    | [] => .ok ⟨piece, []⟩

/-- Blocks that are open, with what has been read of them before the current segment. -/
inductive Opening where
  /-- The segments before the current one. -/
  | branch (path : Path) (negated : Bool) (segments : List (List Node))
  | scope (path : Path) (name : String)
  | each (path : Path) (name : String)

/-- An open block: its last word, what it is, and the parts that precede it. -/
structure Frame where
  word : Located
  opening : Opening
  outer : List Node

/-- What has been read: the parts of the current segment, and the open blocks around it. -/
structure Draft where
  nodes : List Node
  frames : List Frame

namespace Draft

/-- Nothing read. -/
def empty : Draft := ⟨[], []⟩

/-- Add a part. -/
def add (draft : Draft) (node : Node) : Draft :=
  { draft with nodes := draft.nodes ++ [node] }

/-- Take away the white space before a tag. -/
def trimEnd (draft : Draft) : Draft :=
  { draft with nodes := trimLastNode draft.nodes }

/-- Open a block. -/
def enter (draft : Draft) (word : Located) (opening : Opening) : Draft :=
  ⟨[], ⟨word, opening, draft.nodes⟩ :: draft.frames⟩

end Draft

/-- The content of a tag without hyphens at its ends, and whether it had them. -/
def hyphens (content : Located) : Bool × Bool × Located :=
  let before := content.startsWith ['-']
  let content := if before then (content.drop 1).trim else content
  let after := content.chars.getLast? == some '-'
  (before, after, if after then (content.dropLast 1).trim else content)

/-- A tag that begins a text, up to its closing mark on the same line, and the text after it. -/
def tag? (source : Located) (close : String) : Except ReadFault (Located × Located) :=
  let line := source.chars.takeWhile (· ≠ '\n')
  match Located.distance? close.toList line with
  | some count => .ok (source.take (count + close.length), source.drop (count + close.length))
  | none => .error (.unclosedTag source.place close)

/-- Require that nothing follows a word. -/
def expectNothing (rest : Located) : Except ReadFault Unit :=
  if rest.chars.isEmpty then .ok () else .error (.unexpected rest)

/-- The condition of an `if` block: a path, or the word `not` and a path after one more
character. -/
def readCondition (rest : Located) : Except ReadFault (Path × Bool) :=
  if rest.startsWith "not".toList then
    match rest.chars.drop 3 with
    | [] => .error .brokenOff
    | c :: _ =>
      if c.utf8Size = 1 then (Path.read (rest.drop 4)).map (·, true) else .error .brokenOff
  else (Path.read rest).map (·, false)

/-- Close the open `if` block. -/
def closeBranch (draft : Draft) (word : Located) :
    Except ReadFault (Path × Bool × List (List Node) × List Node × List Frame) :=
  match draft.frames with
  | ⟨_, .branch path negated segments, outer⟩ :: frames =>
    .ok (path, negated, segments ++ [draft.nodes], outer, frames)
  | _ => .error (.strayBranch word)

/-- Read the content of a block tag: its word and what follows the word. -/
def readBlock (draft : Draft) (word rest : Located) : Except ReadFault Draft := do
  match word.text with
  | "if" =>
    let (path, negated) ← readCondition rest
    .ok (draft.enter word (.branch path negated []))
  | "else" =>
    expectNothing rest
    let (path, negated, segments, outer, frames) ← closeBranch draft word
    .ok ⟨[], ⟨word, .branch path negated segments, outer⟩ :: frames⟩
  | "endif" =>
    expectNothing rest
    let (path, negated, segments, outer, frames) ← closeBranch draft word
    .ok ⟨outer ++ [.branch path negated segments], frames⟩
  | "with" =>
    match rest.cut? " as " with
    | some (path, name) =>
      let path ← Path.read path.trim
      .ok (draft.enter word (.scope path name.trim.text))
    | none => .error (.scopeForm rest)
  | "endwith" =>
    expectNothing rest
    match draft.frames with
    | ⟨_, .scope path name, outer⟩ :: frames =>
      .ok ⟨outer ++ [.scope path name draft.nodes], frames⟩
    | _ => .error (.strayScope word)
  | "for" =>
    match rest.cut? " in " with
    | some (name, path) =>
      let path ← Path.read path.trim
      .ok (draft.enter word (.each path name.trim.text))
    | none => .error (.eachForm rest)
  | "endfor" =>
    expectNothing rest
    match draft.frames with
    | ⟨_, .each path name, outer⟩ :: frames => .ok ⟨outer ++ [.each path name draft.nodes], frames⟩
    | _ => .error (.strayEach word)
  | "call" =>
    match rest.cut? " with " with
    | some (name, path) =>
      let path ← Path.read path.trim
      .ok (draft.add (.call name.trim path))
    | none => .error (.callForm rest)
  | _ => .error (.unknownBlock word)

/-- Read the content of a value tag: a path, and the name of a formatter after a bar. -/
def readValue (content : Located) : Except ReadFault Node :=
  match content.cut? "|" with
  | some (path, formatter) =>
    (Path.read path.trim).map fun path => .formatted path formatter.trim
  | none => (Path.read content).map .value

/-- Read the tag that begins a text. The result says whether white space after it goes, and what
follows it. -/
def readTag (draft : Draft) (source : Located) : Except ReadFault (Draft × Bool × Located) := do
  if source.startsWith "\x7b#".toList then
    let (tag, rest) ← tag? source "#\x7d"
    if tag.chars.length < 4 then .error .brokenOff
    else
      let comment := ((tag.drop 2).dropLast 2).trim
      let draft := if comment.startsWith ['-'] then draft.trimEnd else draft
      .ok (draft, comment.chars.getLast? == some '-', rest)
  else if source.startsWith "\x7b\x7b".toList then
    let (tag, rest) ← tag? source "\x7d\x7d"
    let (before, after, content) := hyphens ((tag.drop 2).dropLast 2).trim
    let draft := if before then draft.trimEnd else draft
    let (word, argument) := content.word
    let draft ← readBlock draft word argument
    .ok (draft, after, rest)
  else
    let (tag, rest) ← tag? source "\x7d"
    let (before, after, content) := hyphens ((tag.drop 1).dropLast 1).trim
    let draft := if before then draft.trimEnd else draft
    let node ← readValue content
    .ok (draft.add node, after, rest)

/-- The text before the next tag and what follows it. A text that follows an escape begins with a
brace that is no tag. -/
def plainText (escaped : Bool) (source : Located) : List Char × Located :=
  let count := (source.chars.drop escaped.toNat).takeWhile (· ≠ '\x7b') |>.length
  ((source.take (count + escaped.toNat)).chars, source.drop (count + escaped.toNat))

/-- What remains to be read begins with a tag, with text, or with text after an escape. -/
inductive Stage where
  /-- Between tags; whether white space goes. -/
  | between (trimNext : Bool)
  /-- After the backslash that takes the meaning from the next brace. -/
  | escaped
  deriving DecidableEq

/-- Read some text or a tag from a text that is not empty. -/
def readNext (draft : Draft) (stage : Stage) (source : Located) :
    Except ReadFault (Draft × Stage × Located) :=
  if stage ≠ .escaped ∧ source.startsWith ['\x7b'] then
    (readTag draft source).map fun (draft, after, rest) => (draft, .between after, rest)
  else
    let (chars, rest) := plainText (stage = .escaped) source
    let chars := if stage = .between true then Text.trimStart chars else chars
    if chars.getLast? = some '\\' then .ok (draft.add (.text chars.dropLast), .escaped, rest)
    else .ok (draft.add (.text chars), .between false, rest)

/-- Read a text to its end, with a bound on the number of tags and texts. -/
def readWithin (draft : Draft) (stage : Stage) (source : Located) : Nat → Except ReadFault Draft
  | 0 => .ok draft
  | bound + 1 =>
    if source.chars.isEmpty then
      if stage = .escaped then .error .brokenOff else .ok draft
    else
      match readNext draft stage source with
      | .error fault => .error fault
      | .ok (draft, stage, rest) => readWithin draft stage rest bound

end Template

/-- Read a template. Every tag and every text takes a character, so the length of the text bounds
their number. -/
def Template.read (text : String) : Except Template.ReadFault Template :=
  match Template.readWithin .empty (.between false) (.ofText text) (text.length + 1) with
  | .error fault => .error fault
  | .ok draft =>
    match draft.frames with
    | [] => .ok ⟨draft.nodes⟩
    | frame :: _ => .error (.unclosedBlock frame.word)

end Scrutiny
