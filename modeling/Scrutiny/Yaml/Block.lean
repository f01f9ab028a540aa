import Scrutiny.Yaml.Cursor

/-! # Block scalars

A bar or a greater sign begins a scalar of indented lines. After a bar the lines are taken as they
are; after a greater sign neighbouring lines are joined. The heading says how the scalar ends and
how far it is indented.
-/

namespace Scrutiny.Yaml

/-- What happens to the line ends after the last line with content. -/
inductive Ending where
  /-- All of them are dropped. -/
  | strip
  /-- One is kept. -/
  | clip
  /-- All of them are kept. -/
  | keep

/-- The ending that a character of the heading asks for. -/
def ending? : Option Char → Option Ending
  | some '-' => some .strip
  | some '+' => some .keep
  | _ => none

/-- The step of indentation that a heading gives, zero if it gives none, and what follows. -/
def step? (cursor : Cursor) : Option (Nat × Cursor) :=
  match cursor.rest.head? with
  | some '0' => none
  | some c => if c.isDigit then some (c.toNat - '0'.toNat, cursor.next) else some (0, cursor)
  | none => some (0, cursor)

/-- The ending and the step that a heading gives, in either order, and the start of the lines. -/
def heading? (cursor : Cursor) : Option (Ending × Nat × Cursor) := do
  match ending? cursor.rest.head? with
  | some ending =>
    let (step, cursor) ← step? cursor.next
    some (ending, step, ← cursor.endLine?)
  | none =>
    let (step, cursor) ← step? cursor
    match ending? cursor.rest.head? with
    | some ending => some (ending, step, ← cursor.next.endLine?)
    | none => some (.clip, step, ← cursor.endLine?)

/-- Empty lines before a line with content: their line ends, the deepest column that was reached and
the place of the content. An indentation of zero is not known yet. A tab in the indentation is an
error. -/
def emptyLines? (indent deepest : Nat) (breaks : List Char) :
    Nat → Cursor → Option (List Char × Nat × Cursor)
  | 0, _ => none
  | count + 1, cursor =>
    let spaces := (cursor.run (· == ' ')).length
    let cursor := cursor.skip (if indent = 0 then spaces else min spaces (indent - cursor.column))
    let deepest := max deepest cursor.column
    if (indent = 0 || decide (cursor.column < indent)) && cursor.sees '\t' then none
    else match cursor.rest with
    | c :: _ =>
      if isBreak c then emptyLines? indent deepest (breaks ++ [c]) count cursor.next
      else some (breaks, deepest, cursor)
    | [] => some (breaks, deepest, cursor)

/-- Where reading stands between two lines: what has been read, latest first, the end of the last
line, the empty lines since, and whether the last line began with a blank. -/
structure Lines where
  read : List Char
  lastBreak : List Char
  breaks : List Char
  blank : Bool

/-- Read the lines of a block scalar. -/
def blockLines? (folded : Bool) (indent : Nat) : Nat → Lines → Cursor → Option (Lines × Cursor)
  | 0, _, _ => none
  | count + 1, lines, cursor =>
    if cursor.column ≠ indent || cursor.rest.isEmpty then some (lines, cursor)
    else
      let blank := cursor.rest.head?.any isBlank
      let joined :=
        if folded && lines.lastBreak == ['\n'] && !lines.blank && !blank then
          if lines.breaks.isEmpty then [' '] else []
        else lines.lastBreak
      let line := cursor.run fun c => !isBreak c
      let after := cursor.skip line.length
      let lastBreak := after.rest.take 1
      match emptyLines? indent 0 [] (after.rest.length + 1) after.next with
      | none => none
      | some (breaks, _, cursor) =>
        blockLines? folded indent count
          ⟨line.reverse ++ lines.breaks.reverse ++ joined ++ lines.read, lastBreak, breaks, blank⟩
          cursor

/-- The block scalar at a place and the place after it. The parent is the column of the block
around it, below zero if there is none. -/
def scanBlock? (parent : Int) (cursor : Cursor) : Option (String × Cursor) := do
  let folded := cursor.sees '>'
  let (ending, step, cursor) ← heading? cursor.next
  let given := if step = 0 then 0 else (max parent 0).toNat + step
  let (breaks, deepest, cursor) ← emptyLines? given 0 [] (cursor.rest.length + 1) cursor
  let indent := if given = 0 then max deepest (max (parent + 1).toNat 1) else given
  let (lines, cursor) ←
    blockLines? folded indent (cursor.rest.length + 1) ⟨[], [], breaks, false⟩ cursor
  let tail := match ending with
    | .strip => []
    | .clip => lines.lastBreak
    | .keep => lines.lastBreak ++ lines.breaks
  some (String.ofList (lines.read.reverse ++ tail), cursor)

end Scrutiny.Yaml
