import Scrutiny.Yaml.Quoted

/-! # Plain scalars

A scalar without quotes ends where something else begins: a comment, a colon before white space,
the punctuation of bracketed lists, the end of the indentation.
-/

namespace Scrutiny.Yaml

/-- The punctuation of bracketed lists and mappings. -/
def isFlowMark (c : Char) : Bool :=
  [',', '[', ']', '{', '}'].contains c

/-- The characters of a plain scalar up to white space or its end. Within brackets a colon right
before punctuation is an error. -/
def plainWord? (inFlow : Bool) : List Char → Option (List Char)
  | [] => some []
  | c :: rest =>
    if isSpace c || (inFlow && isFlowMark c) then some []
    else if c == ':' && inFlow && rest.head?.any (fun d => d == '?' || isFlowMark d) then none
    else if c == ':' && atGap rest then some []
    else (plainWord? inFlow rest).map (c :: ·)

/-- Whether a tab stands before a column in white space that starts at a column. -/
def tabBefore (indent : Nat) : Nat → List Char → Bool
  | _, [] => false
  | column, c :: rest =>
    if isBreak c then tabBefore indent 0 rest
    else (c == '\t' && decide (column < indent)) || tabBefore indent (column + 1) rest

/-- Read a plain scalar on from a place. What has been read is kept latest first, with the white
space since; the count bounds the characters that are left. The answer says whether a line end lies
between the scalar and the place after it. -/
def plain? (inFlow : Bool) (indent : Nat) (read space : List Char) :
    Nat → Cursor → Option (String × Bool × Cursor)
  | 0, _ => none
  | count + 1, cursor =>
    let done (space : List Char) (cursor : Cursor) : Option (String × Bool × Cursor) :=
      some (String.ofList read.reverse, space.any isBreak, cursor)
    if cursor.documentMark?.isSome || cursor.sees '#' then done space cursor
    else match plainWord? inFlow cursor.rest with
    | none => none
    | some [] => done space cursor
    | some word =>
      let read := word.reverse ++ (fold space).reverse ++ read
      let cursor := cursor.skip word.length
      let space := cursor.run isSpace
      let after := cursor.skip space.length
      if tabBefore indent 0 (space.dropWhile fun c => !isBreak c) then none
      else if space.isEmpty || (!inFlow && decide (after.column < indent)) then
        some (String.ofList read.reverse, space.any isBreak, after)
      else plain? inFlow indent read space count after

/-- The plain scalar at a place, whether a line ends after it, and the place after it and the white
space that follows. -/
def scanPlain? (inFlow : Bool) (indent : Nat) (cursor : Cursor) :
    Option (String × Bool × Cursor) :=
  plain? inFlow indent [] [] (cursor.rest.length + 1) cursor

end Scrutiny.Yaml
