import Scrutiny.Pattern.Bracket

/-! # Reading patterns

A pattern text is read item by item against a stack of open groups. Reading fails on any malformed
text; what is read and turns out too large is refused separately.
-/

namespace Scrutiny

/-- Why a text is no usable pattern. -/
inductive PatternError where
  /-- The text breaks the rules of writing patterns. -/
  | malformed
  /-- The pattern takes more space than is allowed. -/
  | tooLarge
  deriving Repr, DecidableEq

namespace Pattern

/-- A part of a pattern while it is read. -/
structure Piece where
  pattern : Pattern
  /-- How deeply parts are nested in it. -/
  depth : Nat
  /-- Whether it only switches options, so that nothing can repeat it. -/
  directive : Bool := false

/-- An open group, or the whole pattern: finished alternatives and the current one, both latest
first. -/
structure Level where
  alternatives : List Piece := []
  items : List Piece := []

/-- An open group: what surrounds it, its number if it has one, and the options to restore. -/
structure OpenGroup where
  outer : Level
  index : Option Nat
  flags : Flags

/-- What has been read of a pattern. -/
structure ReaderState where
  flags : Flags
  level : Level := {}
  opened : List OpenGroup := []
  /-- The number of the next group. -/
  nextGroup : Nat := 1
  names : List (List Char) := []

/-- The greatest depth of nesting. -/
def maxNesting : Nat := 250

/-- The depth of a part that holds several parts. -/
def nested (parts : List Piece) : Nat :=
  (parts.map Piece.depth).foldl max 0 + 1

/-- The items of an alternative as one part. -/
def Level.sequence (level : Level) : Piece :=
  match level.items with
  | [] => { pattern := .empty, depth := 0 }
  | [only] => only
  | items => { pattern := seqAll (items.reverse.map Piece.pattern), depth := nested items }

/-- The alternatives of a level as one part. -/
def Level.finish (level : Level) : Piece :=
  match level.alternatives with
  | [] => level.sequence
  | finished =>
    let all := level.sequence :: finished
    { pattern := altAll (all.reverse.map Piece.pattern), depth := nested all }

/-- A level with one more item. -/
def Level.push (level : Level) (piece : Piece) : Level :=
  { level with items := piece :: level.items }

/-- The pattern of a single item. -/
def Primitive.pattern? (flags : Flags) : Primitive → Option Pattern
  | .literal c byte =>
    if flags.unicode || c.toNat < 128 || !byte then some (.one (flags.fold (.single c))) else none
  | .dot =>
    if !flags.unicode then none
    else if flags.dotAll then some (.one .all)
    else if flags.returns then some (.one (.complement (.union (.single '\n') (.single '\r'))))
    else some (.one (.complement (.single '\n')))
  | .assertion condition => some (.assertion condition)
  | .set members => some (.one members)

/-- Options after the question mark that opens them, up to and with the character that ends them.
The options seen so far are remembered, since none may come twice. -/
def readFlags (flags : Flags) (seen : List Char) (negated dangling : Bool) :
    List Char → Option (Flags × List Char × Char × List Char)
  | [] => none
  | c :: rest =>
    if c = ')' ∨ c = ':' then if dangling then none else some (flags, seen, c, rest)
    else if c = '-' then if negated then none else readFlags flags seen true true rest
    else if seen.contains c then none
    else
      let next (flags : Flags) := readFlags flags (c :: seen) negated false rest
      let value := !negated
      match c with
      | 'i' => next { flags with ignoreCase := value }
      | 'm' => next { flags with multiLine := value }
      | 's' => next { flags with dotAll := value }
      | 'U' => next { flags with swapGreed := value }
      | 'u' => next { flags with unicode := value }
      | 'R' => next { flags with returns := value }
      | 'x' => next { flags with spaced := value }
      | _ => none

/-- Whether a character may stand in the name of a group. -/
def isNameChar (first : Bool) (c : Char) : Bool :=
  c == '_' || Text.Property.isAlphabetic c ||
    (!first && (c == '.' || c == '[' || c == ']' || Text.Property.isNumeric c))

/-- The name of a group up to the angle bracket that closes it. -/
def groupName (cs : List Char) : Option (List Char × List Char) :=
  let name := cs.takeWhile (· ≠ '>')
  match cs.drop name.length, name with
  | _ :: rest, first :: others =>
    if isNameChar true first && others.all (isNameChar false) then some (name, rest) else none
  | _, _ => none

/-- The state inside a group that has just been opened. -/
def ReaderState.open (state : ReaderState) (index : Option Nat) (flags : Flags) : ReaderState :=
  { state with
    flags := flags
    level := {}
    opened := ⟨state.level, index, state.flags⟩ :: state.opened
    nextGroup := if index.isSome then state.nextGroup + 1 else state.nextGroup }

/-- A named group after its opening angle bracket. -/
def openNamed (state : ReaderState) (cs : List Char) : Option (ReaderState × List Char) := do
  let (name, rest) ← groupName cs
  if state.names.contains name then none
  else
    some ({ state with names := name :: state.names }.open (some state.nextGroup) state.flags, rest)

/-- What follows an opening parenthesis: a group of one kind or another, or a switch of options. -/
def openGroup (state : ReaderState) (cs : List Char) : Option (ReaderState × List Char) :=
  match state.flags.skip cs with
  | '?' :: '=' :: _ => none
  | '?' :: '!' :: _ => none
  | '?' :: '<' :: '=' :: _ => none
  | '?' :: '<' :: '!' :: _ => none
  | '?' :: 'P' :: '<' :: rest => openNamed state rest
  | '?' :: '<' :: rest => openNamed state rest
  | '?' :: rest => do
    let (flags, seen, last, rest) ← readFlags state.flags [] false false rest
    if last = ':' then some (state.open none flags, rest)
    else if seen.isEmpty then none
    else
      some ({ state with
        flags := flags
        level := state.level.push { pattern := .empty, depth := 0, directive := true } }, rest)
  | cs => some (state.open (some state.nextGroup) state.flags, cs)

/-- The state after the innermost group is closed. -/
def closeGroup (state : ReaderState) : Option ReaderState :=
  match state.opened with
  | [] => none
  | innermost :: opened =>
    let body := state.level.finish
    let pattern := match innermost.index with
      | some index => .group index body.pattern
      | none => body.pattern
    some { state with
      flags := innermost.flags
      level := innermost.outer.push { pattern := pattern, depth := body.depth + 1 }
      opened := opened }

/-- The state after the current alternative is finished. -/
def nextAlternative (state : ReaderState) : ReaderState :=
  { state with
    level := { alternatives := state.level.sequence :: state.level.alternatives, items := [] } }

/-- Repeat the last item. -/
def repeatLast (state : ReaderState) (least : Nat) (most : Option Nat) (lazy : Bool) :
    Option ReaderState :=
  match state.level.items with
  | [] => none
  | last :: items =>
    if last.directive then none
    else
      let greedy := lazy == state.flags.swapGreed
      let piece : Piece :=
        { pattern := .rep least most greedy last.pattern, depth := last.depth + 1 }
      some { state with level := { state.level with items := piece :: items } }

/-- The largest count of a repetition. -/
def maxCount : Nat := 4294967295

/-- A count of a repetition, with white space around it. -/
def count? (cs : List Char) : Option Nat :=
  let digits := Text.trimChars cs
  if digits.isEmpty || !digits.all Char.isDigit then none
  else
    let value := digits.foldl (fun total digit => total * 10 + (digit.toNat - '0'.toNat)) 0
    if value ≤ maxCount then some value else none

/-- The bounds of a repetition in braces. -/
def bounds? (cs : List Char) : Option (Nat × Option Nat) :=
  let first := cs.takeWhile (· ≠ ',')
  match cs.drop first.length with
  | [] => (count? first).map fun least => (least, some least)
  | [_] => (count? first).map fun least => (least, none)
  | _ :: second => do
    let least ← count? first
    let most ← count? second
    if least ≤ most then some (least, some most) else none

/-- A question mark that makes a repetition lazy. -/
def lazyMark : List Char → Bool × List Char
  | '?' :: rest => (true, rest)
  | cs => (false, cs)

/-- Read one item that begins with a character. -/
def readItem (state : ReaderState) (c : Char) (rest : List Char) :
    Option (ReaderState × List Char) :=
  let repetition (least : Nat) (most : Option Nat) :=
    let (lazy, rest) := lazyMark rest
    (repeatLast state least most lazy).map fun state => (state, rest)
  let primitive (primitive : Primitive) (rest : List Char) :=
    (primitive.pattern? state.flags).map fun pattern =>
      ({ state with level := state.level.push { pattern := pattern, depth := 0 } }, rest)
  match c with
  | '(' => openGroup state rest
  | ')' => (closeGroup state).map fun state => (state, rest)
  | '|' => some (nextAlternative state, rest)
  | '[' =>
    (bracket state.flags ('[' :: rest)).map fun (found, rest) =>
      ({ state with
          level := state.level.push { pattern := .one found.set, depth := found.depth } }, rest)
  | '?' => repetition 0 (some 1)
  | '*' => repetition 0 none
  | '+' => repetition 1 none
  | '\x7b' => do
    let (text, rest) ← untilBrace state.flags.spaced rest
    let (least, most) ← bounds? text
    let (lazy, rest) := lazyMark (state.flags.skip rest)
    let state ← repeatLast state least most lazy
    some (state, rest)
  | '\\' => (escape state.flags rest).bind fun found => primitive found.1 found.2
  | '.' => primitive .dot rest
  | '^' =>
    primitive (.assertion
      (if state.flags.multiLine then .lineStart state.flags.returns else .textStart)) rest
  | '$' =>
    primitive (.assertion
      (if state.flags.multiLine then .lineEnd state.flags.returns else .textEnd)) rest
  | c => primitive (.literal c false) rest

/-- Read items to the end of the text. The number bounds the items. -/
def readLoop : Nat → ReaderState → List Char → Option Piece
  | 0, _, _ => none
  | bound + 1, state, cs =>
    match state.flags.skip cs with
    | [] => if state.opened.isEmpty then some state.level.finish else none
    | c :: rest =>
      (readItem state c rest).bind fun next => readLoop bound next.1 next.2

/-- The pattern that a text denotes. -/
def read? (ignoreCase : Bool) (text : String) : Option Pattern :=
  let cs := text.toList
  (readLoop (cs.length + 1) { flags := { ignoreCase := ignoreCase } } cs).bind fun piece =>
    if piece.depth ≤ maxNesting then some piece.pattern else none

/-- The space that the members of a set take. -/
def CharSet.weight : CharSet → Nat
  | .empty => 32
  | .range _ _ => 40
  | .named _ => 16384
  | .union left right => left.weight + right.weight
  | .intersection left right => min left.weight right.weight
  | .difference left _ => left.weight
  | .symmetricDifference left right => left.weight + right.weight
  | .complement inner => inner.weight
  | .anyCase inner => inner.weight
  | .anyBasicCase inner => inner.weight

/-- The space that a pattern takes: every round of a bounded repetition counts. -/
def weight : Pattern → Nat
  | .empty => 0
  | .one set => set.weight
  | .assertion _ => 32
  | .group _ body => body.weight + 64
  | .seq first second => first.weight + second.weight
  | .alt first second => first.weight + second.weight + 40
  | .rep least most _ body =>
    match most with
    | some most => most * (body.weight + 40)
    | none => max 1 least * (body.weight + 40)

/-- The space that a pattern may take. -/
def maxWeight : Nat := 10485760

/-- Read a pattern and refuse it if it is too large. -/
def read (ignoreCase : Bool) (text : String) : Except PatternError Pattern :=
  match read? ignoreCase text with
  | none => .error .malformed
  | some pattern => if pattern.weight ≤ maxWeight then .ok pattern else .error .tooLarge

end Pattern

/-- What is said of a text that is no usable pattern. -/
def PatternError.message : PatternError → String
  | .malformed => "regex parse error"
  | .tooLarge =>
    "Compiled regex exceeds size limit of " ++ toString Pattern.maxWeight ++ " bytes."

end Scrutiny
