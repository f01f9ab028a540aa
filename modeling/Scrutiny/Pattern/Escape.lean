import Scrutiny.Pattern.Basic
import Scrutiny.Text.Property

/-! # Single items of a pattern text

What stands for one character, one set of characters or one condition: plain characters, escapes
and named classes. Every reader takes the characters that are left and returns those it leaves.
-/

namespace Scrutiny.Pattern

/-- The options that a pattern can switch for the part that follows. -/
structure Flags where
  /-- Case is ignored. -/
  ignoreCase : Bool := false
  /-- Lines have starts and ends of their own. -/
  multiLine : Bool := false
  /-- The dot stands for line ends too. -/
  dotAll : Bool := false
  /-- Greedy and lazy repetition change places. -/
  swapGreed : Bool := false
  /-- Classes hold characters of every script. -/
  unicode : Bool := true
  /-- A carriage return ends a line too. -/
  returns : Bool := false
  /-- Blanks and comments between items are skipped. -/
  spaced : Bool := false
  deriving Repr, DecidableEq, Inhabited

mutual

/-- Drop blanks and comments. -/
def skipBlank : List Char → List Char
  | [] => []
  | c :: rest =>
    if Text.isWhiteSpace c then skipBlank rest
    else if c = '#' then skipComment rest
    else c :: rest

/-- Drop the rest of a comment and what follows it. -/
def skipComment : List Char → List Char
  | [] => []
  | c :: rest => if c = '\n' then skipBlank rest else skipComment rest

end

/-- Drop what does not count before the next item. -/
def Flags.skip (flags : Flags) (cs : List Char) : List Char :=
  if flags.spaced then skipBlank cs else cs

mutual

/-- The characters up to a closing brace, which is dropped; `spaced` text loses its blanks and
comments. -/
def untilBrace (spaced : Bool) : List Char → Option (List Char × List Char)
  | [] => none
  | c :: rest =>
    if spaced && Text.isWhiteSpace c then untilBrace spaced rest
    else if spaced && c == '#' then untilBraceComment spaced rest
    else if c = '\x7d' then some ([], rest)
    else (untilBrace spaced rest).map fun found => (c :: found.1, found.2)

/-- The same from inside a comment. -/
def untilBraceComment (spaced : Bool) : List Char → Option (List Char × List Char)
  | [] => none
  | c :: rest =>
    if c = '\n' then untilBrace spaced rest else untilBraceComment spaced rest

end

/-- One item of a pattern. -/
inductive Primitive where
  /-- A character; `byte` if it was written as two hexadecimal digits. -/
  | literal (c : Char) (byte : Bool)
  | dot
  | assertion (condition : Assertion)
  | set (set : CharSet)

/-- The characters with a meaning of their own in patterns. -/
def metaChars : List Char :=
  "\\.+*?()|[]\x7b\x7d^$#&-~".toList

/-- Whether a character may be written after a backslash to stand for itself. -/
def isEscapable (c : Char) : Bool :=
  metaChars.contains c || (c.toNat < 128 && !c.isAlphanum && c != '<' && c != '>')

/-- The value of a hexadecimal digit. -/
def hexValue? (c : Char) : Option Nat :=
  if c.isDigit then some (c.toNat - '0'.toNat)
  else if 'a' ≤ c ∧ c ≤ 'f' then some (c.toNat - 'a'.toNat + 10)
  else if 'A' ≤ c ∧ c ≤ 'F' then some (c.toNat - 'A'.toNat + 10)
  else none

/-- The character whose code point has the given hexadecimal digits. -/
def ofHexDigits? (digits : List Char) : Option Char := do
  let values ← digits.mapM hexValue?
  if values.isEmpty then none
  else
    let code := values.foldl (fun total digit => total * 16 + digit) 0
    if code.isValidChar then some (Char.ofNat code) else none

/-- A fixed number of characters. -/
def takeFixed (flags : Flags) : Nat → List Char → Option (List Char × List Char)
  | 0, cs => some ([], cs)
  | count + 1, cs =>
    match flags.skip cs with
    | [] => none
    | c :: rest => (takeFixed flags count rest).map fun found => (c :: found.1, found.2)

/-- A character by its code point, after the letter that says how many digits follow. -/
def hexEscape (flags : Flags) (digits : Nat) (cs : List Char) : Option (Primitive × List Char) :=
  match flags.skip cs with
  | '\x7b' :: rest => do
    let (text, rest) ← untilBrace flags.spaced rest
    let c ← ofHexDigits? text
    some (.literal c false, rest)
  | cs => do
    let (text, rest) ← takeFixed flags digits cs
    let c ← ofHexDigits? text
    some (.literal c (digits == 2), rest)

/-- A set with case variants added if case is ignored. -/
def Flags.fold (flags : Flags) (set : CharSet) : CharSet :=
  if flags.ignoreCase then if flags.unicode then .anyCase set else .anyBasicCase set else set

/-- A set with case variants added if case is ignored, and then complemented if it is negated. -/
def Flags.foldAndNegate (flags : Flags) (negated : Bool) (set : CharSet) : CharSet :=
  if negated then .complement (flags.fold set) else flags.fold set

/-- The position of a separator in the name of a class, as what stands before and after it. -/
def splitName (separator : List Char) : List Char → List Char → Option (List Char × List Char)
  | _, [] => none
  | before, c :: rest =>
    if separator.isPrefixOf (c :: rest) then
      some (before.reverse, (c :: rest).drop separator.length)
    else splitName separator (c :: before) rest

/-- A named class, with the negation that its name carries. -/
def classNamed (name : List Char) : Option (Bool × CharSet) :=
  match splitName ['!', '='] [] name with
  | some (kind, value) => (Text.Property.valued? kind value).map fun test => (true, .named test)
  | none =>
    match splitName [':'] [] name <|> splitName ['='] [] name with
    | some (kind, value) => (Text.Property.valued? kind value).map fun test => (false, .named test)
    | none => (Text.Property.named? name).map fun test => (false, .named test)

/-- A named class after its letter. -/
def namedClass (flags : Flags) (negated : Bool) (cs : List Char) :
    Option (Primitive × List Char) := do
  let (name, rest) ←
    match flags.skip cs with
    | [] => none
    | '\x7b' :: rest => untilBrace flags.spaced rest
    | '\\' :: _ => none
    | c :: rest => some ([c], rest)
  let (reversed, set) ← classNamed name
  if flags.unicode then some (.set (flags.foldAndNegate (negated != reversed) set), rest) else none

/-- Digits, white space and word characters of the basic range. -/
def basicDigit (c : Char) : Bool := c.isDigit

def basicSpace (c : Char) : Bool := c == ' ' || (9 ≤ c.toNat && c.toNat ≤ 13)

def basicWord (c : Char) : Bool := c.isAlphanum || c == '_'

/-- The set of a one-letter class. -/
def letterSet? (unicode : Bool) (letter : Char) : Option (Char → Bool) :=
  match letter with
  | 'd' => some (if unicode then Text.Category.decimalNumberRanges.has else basicDigit)
  | 's' => some (if unicode then Text.isWhiteSpace else basicSpace)
  | 'w' => some (if unicode then Text.Property.isWord else basicWord)
  | _ => none

/-- A one-letter class; a capital letter is its complement, which has to be one of characters. -/
def letterClass? (flags : Flags) (letter : Char) : Option CharSet :=
  match letterSet? flags.unicode letter with
  | some test => some (.named test)
  | none =>
    match letterSet? flags.unicode letter.toLower with
    | some test => if flags.unicode then some (.complement (.named test)) else none
    | none => none

/-- The word boundary of a name in braces. -/
def namedBoundary? (unicode : Bool) (name : String) : Option Assertion :=
  match name with
  | "start" => some (.wordStart unicode)
  | "end" => some (.wordEnd unicode)
  | "start-half" => some (.wordStartHalf unicode)
  | "end-half" => some (.wordEndHalf unicode)
  | _ => none

/-- A word boundary, which may be qualified by a name in braces. -/
def boundary (flags : Flags) (cs : List Char) : Option (Primitive × List Char) :=
  let plain := some (Primitive.assertion (.wordBoundary flags.unicode), cs)
  let isNameChar (c : Char) : Bool := c.isAlpha || c == '-'
  match cs with
  | '\x7b' :: rest =>
    match flags.skip rest with
    | [] => none
    | c :: _ =>
      if isNameChar c then do
        let (name, rest) ← untilBrace flags.spaced rest
        let condition ← namedBoundary? flags.unicode (String.ofList name)
        some (.assertion condition, rest)
      else plain
  | _ => plain

/-- What a backslash and the characters after it stand for. -/
def escape (flags : Flags) : List Char → Option (Primitive × List Char)
  | [] => none
  | c :: rest =>
    if c.isDigit then none
    else if c = 'x' then hexEscape flags 2 rest
    else if c = 'u' then hexEscape flags 4 rest
    else if c = 'U' then hexEscape flags 8 rest
    else if c = 'p' then namedClass flags false rest
    else if c = 'P' then namedClass flags true rest
    else if "dswDSW".toList.contains c then
      (letterClass? flags c).map fun set => (.set set, rest)
    else if isEscapable c then some (.literal c false, rest)
    else
      let literal (code : Nat) := some (Primitive.literal (Char.ofNat code) false, rest)
      let condition (which : Assertion) := some (Primitive.assertion which, rest)
      match c with
      | 'a' => literal 7
      | 'f' => literal 12
      | 't' => literal 9
      | 'n' => literal 10
      | 'r' => literal 13
      | 'v' => literal 11
      | 'A' => condition .textStart
      | 'z' => condition .textEnd
      | 'b' => boundary flags rest
      | 'B' => condition (.notWordBoundary flags.unicode)
      | '<' => condition (.wordStart flags.unicode)
      | '>' => condition (.wordEnd flags.unicode)
      | _ => none

/-- The characters of a text as a pattern that matches exactly them. -/
def escapeChars (cs : List Char) : List Char :=
  cs.flatMap fun c => if metaChars.contains c then ['\\', c] else [c]

end Scrutiny.Pattern
