import Scrutiny.Json.Token
import Scrutiny.Yaml.Cursor

/-! # Quoted scalars

Between single quotes a doubled quote is a quote and nothing else is special. Between double quotes
a backslash begins an escape. In both, line ends are folded.
-/

namespace Scrutiny.Yaml

/-- What white space inside a scalar stands for: a single line end is a space, and of several the
first is dropped. The separators of lines and paragraphs are kept, and so are blanks on one line. -/
def fold (space : List Char) : List Char :=
  match space.filter isBreak with
  | [] => space
  | ['\n'] => [' ']
  | '\n' :: more => more
  | breaks => breaks

/-- What a backslash and one character stand for. -/
def escapes : List (Char × Char) :=
  [('0', '\x00'), ('a', '\x07'), ('b', '\x08'), ('t', '\t'), ('\t', '\t'), ('n', '\n'),
    ('v', '\x0b'), ('f', '\x0c'), ('r', '\r'), ('e', '\x1b'), (' ', ' '), ('"', '"'), ('/', '/'),
    ('\\', '\\'), ('N', '\u0085'), ('_', '\u00a0'), ('L', '\u2028'), ('P', '\u2029')]

/-- The number of digits after a letter that begins the escape of a code point. -/
def codeDigits : Char → Option Nat
  | 'x' => some 2
  | 'u' => some 4
  | 'U' => some 8
  | _ => none

/-- The character of a code point. -/
def charOf? (code : Nat) : Option Char :=
  if code.isValidChar then some (Char.ofNat code) else none

/-- The character that an escape stands for, and the length of the escape, from the characters
after its backslash. -/
def escape? (rest : List Char) : Option (Char × Nat) :=
  match rest with
  | [] => none
  | letter :: rest =>
    match codeDigits letter with
    | some count =>
      if rest.length < count then none
      else ((rest.take count).mapM Json.hexDigit?).bind fun digits =>
        (charOf? (Json.ofHex digits)).map fun c => (c, count + 1)
    | none => (escapes.lookup letter).map fun c => (c, 1)

/-- Read a quoted scalar from the place after its first quote. What has been read is kept latest
first, and the count bounds the characters that are left. -/
def quoted? (double : Bool) (read : List Char) : Nat → Cursor → Option (String × Cursor)
  | 0, _ => none
  | count + 1, cursor =>
    if cursor.documentMark?.isSome then none
    else match cursor.rest with
    | [] => none
    | c :: rest =>
      if isSpace c then
        let space := cursor.run isSpace
        quoted? double ((fold space).reverse ++ read) count (cursor.skip space.length)
      else if c == '\'' && !double then
        if rest.head? == some '\'' then quoted? double ('\'' :: read) count (cursor.skip 2)
        else some (String.ofList read.reverse, cursor.next)
      else if c == '"' && double then some (String.ofList read.reverse, cursor.next)
      else if c == '\\' && double then
        if rest.head?.any isBreak then
          let cursor := cursor.skip 2
          let space := cursor.run isSpace
          quoted? double ((space.filter isBreak).reverse ++ read) count (cursor.skip space.length)
        else
          match escape? rest with
          | some (escaped, length) =>
            quoted? double (escaped :: read) count (cursor.skip (length + 1))
          | none => none
      else quoted? double (c :: read) count cursor.next

/-- The quoted scalar at a place and the place after it. -/
def scanQuoted? (cursor : Cursor) : Option (String × Cursor) :=
  quoted? (cursor.sees '"') [] cursor.rest.length cursor.next

end Scrutiny.Yaml
