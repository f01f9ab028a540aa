import Scrutiny.Decimal.Literal
import Scrutiny.Value

/-! # The words of a document

A document is cut into brackets, separators, strings, names and numbers one character at a time.
The state between two characters is a `Lexeme` that has begun and not ended.
-/

namespace Scrutiny.Json

/-- A word of a document. -/
inductive Token where
  | openList | closeList | openObject | closeObject | colon | comma
  | atom (value : Value)
  deriving Inhabited

/-- What has been read of a word that is not finished; characters are kept latest first. -/
inductive Lexeme where
  /-- Between words. -/
  | blank
  /-- In a string. -/
  | string (read : List Char)
  /-- In a string, after a backslash. -/
  | escape (read : List Char)
  /-- In a string, among the four digits of a code unit; `high` is a first half that waits for its
  second. -/
  | unit (read : List Char) (high : Option Nat) (digits : List Nat)
  /-- In a string, where a second half has to follow. -/
  | pair (read : List Char) (high : Nat) (backslash : Bool)
  /-- In a name or a number. -/
  | bare (read : List Char)

/-- White space between words. -/
def isBlank (c : Char) : Bool :=
  c == ' ' || c == '\n' || c == '\r' || c == '\t'

/-- The value of a hexadecimal digit. -/
def hexDigit? (c : Char) : Option Nat :=
  if '0' ≤ c ∧ c ≤ '9' then some (c.toNat - '0'.toNat)
  else if 'a' ≤ c ∧ c ≤ 'f' then some (c.toNat - 'a'.toNat + 10)
  else if 'A' ≤ c ∧ c ≤ 'F' then some (c.toNat - 'A'.toNat + 10)
  else none

/-- The value of a run of hexadecimal digits. -/
def ofHex (digits : List Nat) : Nat :=
  digits.foldl (fun total digit => total * 16 + digit) 0

/-- Whether all of a list of characters are digits, and there is at least one. -/
def allDigits (cs : List Char) : Bool :=
  !cs.isEmpty && cs.all Char.isDigit

/-- Split a list of characters at the first one that satisfies a test, which is dropped. -/
def cut (stop : Char → Bool) (cs : List Char) : List Char × Option (List Char) :=
  let before := cs.takeWhile (fun c => !stop c)
  match cs.drop before.length with
  | [] => (before, none)
  | _ :: after => (before, some after)

/-- The exponent part of a number: an optional sign and digits. -/
def exponent? (cs : List Char) : Option Int :=
  match cs with
  | '-' :: digits => if allDigits digits then some (-(Decimal.ofDigits digits : Int)) else none
  | '+' :: digits => if allDigits digits then some (Decimal.ofDigits digits) else none
  | digits => if allDigits digits then some (Decimal.ofDigits digits) else none

/-- A number without its sign. Whole numbers in range stay whole; a negative zero does not. -/
def magnitude? (negative : Bool) (cs : List Char) : Option Number :=
  let (mantissa, exponent) := cut (fun c => c == 'e' || c == 'E') cs
  let (whole, fraction) := cut (fun c => c == '.') mantissa
  let signed (value : Float) : Number := .float (if negative then -value else value)
  if !allDigits whole || (whole.head? == some '0' && whole.length > 1) then none
  else
    match fraction, exponent with
    | none, none =>
      let value := Decimal.ofDigits whole
      if negative && 0 < value && (value : Int) ≤ -Number.minInt then some (.int (-(value : Int)))
      else if !negative && (value : Int) ≤ Number.maxInt then some (.int value)
      else (Decimal.scaled whole [] 0).map signed
    | _, _ =>
      if !allDigits (fraction.getD ['0']) then none
      else
        match exponent with
        | none => (Decimal.scaled whole (fraction.getD []) 0).map signed
        | some power =>
          (exponent? power).bind fun power =>
            (Decimal.scaled whole (fraction.getD []) power).map signed

/-- A name or a number. -/
def atom? (cs : List Char) : Option Value :=
  if cs = "null".toList then some .null
  else if cs = "true".toList then some (.bool true)
  else if cs = "false".toList then some (.bool false)
  else
    match cs with
    | '-' :: digits => (magnitude? true digits).map .number
    | digits => (magnitude? false digits).map .number

/-- The character that a one-letter escape stands for. -/
def escaped? : Char → Option Char
  | '"' => some '"'
  | '\\' => some '\\'
  | '/' => some '/'
  | 'b' => some (Char.ofNat 8)
  | 'f' => some (Char.ofNat 12)
  | 'n' => some '\n'
  | 'r' => some '\r'
  | 't' => some '\t'
  | _ => none

/-- Where a string stands after a code unit of sixteen bits has been read. -/
def afterUnit (read : List Char) (high : Option Nat) (code : Nat) : Option Lexeme :=
  let isHigh := 0xD800 ≤ code && code ≤ 0xDBFF
  let isLow := 0xDC00 ≤ code && code ≤ 0xDFFF
  match high with
  | some first =>
    if isLow then
      some (.string (Char.ofNat (0x10000 + (first - 0xD800) * 0x400 + (code - 0xDC00)) :: read))
    else none
  | none =>
    if isHigh then some (.pair read code false)
    else if isLow then none
    else some (.string (Char.ofNat code :: read))

/-- The state after one more character, with the words that it completes. -/
def step (state : Lexeme) (c : Char) : Option (Lexeme × List Token) :=
  let between : Option (Lexeme × List Token) :=
    if isBlank c then some (.blank, [])
    else match c with
      | '[' => some (.blank, [.openList])
      | ']' => some (.blank, [.closeList])
      | '\x7b' => some (.blank, [.openObject])
      | '\x7d' => some (.blank, [.closeObject])
      | ':' => some (.blank, [.colon])
      | ',' => some (.blank, [.comma])
      | '"' => some (.string [], [])
      | c => some (.bare [c], [])
  match state with
  | .blank => between
  | .string read =>
    if c == '"' then some (.blank, [.atom (.string (String.ofList read.reverse))])
    else if c == '\\' then some (.escape read, [])
    else if c.toNat < 32 then none
    else some (.string (c :: read), [])
  | .escape read =>
    if c == 'u' then some (.unit read none [], [])
    else (escaped? c).map fun plain => (.string (plain :: read), [])
  | .unit read high digits =>
    (hexDigit? c).bind fun digit =>
      if digits.length < 3 then some (.unit read high (digits ++ [digit]), [])
      else (afterUnit read high (ofHex (digits ++ [digit]))).map fun next => (next, [])
  | .pair read high backslash =>
    if backslash then if c == 'u' then some (.unit read (some high) [], []) else none
    else if c == '\\' then some (.pair read high true, [])
    else none
  | .bare read =>
    if isBlank c || "[]\x7b\x7d:,\"".toList.contains c then
      (atom? read.reverse).bind fun value =>
        between.map fun next => (next.1, .atom value :: next.2)
    else some (.bare (c :: read), [])

/-- The words of a text from a state on. -/
def tokensFrom (state : Lexeme) : List Char → Option (List Token)
  | [] =>
    match state with
    | .blank => some []
    | .bare read => (atom? read.reverse).map fun value => [.atom value]
    | _ => none
  | c :: rest =>
    (step state c).bind fun next =>
      (tokensFrom next.1 rest).map fun tokens => next.2 ++ tokens

/-- The words of a text, or nothing where a word is malformed. -/
def tokens (text : String) : Option (List Token) :=
  tokensFrom .blank text.toList

end Scrutiny.Json
