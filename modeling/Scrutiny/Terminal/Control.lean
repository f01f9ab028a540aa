/-! # Control sequences

Text that was meant for a terminal holds sequences that begin with an escape and do not show. They
are taken out, and so are the control characters other than line feed and delete. Characters inside
a sequence belong to it, except that a line feed still counts in the short ones.
-/

namespace Scrutiny.Terminal

/-- Where in a sequence a character stands. -/
inductive Stage where
  /-- Outside all sequences. -/
  | text
  /-- After an escape. -/
  | escape
  /-- After an escape and further characters that announce the last one. -/
  | escapeRest
  /-- Among the parameters of a control sequence. -/
  | parameters
  /-- In a command of the operating system. -/
  | command
  /-- At the start of the heading of a device control string. -/
  | device
  /-- Among the parameters of that heading. -/
  | deviceParameters
  /-- At the end of that heading. -/
  | deviceRest
  /-- In a string that has no text to show. -/
  | string
  deriving DecidableEq

/-- The bytes that encode a character. -/
def bytesOf (c : Char) : List Nat :=
  (String.ofList [c]).toUTF8.toList.map UInt8.toNat

/-- Whether a code lies between two others. -/
def within (code low high : Nat) : Bool :=
  low ≤ code && code ≤ high

/-- The byte that ends a string. -/
def stringEnd : Nat := 0x9C

/-- What is left of a character whose encoding holds the byte that ends a string: the bytes after
it stand for nothing. -/
def remnant (bytes : List Nat) : List Char :=
  ((bytes.dropWhile (· != stringEnd)).drop 1).flatMap fun byte =>
    if byte < 0xA0 then [] else ['\ufffd']

/-- The stage after a character in the heading of a device control string. -/
def afterHeading (stage : Stage) (code : Nat) : Stage :=
  if within code 0x20 0x2F then .deviceRest
  else if within code 0x30 0x3B && stage != .deviceRest then .deviceParameters
  else if within code 0x3C 0x3F && stage == .device then .deviceParameters
  else if within code 0x30 0x7E then .string
  else stage

/-- The stage after a character that follows an escape at once. -/
def afterEscape (c : Char) : Stage :=
  match c with
  | '[' => .parameters
  | ']' => .command
  | 'P' => .device
  | 'X' => .string
  | '^' => .string
  | '_' => .string
  | c =>
    if within c.toNat 0x20 0x2F then .escapeRest
    else if within c.toNat 0x30 0x7E then .text
    else .escape

/-- The stage after a character, and the characters that remain of it. -/
def advance (stage : Stage) (c : Char) : Stage × List Char :=
  let code := c.toNat
  if code = 0x1B then (.escape, [])
  else if code = 0x18 ∨ code = 0x1A then (.text, [])
  else
    let lineFeed := if c == '\n' then [c] else []
    match stage with
    | .text => (.text, if code < 0x20 || within code 0x80 0x9F then lineFeed else [c])
    | .escape => (afterEscape c, lineFeed)
    | .escapeRest => (if within code 0x30 0x7E then .text else .escapeRest, lineFeed)
    | .parameters => (if within code 0x40 0x7E then .text else .parameters, lineFeed)
    | .command => (if code = 0x07 then .text else .command, [])
    | .string =>
      let bytes := bytesOf c
      if bytes.contains stringEnd then (.text, remnant bytes) else (.string, [])
    | heading => (afterHeading heading code, [])

/-- The characters that show, from a stage on. -/
def visibleFrom : Stage → List Char → List Char
  | _, [] => []
  | stage, c :: rest =>
    let (next, shown) := advance stage c
    shown ++ visibleFrom next rest

/-- A text without control sequences and control characters. -/
def visible (text : String) : String :=
  String.ofList (visibleFrom .text text.toList)

end Scrutiny.Terminal
