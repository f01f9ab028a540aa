import Scrutiny.Yaml.Quoted
import Scrutiny.Yaml.Token

/-! # Anchors, tags and directives

Names begin with an ampersand or an asterisk, tags with an exclamation mark. A line that begins with
a percent sign names the version of the language or lays down a handle of tags.
-/

namespace Scrutiny.Yaml

/-- Characters that a name may be followed by without white space. -/
def mayFollowName (c : Char) : Bool :=
  ['?', ':', ',', ']', '}', '%', '@', '\x60'].contains c

/-- The name after an ampersand or an asterisk, and the place after it. -/
def scanName? (cursor : Cursor) : Option (String × Cursor) :=
  let name := cursor.next.run isNameChar
  let after := cursor.next.skip name.length
  if name.isEmpty || !(after.atGap || after.rest.head?.any mayFollowName) then none
  else some (String.ofList name, after)

/-- Characters of tags; those of brackets only where a tag is written in full. -/
def isTagChar (full : Bool) (c : Char) : Bool :=
  isNameChar c ||
    [';', '/', '?', ':', '@', '&', '=', '+', '$', '.', '%', '!', '~', '*', '\'', '(', ')'].contains
      c || (full && [',', '[', ']'].contains c)

/-- The number of bytes of a character by its first byte, and the bits of it that the first byte
holds. -/
def leadByte? (byte : Nat) : Option (Nat × Nat) :=
  if byte < 0x80 then some (1, byte)
  else if 0xC0 ≤ byte ∧ byte < 0xE0 then some (2, byte % 0x20)
  else if 0xE0 ≤ byte ∧ byte < 0xF0 then some (3, byte % 0x10)
  else if 0xF0 ≤ byte ∧ byte < 0xF8 then some (4, byte % 0x08)
  else none

/-- The character of bytes in groups of bits, and how many bytes there are. -/
def charOfBytes? : List Nat → Option (Char × Nat)
  | [] => none
  | lead :: rest =>
    (leadByte? lead).bind fun (count, bits) =>
      let tail := rest.take (count - 1)
      if tail.length + 1 < count || tail.any (fun byte => byte / 0x40 != 2) then none
      else (charOf? (tail.foldl (fun code byte => code * 0x40 + byte % 0x40) bits)).map
        fun c => (c, count)

/-- The bytes at the head of a text that are written as percent signs with two digits. -/
def percentBytes : List Char → List Nat
  | '%' :: high :: low :: rest =>
    match Json.hexDigit? high, Json.hexDigit? low with
    | some high, some low => (high * 16 + low) :: percentBytes rest
    | _, _ => []
  | _ => []

/-- Replace the characters that are written as bytes; the count bounds the characters. -/
def decodeTag? : Nat → List Char → Option (List Char)
  | 0, _ => some []
  | _, [] => some []
  | count + 1, '%' :: rest =>
    (charOfBytes? (percentBytes ('%' :: rest))).bind fun (c, bytes) =>
      (decodeTag? count (rest.drop (3 * bytes - 1))).map (c :: ·)
  | count + 1, c :: rest => (decodeTag? count rest).map (c :: ·)

/-- The characters of a tag at a place, decoded, and the place after them. -/
def scanTagText? (full : Bool) (cursor : Cursor) : Option (String × Cursor) :=
  let run := cursor.run (isTagChar full)
  (decodeTag? run.length run).map fun text => (String.ofList text, cursor.skip run.length)

/-- A handle of tags at a place: exclamation marks around a name that may be empty, or one
exclamation mark and a name. -/
def scanHandle? (cursor : Cursor) : Option (String × Cursor) :=
  if !cursor.sees '!' then none
  else
    let name := cursor.next.run isNameChar
    let after := cursor.next.skip name.length
    if after.sees '!' then some (String.ofList (('!' :: name) ++ ['!']), after.next)
    else some (String.ofList ('!' :: name), after)

/-- Whether a handle begins and ends with different exclamation marks. -/
def isNamedHandle (handle : String) : Bool :=
  match handle.toList with
  | _ :: rest => rest.getLast? == some '!'
  | [] => false

/-- The tag at a place. -/
def tag? (cursor : Cursor) : Option (Token × Cursor) := do
  if cursor.next.sees '<' then
    let (suffix, after) ← scanTagText? true (cursor.skip 2)
    if suffix.isEmpty || !after.sees '>' then none
    else some (.tag "" suffix, after.next)
  else
    let (handle, after) ← scanHandle? cursor
    let (text, after) ← scanTagText? false after
    if isNamedHandle handle then
      if text.isEmpty then none else some (.tag handle text, after)
    else
      let suffix := String.ofList (handle.toList.drop 1) ++ text
      some (if suffix.isEmpty then .tag "" "!" else .tag "!" suffix, after)

/-- The tag at a place, which white space follows or, within brackets, a comma. -/
def scanTag? (inFlow : Bool) (cursor : Cursor) : Option (Token × Cursor) := do
  let (token, after) ← tag? cursor
  if after.atGap || (inFlow && after.sees ',') then some (token, after) else none

/-- A number of a version, and the place after it. -/
def scanNumber? (cursor : Cursor) : Option (Nat × Cursor) :=
  let digits := cursor.run Char.isDigit
  if digits.isEmpty || digits.length > 9 then none
  else some (Decimal.ofDigits digits, cursor.skip digits.length)

/-- The directive at a percent sign, and the start of the next line. -/
def scanDirective? (cursor : Cursor) : Option (Token × Cursor) := do
  let (name, after) := (cursor.next.run isNameChar, cursor.next.skipWhile isNameChar)
  if !after.atGap then none
  else
    let after := after.skipWhile isBlank
    match String.ofList name with
    | "YAML" =>
      let (major, after) ← scanNumber? after
      if !after.sees '.' then none
      else
        let (minor, after) ← scanNumber? after.next
        some (.version major minor, ← after.endLine?)
    | "TAG" =>
      let (handle, after) ← scanHandle? after
      if handle != "!" && !isNamedHandle handle || !after.rest.head?.any isBlank then none
      else
        let (text, after) ← scanTagText? true (after.skipWhile isBlank)
        if text.isEmpty || !after.atGap then none
        else some (.handle handle text, ← after.endLine?)
    | _ => none

end Scrutiny.Yaml
