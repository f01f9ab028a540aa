import Scrutiny.Text.Property

/-! # Quoted text for people

A text between quotes in which everything is visible: quotes, backslashes and control characters
are escaped, and so is whatever has no visible form of its own. A mark is left as it is when it can
combine with the visible character before it.
-/

namespace Scrutiny.Text

/-- Whether a character has a visible form: assigned, and neither a control, format or private
character nor a separator other than the space. -/
def isVisible (c : Char) : Bool :=
  c == ' ' ||
    (isAssigned c && !inTables Category.otherTables c && !inTables Category.separatorTables c)

/-- A code point in braces. -/
def codeEscape (c : Char) : List Char :=
  ['\\', 'u', '\x7b'] ++ Nat.toDigits 16 c.toNat ++ ['\x7d']

/-- The escaped form of a character, if it needs one where it stands. `exposed` says that no visible
character precedes it. -/
def quotedEscape? (exposed : Bool) (c : Char) : Option (List Char) :=
  if c = '"' ∨ c = '\\' then some ['\\', c]
  else if c.toNat = 0 then some ['\\', '0']
  else if c = '\t' then some ['\\', 't']
  else if c = '\r' then some ['\\', 'r']
  else if c = '\n' then some ['\\', 'n']
  else if (exposed && Property.isGraphemeExtend c) || !isVisible c then some (codeEscape c)
  else none

/-- The quoted form of characters. -/
def quoteChars (exposed : Bool) : List Char → List Char
  | [] => []
  | c :: rest =>
    match quotedEscape? exposed c with
    | some escaped => escaped ++ quoteChars true rest
    | none => c :: quoteChars false rest

/-- A text between quotes. -/
def quoted (text : String) : String :=
  String.ofList ('"' :: (quoteChars true text.toList ++ ['"']))

end Scrutiny.Text
