import Scrutiny.Pattern.CharSet

/-! # Patterns

The structure of a pattern after reading. Alternatives and repetitions are ordered: what stands
first is preferred.
-/

namespace Scrutiny

namespace Pattern

/-- A condition on a place in a text. -/
inductive Assertion where
  /-- The start of the text. -/
  | textStart
  /-- The end of the text. -/
  | textEnd
  /-- The start of a line; with `returns` a carriage return ends a line too. -/
  | lineStart (returns : Bool)
  /-- The end of a line. -/
  | lineEnd (returns : Bool)
  /-- A place where the character before or after is of a word and the other is not. -/
  | wordBoundary (unicode : Bool)
  | notWordBoundary (unicode : Bool)
  /-- A place where a word begins. -/
  | wordStart (unicode : Bool)
  /-- A place where a word ends. -/
  | wordEnd (unicode : Bool)
  /-- A place that no word character precedes. -/
  | wordStartHalf (unicode : Bool)
  /-- A place that no word character follows. -/
  | wordEndHalf (unicode : Bool)
  deriving Repr, DecidableEq

end Pattern

/-- A pattern. -/
inductive Pattern where
  /-- Nothing at all. -/
  | empty
  /-- One character of a set. -/
  | one (set : Pattern.CharSet)
  /-- A condition on the place. -/
  | assertion (condition : Pattern.Assertion)
  /-- A numbered group whose last match is remembered. -/
  | group (index : Nat) (body : Pattern)
  /-- One pattern after another. -/
  | seq (first second : Pattern)
  /-- The first pattern, or else the second. -/
  | alt (first second : Pattern)
  /-- Between `least` and `most` matches in a row; a greedy repetition prefers more of them. -/
  | rep (least : Nat) (most : Option Nat) (greedy : Bool) (body : Pattern)

namespace Pattern

/-- Patterns one after another. -/
def seqAll : List Pattern → Pattern
  | [] => empty
  | [only] => only
  | first :: rest => seq first (seqAll rest)

/-- Alternatives in order of preference. -/
def altAll : List Pattern → Pattern
  | [] => empty
  | [only] => only
  | first :: rest => alt first (altAll rest)

/-- The number of groups of a pattern; what can never be entered has none. -/
def groupCount : Pattern → Nat
  | empty => 0
  | one _ => 0
  | assertion _ => 0
  | group _ body => body.groupCount + 1
  | seq first second => first.groupCount + second.groupCount
  | alt first second => first.groupCount + second.groupCount
  | rep _ most _ body => if most = some 0 then 0 else body.groupCount

end Pattern

end Scrutiny
