/-! # Ranges of code points

A set of characters is kept as ascending ranges of code points, each with its first and its last
member.
-/

namespace Scrutiny.Text

/-- Ascending, disjoint ranges of code points. -/
abbrev Ranges := List (Nat × Nat)

/-- Whether a code point lies in one of the ranges; the search ends at the first range beyond it. -/
def Ranges.hasCode : Ranges → Nat → Bool
  | [], _ => false
  | (first, last) :: rest, code =>
    if code < first then false else if code ≤ last then true else Ranges.hasCode rest code

/-- Whether a character lies in one of the ranges. -/
def Ranges.has (ranges : Ranges) (c : Char) : Bool :=
  ranges.hasCode c.toNat

end Scrutiny.Text
