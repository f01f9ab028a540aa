import Scrutiny.Text.Folding

/-! # Sets of characters in patterns

A set is built from ranges and named sets by the operations that a bracketed class offers. What a
set contains is read off its structure by `CharSet.has`.
-/

namespace Scrutiny.Pattern

/-- A set of characters as a pattern writes it. -/
inductive CharSet where
  /-- No character. -/
  | empty
  /-- The characters from one to another. -/
  | range (first last : Char)
  /-- The characters that satisfy a test. -/
  | named (test : Char → Bool)
  | union (left right : CharSet)
  | intersection (left right : CharSet)
  | difference (left right : CharSet)
  | symmetricDifference (left right : CharSet)
  | complement (inner : CharSet)
  /-- Every case variant of a member. -/
  | anyCase (inner : CharSet)
  /-- Every case variant of a member, among the letters of the basic range. -/
  | anyBasicCase (inner : CharSet)

/-- A letter of the basic range in both cases, or the character alone. -/
def basicVariants (c : Char) : List Char :=
  [c, c.toLower, c.toUpper]

namespace CharSet

/-- Whether a character belongs to a set. -/
def has : CharSet → Char → Bool
  | empty, _ => false
  | range first last, c => first ≤ c && c ≤ last
  | named test, c => test c
  | union left right, c => left.has c || right.has c
  | intersection left right, c => left.has c && right.has c
  | difference left right, c => left.has c && !right.has c
  | symmetricDifference left right, c => left.has c != right.has c
  | complement inner, c => !inner.has c
  | anyCase inner, c => (Text.caseVariants c).any inner.has
  | anyBasicCase inner, c => (basicVariants c).any inner.has

/-- The set of one character. -/
def single (c : Char) : CharSet :=
  range c c

/-- Every character. -/
def all : CharSet :=
  complement empty

/-- The union of several sets, from left to right. -/
def unionAll : List CharSet → CharSet
  | [] => empty
  | first :: rest => rest.foldl union first

@[simp] theorem has_single (c d : Char) : (single c).has d = (d == c) := by
  simp only [single, has, Bool.beq_eq_decide_eq, Bool.and_eq_decide]
  by_cases same : d = c
  · subst same
    simp
  · have apart : ¬ (c ≤ d ∧ d ≤ c) := fun both => same (Char.le_antisymm both.2 both.1)
    simpa [same] using apart

end CharSet

end Scrutiny.Pattern
