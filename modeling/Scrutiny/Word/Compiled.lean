import Scrutiny.Word.Confusables
import Scrutiny.Word.Policy
import Scrutiny.Word.Spelling

/-! # Compiled words

A banned word becomes one pattern: every unit is matched by its confusable class or by itself, runs
of separators may stand between units, and a word that is long enough accepts a blank for each
unit. How many blanks one match may use is the budget of the word; a blank that stands for a unit
is matched in a group, so the groups of a match count them.
-/

namespace Scrutiny.Word

/-- A banned word compiled under a policy. -/
structure CompiledWord where
  word : String
  /-- The text of the pattern. -/
  source : String
  pattern : Pattern
  /-- The number of units of the word. -/
  units : Nat
  /-- How many units of one match may be masked. -/
  budget : Nat

/-- The slack in comparisons of ratios. -/
def ratioSlack : Float := 1e-9

/-- How many units of a word may be masked. There is room for masks only if the word is long enough
and one more mask keeps the share of masks within the threshold. One unit always stays. -/
def maskBudget (policy : Policy) (units masked : Nat) : Nat :=
  if units < policy.minLengthForBlank then 0
  else if Float.ofNat (masked + 1) / Float.ofNat units >
      policy.blankRatioThreshold + ratioSlack then 0
  else
    -- The conversion to a whole number rounds down.
    let allowed := (Float.ofNat units * policy.blankRatioThreshold + ratioSlack).toUInt64
    min (allowed.toNat - masked) (units - (masked + 1))

/-- The pattern of a unit: its confusable class if it has one, and otherwise its own text. -/
def unitFragment (confusables : Confusables) : WordUnit → List Char
  | .plain text =>
    match text with
    | [c] => (confusables.fragment c).getD (Pattern.escapeChars text)
    | text => Pattern.escapeChars text
  | .escaped text => Pattern.escapeChars text

/-- The pattern of any number of separators. -/
def separatorRun (policy : Policy) : List Char :=
  "(?:".toList ++ policy.separatorClass.toList ++ ")*".toList

/-- The pattern of one unit of a word. A unit that is a blank itself is matched by any blank; other
units are matched by their fragment, or by a blank if the word has room for masks. -/
def unitPattern (confusables : Confusables) (policy : Policy) (budget : Nat)
    (isBlank : WordUnit → Bool) (u : WordUnit) : List Char :=
  if isBlank u then "(?:".toList ++ policy.blankClass.toList ++ ")".toList
  else if budget > 0 then
    "(?:".toList ++ unitFragment confusables u ++ "|(".toList ++ policy.blankClass.toList ++
      "))".toList
  else unitFragment confusables u

/-- The pattern of a whole word. Separators may follow each unit, but the last one only before the
end of the text. -/
def wordPattern (policy : Policy) (spelling : Spelling) (units : List (List Char)) : List Char :=
  let separator := separatorRun policy
  let start := if spelling.anchoredStart then '^' :: separator else []
  let pattern := units.foldl (fun pattern u => pattern ++ u ++ separator) start
  if spelling.anchoredEnd then pattern ++ ['$']
  else pattern.take (pattern.length - separator.length)

/-- Whether a unit is a blank itself. -/
def takenForBlank (blank : Pattern) : WordUnit → Bool
  | .plain text => (blank.find? text.toArray 0).isSome
  | .escaped _ => false

/-- Compile a banned word. -/
def compile (confusables : Confusables) (policy : Policy) (word : String) :
    Except WordError CompiledWord := do
  let spelling := Spelling.ofWord word
  if spelling.units.isEmpty then .error (.anchorOnly word)
  else
    let blank ← policy.blankPattern
    let isBlank := takenForBlank blank
    let budget := maskBudget policy spelling.size (spelling.units.countP isBlank)
    let units := spelling.units.map (unitPattern confusables policy budget isBlank)
    let source := String.ofList (wordPattern policy spelling units)
    match Pattern.read true source with
    | .error cause => .error (.unusablePattern word cause)
    | .ok pattern => .ok ⟨word, source, pattern, spelling.size, budget⟩

namespace CompiledWord

/-- Whether any unit of the word may be masked. -/
def isMaskable (compiled : CompiledWord) : Bool :=
  compiled.budget > 0

/-- A match found among consecutive places begins at one of them. -/
theorem matchWithin_bounds {pattern : Pattern} {text : Array Char} {found : Pattern.Match} :
    ∀ {count start : Nat}, pattern.matchWithin text start count = some found →
      start ≤ found.span.first ∧ found.span.first < start + count := by
  intro count
  induction count with
  | zero => intro start h; simp [Pattern.matchWithin] at h
  | succ count ih =>
    intro start h
    unfold Pattern.matchWithin at h
    cases here : pattern.matchAt text start with
    | some other =>
      rw [here] at h
      obtain rfl : other = found := Option.some.inj h
      unfold Pattern.matchAt at here
      obtain ⟨thread, _, rfl⟩ := Option.map_eq_some_iff.1 here
      constructor <;> simp
    | none =>
      rw [here] at h
      have := ih h
      omega

/-- A match is found at its start or after it, and within the text. -/
theorem find?_bounds {pattern : Pattern} {text : Array Char} {start : Nat}
    {found : Pattern.Match} (h : pattern.find? text start = some found) :
    start ≤ found.span.first ∧ found.span.first ≤ text.size := by
  have := matchWithin_bounds h
  omega

/-- The first match from a place on that keeps within the budget. Where the preferred match of a
place uses too many blanks, the search goes on one character further. -/
def findFrom (compiled : CompiledWord) (text : Array Char) (start : Nat) :
    Option Pattern.Span :=
  match h : compiled.pattern.find? text start with
  | none => none
  | some found =>
    if found.groups.length ≤ compiled.budget then some found.span
    else compiled.findFrom text (found.span.first + 1)
termination_by text.size + 1 - start
decreasing_by
  have := find?_bounds h
  omega

/-- The first fragment of a text that matches within the budget. -/
def find? (compiled : CompiledWord) (text : String) : Option String :=
  let chars := text.toList.toArray
  (compiled.findFrom chars 0).map fun span =>
    String.ofList (chars.extract span.first span.last).toList

/-- Whether a word occurs in a text. -/
def occursIn (compiled : CompiledWord) (text : String) : Bool :=
  (compiled.find? text).isSome

end CompiledWord

end Scrutiny.Word
