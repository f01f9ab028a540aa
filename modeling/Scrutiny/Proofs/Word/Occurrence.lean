import Scrutiny.Proofs.Pattern.Meaning
import Scrutiny.Proofs.Word.Classes
import Scrutiny.Word.Compiled

/-! # Occurrences of words

A word is a row of slots: its units, runs of separators between them, and anchors with runs of
separators at its ends. It occurs in a text where these slots are filled one after the other. A
search with backtracking that prefers what stands first finds an occurrence from every place where
there is one (`preferred_isSome`), but it does not ask how many units are masked.
-/

namespace Scrutiny

namespace Word

/-- One part of a word. -/
inductive Slot where
  /-- The start of the text. -/
  | textStart
  /-- The end of the text. -/
  | textEnd
  /-- Any number of separators. -/
  | separators
  /-- A unit that is a blank itself. -/
  | blank
  /-- Any other unit. -/
  | letter (u : WordUnit)
  deriving Repr, DecidableEq

/-- How a unit is matched. -/
inductive Stand where
  /-- A unit that is a blank is matched by a blank. -/
  | blank
  /-- A unit is matched by itself or by what is confusable with it. -/
  | own
  /-- A unit that is no blank is matched by a blank. -/
  | masked
  deriving Repr, DecidableEq

/-- What may stand for the units of words and between them. -/
structure Tolerance where
  confusables : Confusables
  separator : Pattern
  blank : Pattern
  isBlank : WordUnit → Bool

/-- The characters that may stand for each character of a unit. -/
def Confusables.choices (confusables : Confusables) : WordUnit → List (List Char)
  | .plain [c] => [(confusables.classOf c).getD [c]]
  | u => u.chars.map fun c => [c]

/-- Where characters end that are, in any case, among the choices for each of them. -/
def chosenEnd (text : Array Char) : List (List Char) → Nat → Option Nat
  | [], place => some place
  | choice :: choices, place =>
    match text[place]? with
    | some c =>
      if (Text.caseVariants c).any choice.contains then chosenEnd text choices (place + 1)
      else none
    | none => none

/-- The slot of a unit. -/
def Tolerance.slot (tolerance : Tolerance) (u : WordUnit) : Slot :=
  if tolerance.isBlank u then .blank else .letter u

/-- The slots of a word. -/
def Tolerance.slots (tolerance : Tolerance) (spelling : Spelling) : List Slot :=
  (if spelling.anchoredStart then [.textStart, .separators] else []) ++
    (spelling.units.map tolerance.slot).intersperse .separators ++
    (if spelling.anchoredEnd then [.separators, .textEnd] else [])

/-- The part of a text between two places fills a slot, with units matched in given ways. -/
inductive Slot.Fills (tolerance : Tolerance) (text : Array Char) :
    Slot → List Stand → Nat → Nat → Prop where
  | textStart : Fills tolerance text .textStart [] 0 0
  | textEnd : Fills tolerance text .textEnd [] text.size text.size
  | separators {count first last : Nat}
      (run : Pattern.Leads (tolerance.separator.Matches text) count first last) :
      Fills tolerance text .separators [] first last
  | blank {first last : Nat} (stands : tolerance.blank.Matches text first last) :
      Fills tolerance text .blank [.blank] first last
  | own {u : WordUnit} {first last : Nat}
      (stands : chosenEnd text (tolerance.confusables.choices u) first = some last) :
      Fills tolerance text (.letter u) [.own] first last
  | masked {u : WordUnit} {first last : Nat}
      (stands : tolerance.blank.Matches text first last) :
      Fills tolerance text (.letter u) [.masked] first last

/-- The part of a text between two places fills slots one after the other. -/
inductive Occurrence (tolerance : Tolerance) (text : Array Char) :
    List Slot → List Stand → Nat → Nat → Prop where
  | done (place : Nat) : Occurrence tolerance text [] [] place place
  | step {slot : Slot} {slots : List Slot} {stands later : List Stand} {first middle last : Nat}
      (fills : slot.Fills tolerance text stands first middle)
      (rest : Occurrence tolerance text slots later middle last) :
      Occurrence tolerance text (slot :: slots) (stands ++ later) first last

section Search

variable (tolerance : Tolerance) (masking : Bool) (text : Array Char)

/-- The ways to fill a slot from a place on, in order of preference. -/
def Slot.fillings : Slot → Nat → List (List Stand × Nat)
  | .textStart, place => if place = 0 then [([], place)] else []
  | .textEnd, place => if place = text.size then [([], place)] else []
  | .separators, place =>
    ((Pattern.rep 0 none true tolerance.separator).ends text place).map fun last => ([], last)
  | .blank, place => (tolerance.blank.ends text place).map fun last => ([.blank], last)
  | .letter u, place =>
    (chosenEnd text (tolerance.confusables.choices u) place).toList.map
        (fun last => ([Stand.own], last)) ++
      if masking then (tolerance.blank.ends text place).map fun last => ([.masked], last) else []

/-- The way to fill slots from a place on that is found first when the ways to fill each slot are
tried in order. -/
def preferred : List Slot → Nat → Option (List Stand × Nat)
  | [], place => some ([], place)
  | slot :: slots, place =>
    (slot.fillings tolerance masking text place).findSome? fun filling =>
      (preferred slots filling.2).map fun later => (filling.1 ++ later.1, later.2)

end Search

section Occurrences

variable {tolerance : Tolerance} {masking : Bool} {text : Array Char} {slot : Slot}
  {slots : List Slot} {stands : List Stand} {first last : Nat}

/-- Characters that are chosen lie in the text. -/
theorem chosenEnd_bounds {choices : List (List Char)}
    (chosen : chosenEnd text choices first = some last) :
    last = first + choices.length ∧ (first ≤ text.size → last ≤ text.size) := by
  induction choices generalizing first with
  | nil =>
    obtain rfl : first = last := Option.some.inj chosen
    exact ⟨rfl, id⟩
  | cons choice choices ih =>
    rw [chosenEnd] at chosen
    cases found : text[first]? with
    | none =>
      rw [found] at chosen
      exact nomatch chosen
    | some c =>
      rw [found] at chosen
      obtain ⟨_, chosen⟩ := Option.ite_none_right_eq_some.mp chosen
      obtain ⟨inside, _⟩ := Array.getElem?_eq_some_iff.mp found
      obtain ⟨rfl, keeps⟩ := ih chosen
      refine ⟨?_, fun _ => keeps inside⟩
      rw [List.length_cons]
      omega

/-- A filled slot does not end before its start, nor outside of the text. -/
theorem Slot.Fills.bounds (fills : slot.Fills tolerance text stands first last) :
    first ≤ last ∧ (first ≤ text.size → last ≤ text.size) := by
  cases fills with
  | textStart => exact ⟨Nat.le_refl _, id⟩
  | textEnd => exact ⟨Nat.le_refl _, id⟩
  | separators run =>
    refine ⟨?_, fun inside => ?_⟩
    · exact run.keeps (first ≤ ·) (fun i j before head => before.trans head.bounds.1)
        (Nat.le_refl _)
    · exact run.keeps (· ≤ text.size) (fun i j inside head => head.bounds.2 inside) inside
  | blank stands => exact stands.bounds
  | own stands =>
    obtain ⟨rfl, keeps⟩ := chosenEnd_bounds stands
    exact ⟨Nat.le_add_right _ _, keeps⟩
  | masked stands => exact stands.bounds

/-- An occurrence does not end before its start, nor outside of the text. -/
theorem Occurrence.bounds (occurrence : Occurrence tolerance text slots stands first last) :
    first ≤ last ∧ (first ≤ text.size → last ≤ text.size) := by
  induction occurrence with
  | done => exact ⟨Nat.le_refl _, id⟩
  | step fills _ ih => exact ⟨fills.bounds.1.trans ih.1, fun inside => ih.2 (fills.bounds.2 inside)⟩

/-- The ways to fill a slot that are tried are all the ways to fill it, where masks are allowed. -/
theorem Slot.mem_fillings (within : first ≤ text.size) :
    (stands, last) ∈ slot.fillings tolerance masking text first ↔
      slot.Fills tolerance text stands first last ∧ (.masked ∈ stands → masking = true) := by
  cases slot with
  | textStart =>
    simp only [fillings]
    constructor
    · intro member
      obtain ⟨rfl, same⟩ := List.mem_ite_nil_right.mp member
      cases List.mem_singleton.mp same
      exact ⟨.textStart, fun member => absurd member List.not_mem_nil⟩
    · rintro ⟨⟨⟩, -⟩
      exact List.mem_singleton_self _
  | textEnd =>
    simp only [fillings]
    constructor
    · intro member
      obtain ⟨rfl, same⟩ := List.mem_ite_nil_right.mp member
      cases List.mem_singleton.mp same
      exact ⟨.textEnd, fun member => absurd member List.not_mem_nil⟩
    · rintro ⟨⟨⟩, -⟩
      rw [if_pos rfl]
      exact List.mem_singleton_self _
  | separators =>
    simp only [fillings, List.mem_map, Pattern.mem_ends within, Pattern.Matches]
    constructor
    · rintro ⟨_, ⟨count, -, -, run⟩, same⟩
      cases same
      exact ⟨.separators run, fun member => absurd member List.not_mem_nil⟩
    · rintro ⟨fills, -⟩
      cases fills with
      | separators run =>
        exact ⟨last, ⟨_, Nat.zero_le _, fun _ bound => absurd bound (Option.some_ne_none _).symm,
          run⟩, rfl⟩
  | blank =>
    simp only [fillings, List.mem_map, Pattern.mem_ends within]
    constructor
    · rintro ⟨_, matched, same⟩
      cases same
      exact ⟨.blank matched, fun member => absurd member (by decide)⟩
    · rintro ⟨fills, -⟩
      cases fills with
      | blank matched => exact ⟨last, matched, rfl⟩
  | letter u =>
    simp only [fillings, List.mem_append, List.mem_map, Option.mem_toList, List.mem_ite_nil_right,
      Pattern.mem_ends within]
    constructor
    · rintro (⟨_, chosen, same⟩ | ⟨allowed, _, matched, same⟩)
      · cases same
        exact ⟨.own chosen, fun member => absurd member (by decide)⟩
      · cases same
        exact ⟨.masked matched, fun _ => allowed⟩
    · rintro ⟨fills, allowed⟩
      cases fills with
      | own chosen => exact .inl ⟨last, chosen, rfl⟩
      | masked matched => exact .inr ⟨allowed (List.mem_singleton_self _), last, matched, rfl⟩

/-- What the search finds is an occurrence. -/
theorem occurrence_of_preferred (within : first ≤ text.size)
    (found : preferred tolerance masking text slots first = some (stands, last)) :
    Occurrence tolerance text slots stands first last ∧ (.masked ∈ stands → masking = true) := by
  induction slots generalizing first stands with
  | nil =>
    cases found
    exact ⟨.done last, fun member => absurd member List.not_mem_nil⟩
  | cons slot slots ih =>
    obtain ⟨⟨now, middle⟩, among, result⟩ := List.exists_of_findSome?_eq_some found
    obtain ⟨⟨later, last⟩, further, same⟩ := Option.map_eq_some_iff.mp result
    cases same
    obtain ⟨fills, allowed⟩ := (Slot.mem_fillings within).mp among
    obtain ⟨rest, allowed'⟩ := ih (fills.bounds.2 within) further
    refine ⟨.step fills rest, fun member => ?_⟩
    exact (List.mem_append.mp member).elim allowed allowed'

/-- The search finds an occurrence from every place where there is one. -/
theorem preferred_isSome (occurrence : Occurrence tolerance text slots stands first last)
    (within : first ≤ text.size) (allowed : .masked ∈ stands → masking = true) :
    (preferred tolerance masking text slots first).isSome = true := by
  induction occurrence with
  | done => rfl
  | step fills rest ih =>
    have here := (Slot.mem_fillings within).mpr
      ⟨fills, fun member => allowed (List.mem_append_left _ member)⟩
    have later := ih (fills.bounds.2 within) fun member => allowed (List.mem_append_right _ member)
    rw [preferred, List.findSome?_isSome_iff]
    refine ⟨_, here, ?_⟩
    rw [Option.isSome_map]
    exact later

end Occurrences

section Anchors

variable {tolerance : Tolerance} {text : Array Char} {stands : List Stand} {first last : Nat}

/-- Slots are filled up to some place by the first of them and from there on by the others. -/
theorem Occurrence.split {slots more : List Slot}
    (occurrence : Occurrence tolerance text (slots ++ more) stands first last) :
    ∃ middle later, Occurrence tolerance text more later middle last := by
  induction slots generalizing stands first with
  | nil => exact ⟨first, stands, occurrence⟩
  | cons slot slots ih =>
    cases occurrence with
    | step fills rest => exact ih rest

/-- A word that is anchored at the start occurs there only. -/
theorem Occurrence.anchoredStart {spelling : Spelling} (anchored : spelling.anchoredStart = true)
    (occurrence : Occurrence tolerance text (tolerance.slots spelling) stands first last) :
    first = 0 := by
  rw [Tolerance.slots, if_pos anchored] at occurrence
  cases occurrence with
  | step fills rest =>
    cases fills
    rfl

/-- A word that is anchored at the end occurs there only. -/
theorem Occurrence.anchoredEnd {spelling : Spelling} (anchored : spelling.anchoredEnd = true)
    (occurrence : Occurrence tolerance text (tolerance.slots spelling) stands first last) :
    last = text.size := by
  rw [Tolerance.slots, if_pos anchored] at occurrence
  obtain ⟨middle, later, occurrence⟩ := occurrence.split
  cases occurrence with
  | step _ rest =>
    cases rest with
    | step fills rest =>
      cases rest
      cases fills
      rfl

end Anchors

namespace Slot

/-- Whether a slot is that of a unit. -/
def isUnit : Slot → Bool
  | .blank => true
  | .letter _ => true
  | _ => false

/-- Whether a slot is that of a unit which is no blank. -/
def isLetter : Slot → Bool
  | .letter _ => true
  | _ => false

end Slot

section Counts

variable {tolerance : Tolerance} {text : Array Char} {slots : List Slot} {stands : List Stand}
  {first last : Nat}

/-- Separators between slots add nothing to a count that passes over them. -/
theorem countP_intersperse {p : Slot → Bool} {separator : Slot} (apart : p separator = false)
    (slots : List Slot) : (slots.intersperse separator).countP p = slots.countP p := by
  match slots with
  | [] => rfl
  | [_] => rfl
  | slot :: second :: slots =>
    have absent : ¬ p separator = true := Bool.eq_false_iff.mp apart
    rw [List.intersperse_cons_cons, List.countP_cons, List.countP_cons_of_neg absent,
      countP_intersperse apart (second :: slots), ← List.countP_cons]

/-- Only units and what they are count in a word. -/
theorem Tolerance.countP_slots {p : Slot → Bool} (start : p .textStart = false)
    (stop : p .textEnd = false) (apart : p .separators = false) (spelling : Spelling) :
    (tolerance.slots spelling).countP p = spelling.units.countP fun u => p (tolerance.slot u) := by
  have none {slots : List Slot} (outside : ∀ slot ∈ slots, p slot = false) :
      slots.countP p = 0 :=
    List.countP_eq_zero.mpr fun slot member => Bool.eq_false_iff.mp (outside slot member)
  have before : (if spelling.anchoredStart then [Slot.textStart, .separators] else []).countP p =
      0 := by
    refine none ?_
    split <;> simp [start, apart]
  have after : (if spelling.anchoredEnd then [Slot.separators, .textEnd] else []).countP p = 0 := by
    refine none ?_
    split <;> simp [stop, apart]
  rw [slots, List.countP_append, List.countP_append, before, after, countP_intersperse apart,
    List.countP_map, Nat.zero_add, Nat.add_zero]
  rfl

/-- Every unit is matched in one way. -/
theorem Occurrence.length_stands (occurrence : Occurrence tolerance text slots stands first last) :
    stands.length = slots.countP Slot.isUnit := by
  induction occurrence with
  | done => rfl
  | step fills _ ih =>
    rw [List.length_append, ih, List.countP_cons, Nat.add_comm]
    cases fills <;> rfl

/-- Every unit that is no blank is matched in one way that is not a blank for a blank. -/
theorem Occurrence.count_blank (occurrence : Occurrence tolerance text slots stands first last) :
    stands.count .own + stands.count .masked = slots.countP Slot.isLetter := by
  induction occurrence with
  | done => rfl
  | step fills _ ih =>
    rw [List.count_append, List.count_append, List.countP_cons, ← ih]
    cases fills <;> simp [Slot.isLetter] <;> omega

/-- A unit has choices for each of its characters. -/
theorem choices_length (confusables : Confusables) (u : WordUnit) :
    (confusables.choices u).length = u.chars.length := by
  unfold Confusables.choices
  split
  · rfl
  · exact List.length_map _

/-- Where blanks and units take characters, an occurrence is at least as long as its word. -/
theorem Occurrence.long (occurrence : Occurrence tolerance text slots stands first last)
    (consuming : ∀ first last, tolerance.blank.Matches text first last → first < last)
    (spelled : ∀ u, .letter u ∈ slots → u.chars ≠ []) : first + stands.length ≤ last := by
  induction occurrence with
  | done => exact Nat.le_refl _
  | @step slot slots stands later first middle last fills _ ih =>
    have rest := ih fun u member => spelled u (List.mem_cons_of_mem _ member)
    have here : first + stands.length ≤ middle := by
      cases fills with
      | textStart => exact Nat.le_refl _
      | textEnd => exact Nat.le_refl _
      | separators run => exact (Slot.Fills.separators run).bounds.1
      | blank matched => exact consuming _ _ matched
      | @own u _ _ chosen =>
        obtain ⟨rfl, _⟩ := chosenEnd_bounds chosen
        have some := List.length_pos_of_ne_nil (spelled u List.mem_cons_self)
        rw [choices_length]
        exact Nat.add_le_add_left some first
      | masked matched => exact consuming _ _ matched
    rw [List.length_append]
    omega

end Counts

end Word

end Scrutiny
