import Scrutiny.Proofs.Pattern.Fragment
import Scrutiny.Proofs.Word.Following

/-! # Reading the pattern of a word

The text of a word's pattern is that of its slots, one after the other. It is read slot by slot, so
what is read finds what the search for a way to fill the slots finds.
-/

namespace Scrutiny.Word

open Pattern

/-- Whether a policy takes a unit for a blank. -/
def Policy.takesForBlank (policy : Policy) (u : WordUnit) : Bool :=
  match policy.blankPattern with
  | .ok blank => takenForBlank blank u
  | .error _ => false

/-- The pattern of a class of a policy inside the pattern of a word. -/
def classPattern (text : String) : Pattern :=
  (read? true text).getD .empty

/-- What a policy tolerates. -/
def Policy.tolerance (policy : Policy) (confusables : Confusables) : Tolerance where
  confusables := confusables
  separator := classPattern policy.separatorClass
  blank := classPattern policy.blankClass
  isBlank := policy.takesForBlank

/-- The text of a slot in the pattern of a word. -/
def Slot.text (confusables : Confusables) (policy : Policy) (masking : Bool) : Slot → List Char
  | .textStart => ['^']
  | .textEnd => ['$']
  | .separators => separatorRun policy
  | .blank => "(?:".toList ++ policy.blankClass.toList ++ ")".toList
  | .letter u =>
    if masking then
      "(?:".toList ++ unitFragment confusables u ++ "|(".toList ++ policy.blankClass.toList ++
        "))".toList
    else unitFragment confusables u

section Texts

variable {confusables : Confusables} {policy : Policy} {masking : Bool}

/-- Texts with the text of a separator between them are the text of slots with separators between
them. -/
theorem flatten_intersperse_map {α β : Type} (f : α → List β) (separator : α) (items : List α) :
    ((items.map f).intersperse (f separator)).flatten =
      (items.intersperse separator).flatMap f := by
  match items with
  | [] => rfl
  | [only] => rfl
  | first :: second :: items =>
    have rest := flatten_intersperse_map f separator (second :: items)
    simp only [List.map_cons, List.intersperse_cons_cons, List.flatten_cons,
      List.flatMap_cons] at rest ⊢
    rw [rest]

/-- Pushing units with a separator after each makes them all in a row. -/
theorem foldl_units (separator start : List Char) (units : List (List Char)) :
    units.foldl (fun pattern u => pattern ++ u ++ separator) start =
      start ++ units.flatMap (· ++ separator) := by
  induction units generalizing start with
  | nil => exact (List.append_nil start).symm
  | cons u units ih => rw [List.foldl_cons, ih, List.flatMap_cons, List.append_assoc start,
      List.append_assoc]

/-- Separators after each unit are separators between units, and one more at the end. -/
theorem flatMap_separated (separator : List Char) {units : List (List Char)} (some : units ≠ []) :
    units.flatMap (· ++ separator) = separator.intercalate units ++ separator := by
  match units with
  | [] => exact absurd rfl some
  | [only] => simp
  | first :: second :: units =>
    rw [List.flatMap_cons, flatMap_separated separator (List.cons_ne_nil second units),
      List.intercalate_cons_cons]
    simp only [List.append_assoc]

/-- The pattern of a word has separators between its units and at its anchors. -/
theorem wordPattern_separated (spelling : Spelling) {units : List (List Char)}
    (some : units ≠ []) : wordPattern policy spelling units =
      (if spelling.anchoredStart then '^' :: separatorRun policy else []) ++
        (separatorRun policy).intercalate units ++
        (if spelling.anchoredEnd then separatorRun policy ++ ['$'] else []) := by
  simp only [wordPattern, foldl_units, flatMap_separated (separatorRun policy) some]
  split
  · simp only [List.append_assoc]
  · rw [← List.append_assoc, List.append_nil, List.length_append, Nat.add_sub_cancel,
      List.take_left]

/-- The pattern of a word is that of its slots. -/
theorem wordPattern_eq (spelling : Spelling) (some : spelling.units ≠ []) (budget : Nat) :
    wordPattern policy spelling
        (spelling.units.map (unitPattern confusables policy budget policy.takesForBlank)) =
      ((policy.tolerance confusables).slots spelling).flatMap
        (Slot.text confusables policy (decide (0 < budget))) := by
  have units : spelling.units.map (unitPattern confusables policy budget policy.takesForBlank) =
      (spelling.units.map (policy.tolerance confusables).slot).map
        (Slot.text confusables policy (decide (0 < budget))) := by
    rw [List.map_map]
    refine List.map_congr_left fun u _ => ?_
    simp only [unitPattern, Function.comp_apply, Tolerance.slot, Policy.tolerance]
    split <;> simp only [Slot.text, decide_eq_true_eq, gt_iff_lt]
  have run : separatorRun policy = Slot.text confusables policy (decide (0 < budget)) .separators :=
    rfl
  rw [wordPattern_separated spelling (List.map_eq_nil_iff.not.mpr some)]
  simp only [Tolerance.slots, List.intercalate]
  rw [units, run, flatten_intersperse_map, List.flatMap_append, List.flatMap_append]
  refine congrArg₂ (· ++ ·) (congrArg (· ++ _) ?_) ?_
  · split <;> simp [Slot.text]
  · split <;> simp [Slot.text]

/-- Escaped characters do not begin with a question mark. -/
theorem head?_escapeChars (cs : List Char) {rest : List Char} (plain : rest.head? ≠ some '?') :
    (escapeChars cs ++ rest).head? ≠ some '?' := by
  cases cs with
  | nil => exact plain
  | cons c cs =>
    rcases escapeChars_cons c cs with ⟨_, escaped⟩ | ⟨ordinary, escaped⟩
    · rw [escaped]
      exact fun same => nomatch same
    · rw [escaped]
      exact fun same => ordinary (Option.some.inj same ▸ by decide)

/-- The fragment of a unit is a bracketed list or its own characters. -/
theorem unitFragment_cases (confusables : Confusables) (u : WordUnit) :
    (∃ members, members ≠ [] ∧ confusables.choices u = [members] ∧
        unitFragment confusables u = Confusables.bracketed members) ∨
      confusables.choices u = u.chars.map (fun c => [c]) ∧
        unitFragment confusables u = escapeChars u.chars := by
  cases u with
  | escaped text => exact .inr ⟨rfl, rfl⟩
  | plain chars =>
    rcases chars with _ | ⟨c, _ | ⟨d, chars⟩⟩
    · exact .inr ⟨rfl, rfl⟩
    · simp only [Confusables.choices, unitFragment, Confusables.fragment_eq, WordUnit.chars]
      cases found : confusables.classOf c with
      | none => exact .inr ⟨rfl, rfl⟩
      | some members =>
        have filled := List.ne_nil_of_mem (Confusables.mem_of_classOf found).2
        exact .inl ⟨members, filled, rfl, rfl⟩
    · exact .inr ⟨rfl, rfl⟩

/-- No slot begins with a question mark. -/
theorem Slot.head?_text (slot : Slot) {rest : List Char} (plain : rest.head? ≠ some '?') :
    (slot.text confusables policy masking ++ rest).head? ≠ some '?' := by
  cases slot with
  | textStart => exact nofun
  | textEnd => exact nofun
  | separators => exact nofun
  | blank => exact nofun
  | letter u =>
    rw [Slot.text]
    split
    · exact nofun
    · rcases unitFragment_cases confusables u with ⟨members, -, -, fragment⟩ | ⟨-, fragment⟩
      · rw [fragment]
        exact nofun
      · rw [fragment]
        exact head?_escapeChars _ plain

/-- The text of slots does not begin with a question mark. -/
theorem head?_texts (slots : List Slot) :
    (slots.flatMap (Slot.text confusables policy masking)).head? ≠ some '?' := by
  induction slots with
  | nil => exact nofun
  | cons slot slots ih =>
    rw [List.flatMap_cons]
    exact slot.head?_text ih

end Texts

/-- A class of a policy reads as a pattern. What it becomes in the pattern of a word, nested some
levels more deeply, stays within a limit. If names are free, no name given before can stop it. -/
structure Fits (free : Prop) (text : String) (pattern : Pattern) (room limit : Nat)
    (piece : Piece) :
    Prop where
  standalone : Standalone true text piece
  same : piece.pattern = pattern
  small : piece.depth + room ≤ limit
  nameless : free → ∀ names, Alone true names text piece

section Reading

variable {confusables : Confusables} {policy : Policy} {tolerance : Tolerance} {free : Prop}
  {limit : Nat} {blank : Piece} {state : ReaderState} {rest : List Char}

/-- The fragment of a unit is read as sets of what is chosen for its characters, in any case if case
is ignored. -/
theorem passes_unitFragment {ignoreCase : Bool} (flags : state.flags = (start ignoreCase).flags)
    (u : WordUnit) :
    ∃ next inners, List.Forall₂ Gives (confusables.choices u) inners ∧
      state.Extends 2 (inners.map fun inner => .one ((start ignoreCase).flags.fold inner)) next ∧
      Passes state (unitFragment confusables u ++ rest) next rest := by
  rcases unitFragment_cases confusables u with ⟨members, some, choices, fragment⟩ |
    ⟨choices, fragment⟩
  · rw [fragment, Confusables.bracketed, List.cons_append, List.append_assoc]
    obtain ⟨next, inner, onward, gives, passes⟩ := passes_bracketed flags some
    refine ⟨next, [inner], ?_, onward, passes⟩
    rw [choices]
    exact .cons gives .nil
  · rw [fragment]
    obtain ⟨next, onward, passes⟩ := passes_escaped flags u.chars
    refine ⟨next, u.chars.map .single, ?_, ?_, passes⟩
    · rw [choices, List.forall₂_map_left_iff, List.forall₂_map_right_iff, List.forall₂_same]
      intro c _ d
      rw [CharSet.has_single, List.contains_cons, List.contains_nil, Bool.or_false]
    · rw [List.map_map]
      exact onward.mono (Nat.zero_le 2)

/-- The fragment of a unit is read as sets of what is chosen for its characters in any case. -/
theorem passes_fragment (flags : state.flags = (start true).flags) (u : WordUnit) :
    ∃ next sets, List.Forall₂ Admits (confusables.choices u) sets ∧
      state.Extends 2 (sets.map .one) next ∧
      Passes state (unitFragment confusables u ++ rest) next rest := by
  obtain ⟨next, inners, gives, onward, passes⟩ := passes_unitFragment flags u
  refine ⟨next, inners.map .anyCase, ?_, ?_, passes⟩
  · exact List.forall₂_map_right_iff.mpr (gives.imp fun _ _ => admits_anyCase)
  · rw [List.map_map]
    exact onward

/-- A unit that may be masked is read as what it is or else a group of what a blank is. -/
theorem passes_letter (same : tolerance.confusables = confusables)
    (fits : Fits free policy.blankClass tolerance.blank 3 limit blank) (wide : 5 ≤ limit)
    (flags : state.flags = (start true).flags) (u : WordUnit)
    (goes : Goes free state (Slot.text confusables policy true (.letter u) ++ rest)) :
    ∃ next parts, state.Extends limit parts next ∧
      Passes state (Slot.text confusables policy true (.letter u) ++ rest) next rest ∧
      ∀ text, Realizes tolerance true text (.letter u) state.nextGroup next.nextGroup parts := by
  subst same
  have spelled : Slot.text tolerance.confusables policy true (.letter u) ++ rest =
      '(' :: '?' :: ':' :: (unitFragment tolerance.confusables u ++ '|' :: '(' ::
        (policy.blankClass.toList ++ ')' :: ')' :: rest)) := by
    simp [Slot.text]
  rw [spelled] at goes ⊢
  let known (parts : List Pattern) : Prop :=
    ∃ sets, List.Forall₂ Admits (tolerance.confusables.choices u) sets ∧ parts = sets.map .one
  have first : ∀ (state : ReaderState) (rest : List Char), state.flags = (start true).flags →
      ∃ next parts, known parts ∧ state.Extends 2 parts next ∧
        Passes state (unitFragment tolerance.confusables u ++ rest) next rest := by
    intro state rest flags
    obtain ⟨next, sets, admits, onward, passes⟩ := passes_fragment flags u
    exact ⟨next, _, ⟨sets, admits, rfl⟩, onward, passes⟩
  obtain ⟨next, _, index, body, ⟨sets, admits, rfl⟩, alike, low, high, onward, passes⟩ :=
    fits.standalone.passes_or_numbered flags wide fits.small known first
      (goes.imp_left fits.nameless)
  have groupless := fits.standalone.groupless
  rw [fits.same] at alike groupless
  exact ⟨next, _, onward, passes, fun text => realizes_letter admits alike groupless low high⟩

/-- A sign for an assertion is read as the assertion. -/
theorem passes_assertion {condition : Assertion} {c : Char}
    (flags : state.flags = (start true).flags)
    (asked : decode state.flags c rest = some (.item (.assertion condition) 0, rest)) :
    ∃ next, state.Extends limit [.assertion condition] next ∧ next.nextGroup = state.nextGroup ∧
      Passes state (c :: rest) next rest := by
  let piece : Piece := ⟨.assertion condition, 0, false⟩
  have pushed : state.Extends limit [piece.pattern] _ :=
    .push state (Nat.zero_le limit : piece.depth ≤ limit) (Nat.le_refl _) state.names
  exact ⟨_, pushed, rfl, passes_item (flags ▸ rfl) asked rfl (Nat.le_refl _)⟩

/-- Separators are read as any number of what a separator is. -/
theorem passes_separators {masking : Bool} {separator : Piece}
    (fits : Fits free policy.separatorClass tolerance.separator 2 limit separator)
    (flags : state.flags = (start true).flags) (plain : rest.head? ≠ some '?')
    (goes : Goes free state (Slot.text confusables policy masking .separators ++ rest)) :
    ∃ next parts, state.Extends limit parts next ∧
      Passes state (Slot.text confusables policy masking .separators ++ rest) next rest ∧
      ∀ text, Realizes tolerance masking text .separators state.nextGroup next.nextGroup parts := by
  have spelled : Slot.text confusables policy masking .separators ++ rest =
      '(' :: '?' :: ':' :: (policy.separatorClass.toList ++ ')' :: '*' :: rest) := by
    simp [Slot.text, separatorRun]
  rw [spelled] at goes ⊢
  obtain ⟨body, nextGroup, names, alike, groups, passes⟩ :=
    fits.standalone.passes_repeated flags plain (goes.imp_left fun free => fits.nameless free _)
  let piece : Piece := ⟨.rep 0 none true body, separator.depth + 2, false⟩
  have small : piece.depth ≤ limit := fits.small
  have pushed : state.Extends limit [piece.pattern] _ := .push state small groups names
  have groupless := fits.standalone.groupless
  rw [fits.same] at alike groupless
  exact ⟨_, _, pushed, passes, fun text => realizes_separators alike groupless groups⟩

/-- A blank is read as what a blank is. -/
theorem passes_blank {masking : Bool}
    (fits : Fits free policy.blankClass tolerance.blank 3 limit blank)
    (flags : state.flags = (start true).flags)
    (goes : Goes free state (Slot.text confusables policy masking .blank ++ rest)) :
    ∃ next parts, state.Extends limit parts next ∧
      Passes state (Slot.text confusables policy masking .blank ++ rest) next rest ∧
      ∀ text, Realizes tolerance masking text .blank state.nextGroup next.nextGroup parts := by
  have spelled : Slot.text confusables policy masking .blank ++ rest =
      '(' :: '?' :: ':' :: (policy.blankClass.toList ++ ')' :: rest) := by
    simp [Slot.text]
  rw [spelled] at goes ⊢
  obtain ⟨body, nextGroup, names, alike, groups, passes⟩ :=
    fits.standalone.passes_group flags (goes.imp_left fun free => fits.nameless free _)
  let piece : Piece := ⟨body, blank.depth + 1, false⟩
  have small : piece.depth ≤ limit := (Nat.add_le_add_left (by decide) _).trans fits.small
  have pushed : state.Extends limit [piece.pattern] _ := .push state small groups names
  have groupless := fits.standalone.groupless
  rw [fits.same] at alike groupless
  exact ⟨_, _, pushed, passes, fun text => realizes_blank alike groupless groups⟩

/-- A slot is read as parts that fill it. -/
theorem passes_slot {masking : Bool} {slot : Slot} (same : tolerance.confusables = confusables)
    (separators : slot = .separators →
      ∃ separator, Fits free policy.separatorClass tolerance.separator 2 limit separator)
    (fits : Fits free policy.blankClass tolerance.blank 3 limit blank) (wide : 5 ≤ limit)
    (flags : state.flags = (start true).flags) (plain : rest.head? ≠ some '?')
    (goes : Goes free state (slot.text confusables policy masking ++ rest)) :
    ∃ next parts, state.Extends limit parts next ∧
      Passes state (slot.text confusables policy masking ++ rest) next rest ∧
      ∀ text, Realizes tolerance masking text slot state.nextGroup next.nextGroup parts := by
  cases slot with
  | textStart =>
    have asked : decode state.flags '^' rest = some (.item (.assertion .textStart) 0, rest) := by
      rw [flags]
      rfl
    obtain ⟨next, onward, groups, passes⟩ := passes_assertion flags asked
    refine ⟨next, _, onward, passes, fun text => ?_⟩
    rw [groups]
    exact realizes_assertion (fun place => by simp [Slot.fillings, Assertion.holds]) _
  | textEnd =>
    have asked : decode state.flags '$' rest = some (.item (.assertion .textEnd) 0, rest) := by
      rw [flags]
      rfl
    obtain ⟨next, onward, groups, passes⟩ := passes_assertion flags asked
    refine ⟨next, _, onward, passes, fun text => ?_⟩
    rw [groups]
    exact realizes_assertion (fun place => by simp [Slot.fillings, Assertion.holds]) _
  | separators =>
    obtain ⟨separator, fits⟩ := separators rfl
    exact passes_separators fits flags plain goes
  | blank => exact passes_blank fits flags goes
  | letter u =>
    cases masking with
    | true => exact passes_letter same fits wide flags u goes
    | false =>
      obtain ⟨next, sets, admits, onward, passes⟩ := passes_fragment flags u
      have low : 2 ≤ limit := (by decide : 2 ≤ 5).trans wide
      refine ⟨next, _, onward.mono low, passes, fun text => realizes_own ?_ onward.nextGroup⟩
      rw [same]
      exact admits

/-- Slots are read as parts that find what fills them. -/
theorem passes_slots {masking : Bool} {slots : List Slot}
    (same : tolerance.confusables = confusables)
    (separators : .separators ∈ slots →
      ∃ separator, Fits free policy.separatorClass tolerance.separator 2 limit separator)
    (fits : Fits free policy.blankClass tolerance.blank 3 limit blank) (wide : 5 ≤ limit)
    (flags : state.flags = (start true).flags)
    (goes : Goes free state (slots.flatMap (Slot.text confusables policy masking))) :
    ∃ next parts, state.Extends limit parts next ∧
      Passes state (slots.flatMap (Slot.text confusables policy masking)) next [] ∧
      ∀ text, Finds tolerance masking text slots state.nextGroup next.nextGroup parts := by
  induction slots generalizing state with
  | nil => exact ⟨state, [], .refl state, .refl state [], fun text => finds_nil _⟩
  | cons slot slots ih =>
    rw [List.flatMap_cons] at goes ⊢
    obtain ⟨next, parts, onward, passes, here⟩ := passes_slot same
      (fun known => separators (known ▸ List.mem_cons_self)) fits wide flags (head?_texts slots)
      goes
    obtain ⟨last, others, further, passes', later⟩ :=
      ih (fun member => separators (List.mem_cons_of_mem _ member)) (onward.flags.trans flags)
        (goes.pass passes)
    exact ⟨last, _, onward.trans further, passes.trans passes',
      fun text => (here text).finds (later text)⟩

/-- The text of slots is a pattern that finds what fills them, if nothing can stop the reading or if
it is known to be a pattern. -/
theorem reads_slots {masking : Bool} {slots : List Slot}
    (same : tolerance.confusables = confusables)
    (separators : .separators ∈ slots →
      ∃ separator, Fits free policy.separatorClass tolerance.separator 2 limit separator)
    (fits : Fits free policy.blankClass tolerance.blank 3 limit blank) (wide : 5 ≤ limit)
    (goes : Goes free (start true) (slots.flatMap (Slot.text confusables policy masking))) :
    ∃ piece parts high,
      Alone true [] (String.ofList (slots.flatMap (Slot.text confusables policy masking))) piece ∧
      piece.depth ≤ limit + 1 ∧ piece.pattern = seqAll parts ∧
      ∀ text, Finds tolerance masking text slots 1 high parts := by
  obtain ⟨next, parts, onward, passes, finds⟩ := passes_slots same separators fits wide rfl goes
  obtain ⟨pattern, depth⟩ := onward.finish rfl
  refine ⟨next.level.finish, parts, next.nextGroup, ?_, depth, pattern, finds⟩
  rw [Alone, String.toList_ofList]
  exact passes.finish onward.opened

/-- What is read of the text of slots finds what fills them. -/
theorem finds_of_read? {masking : Bool} {slots : List Slot} {pattern : Pattern}
    (same : tolerance.confusables = confusables)
    (separators : .separators ∈ slots →
      ∃ separator, Fits False policy.separatorClass tolerance.separator 2 limit separator)
    (fits : Fits False policy.blankClass tolerance.blank 3 limit blank) (wide : 5 ≤ limit)
    (read : read? true (String.ofList (slots.flatMap (Slot.text confusables policy masking))) =
      some pattern) :
    ∃ parts high, pattern = seqAll parts ∧
      ∀ text, Finds tolerance masking text slots 1 high parts := by
  obtain ⟨piece, whole, -, rfl⟩ := read?_eq_some.mp read
  have goes : Goes False (start true) (slots.flatMap (Slot.text confusables policy masking)) := by
    rw [String.toList_ofList] at whole
    exact .inr ⟨_, _, whole⟩
  obtain ⟨piece', parts, high, alone, -, pattern, finds⟩ :=
    reads_slots same separators fits wide goes
  obtain rfl := Option.some.inj (whole.symm.trans alone)
  exact ⟨parts, high, pattern, finds⟩

end Reading

end Scrutiny.Word
