import Scrutiny.Proofs.Word.Finding

/-! # Compiling words

A policy is checked by reading each of its classes alone, and a word is compiled by reading patterns
in which these classes are parts. A class that can be embedded reads there as it does alone, so with
such classes every word that has a unit is compiled, unless a pattern becomes too large
(`compile_of_validate`). The check does not find out whether a class can be embedded: one that ends
in a comment takes the rest of the pattern with it (`compile_commented`).
-/

namespace Scrutiny

namespace Pattern

section Whole

variable {text : Array Char} {pattern : Pattern}

/-- A pattern without groups matches the same in another place. -/
theorem Alike.matches_iff {body : Pattern} (alike : pattern.Alike .kept body)
    (groupless : pattern.Groupless) {first last : Nat} (within : first ≤ text.size) :
    body.Matches text first last ↔ pattern.Matches text first last := by
  rw [← mem_ends within, ← mem_ends within, Pattern.ends, Pattern.ends, alike.run_eq groupless]

/-- Where no character has case variants, ignoring case changes nothing. -/
theorem Alike.matches_caseless {body : Pattern} (alike : pattern.Alike .ignored body)
    (caseless : ∀ (place : Nat) c, text[place]? = some c → Text.caseVariants c = [c]) :
    body.Matches text = pattern.Matches text := by
  induction alike with
  | empty => rfl
  | one sets =>
    funext first last
    refine congrArg (· ∧ last = first + 1) (propext (exists_congr fun c => ?_))
    refine and_congr_right fun found => ?_
    rw [(sets.folds rfl).has_eq (caseless first c found)]
  | assertion => rfl
  | group _ _ _ ih => exact ih
  | seq _ _ one two => simp only [Matches, one, two]
  | alt _ _ one two => simp only [Matches, one, two]
  | rep _ _ _ _ ih => simp only [Matches, ih]

/-- A class in parentheses of its own, between the start and the end of a text. -/
theorem Standalone.read?_whole {ignoreCase : Bool} {text : String} {piece : Piece}
    (standalone : Standalone ignoreCase text piece) (room : piece.depth + 2 ≤ maxNesting) :
    ∃ body, piece.pattern.Alike .kept body ∧ read? ignoreCase ("^(?:" ++ text ++ ")$") =
      some (seqAll [.assertion .textStart, body, .assertion .textEnd]) := by
  let limit := piece.depth + 1
  let opening : Piece := ⟨.assertion .textStart, 0, false⟩
  let closing : Piece := ⟨.assertion .textEnd, 0, false⟩
  let first : ReaderState :=
    { start ignoreCase with level := (start ignoreCase).level.push opening }
  have spelled : ("^(?:" ++ text ++ ")$").toList =
      '^' :: '(' :: '?' :: ':' :: (text.toList ++ [')', '$']) := by
    simp only [String.toList_append]
    rfl
  have starts : Passes (start ignoreCase) ('^' :: '(' :: '?' :: ':' :: (text.toList ++ [')', '$']))
      first ('(' :: '?' :: ':' :: (text.toList ++ [')', '$'])) :=
    passes_item rfl rfl rfl (Nat.le_refl _)
  have flags : first.flags = (start ignoreCase).flags := rfl
  obtain ⟨body, nextGroup, names, alike, groups, passes⟩ :=
    standalone.passes_group flags (.inl standalone.alone : Goes _ first
      ('(' :: '?' :: ':' :: (text.toList ++ [')', '$'])))
  let group : Piece := ⟨body, piece.depth + 1, false⟩
  let second : ReaderState := ⟨first.flags, first.level.push group, first.opened, nextGroup, names⟩
  let third : ReaderState := { second with level := second.level.push closing }
  have ends : Passes second ['$'] third [] := passes_item rfl rfl rfl (Nat.le_refl _)
  have opened : (start ignoreCase).Extends limit [opening.pattern] first :=
    .push _ (Nat.zero_le limit : opening.depth ≤ limit) (Nat.le_refl _) _
  have inside : first.Extends limit [group.pattern] second :=
    .push first (Nat.le_refl limit : group.depth ≤ limit) groups names
  have closed : second.Extends limit [closing.pattern] third :=
    .push second (Nat.zero_le limit : closing.depth ≤ limit) (Nat.le_refl _) names
  obtain ⟨sequence, depth⟩ := ((opened.trans inside).trans closed).finish rfl
  have read := (starts.trans (passes.trans ends)).finish rfl
  exact ⟨body, alike, read?_eq_some.mpr ⟨_, spelled ▸ read, depth.trans room, sequence⟩⟩

/-- A text that can be read at all is read, unless its pattern is too large. -/
theorem read_of_read? {ignoreCase : Bool} {text : String}
    (read : read? ignoreCase text = some pattern) :
    Pattern.read ignoreCase text = .ok pattern ∨
      Pattern.read ignoreCase text = .error .tooLarge := by
  simp only [Pattern.read, read]
  split
  · exact .inl rfl
  · exact .inr rfl

end Whole

end Pattern

namespace Word

open Pattern

/-- A class can stand in parentheses of its own inside a pattern, with some levels of nesting around
it. It does not end in a comment, and it is read in the same way after groups of any names. -/
structure Embeddable (text : String) (room : Nat) : Prop where
  closed : ¬ OpenEnded text
  reads : ∃ piece, piece.depth + room ≤ maxNesting ∧ ∀ names, Alone true names text piece

/-- In a compiled word the classes of the policy are what they are alone, except that case is
ignored: their sets are the same with case ignored, so they match the same where no character has
case variants (`Pattern.Alike.matches_caseless`). Alone and with its case, the class of blanks
matches the units that are blanks. -/
structure Faithful (confusables : Confusables) (policy : Policy) (word : String)
    (w : CompiledWord) : Prop where
  separator : ∃ alone, read? false policy.separatorClass = some alone ∧
    alone.Alike .ignored (policy.tolerance confusables).separator
  blank : ∃ alone, read? false policy.blankClass = some alone ∧
    alone.Alike .ignored (policy.tolerance confusables).blank ∧
    ∀ chars, policy.takesForBlank (.plain chars) = true ↔
      alone.Matches chars.toArray 0 chars.length
  pattern : ∃ parts high, w.pattern = seqAll parts ∧ ∀ text,
    Finds (policy.tolerance confusables) (decide (0 < w.budget)) text
      ((policy.tolerance confusables).slots (Spelling.ofWord word)) 1 high parts

section Compiling

variable {confusables : Confusables} {policy : Policy} {word : String}

/-- A checked class is read with case ignored as well. -/
theorem classPattern_alike {which : PolicyClass} {text : String}
    (valid : Policy.checkClass which text = .ok ()) :
    ∃ alone, read? false text = some alone ∧ alone.Alike .ignored (classPattern text) := by
  unfold Policy.checkClass at valid
  split at valid
  · exact nomatch valid
  · next alone read =>
    obtain ⟨cased, read', alike⟩ := read?_withCase (.ignored false) (read?_of_read read)
    refine ⟨alone, read?_of_read read, ?_⟩
    rwa [classPattern, read', Option.getD_some]

/-- A checked class that can be embedded, with case ignored. -/
theorem Embeddable.fits {text : String} {room : Nat} (embeddable : Embeddable text (room + 1))
    {which : PolicyClass} (valid : Policy.checkClass which text = .ok ()) :
    ∃ piece, Fits True text (classPattern text) room (maxNesting - 1) piece := by
  obtain ⟨piece, small, nameless⟩ := embeddable.reads
  obtain ⟨piece', standalone⟩ := standalone_of_checkClass valid embeddable.closed true
  obtain rfl : piece' = piece := Option.some.inj (standalone.alone.symm.trans (nameless []))
  have small' : piece'.depth + room ≤ maxNesting - 1 := by omega
  exact ⟨piece', fits_of_standalone standalone small' fun _ => nameless⟩

/-- A checked class that can be embedded, with its case. -/
theorem Embeddable.cased {text : String} {room : Nat} (embeddable : Embeddable text room)
    {which : PolicyClass} (valid : Policy.checkClass which text = .ok ()) :
    ∃ piece, Standalone false text piece ∧ piece.depth + room ≤ maxNesting := by
  obtain ⟨piece, small, nameless⟩ := embeddable.reads
  obtain ⟨cased, standalone⟩ := standalone_of_checkClass valid embeddable.closed false
  obtain ⟨other, read, alike⟩ := readLoop_alike (start_embeds (.ignored false)) rfl standalone.alone
  obtain rfl : other = piece := Option.some.inj (read.symm.trans (nameless []))
  exact ⟨cased, standalone, alike.depth ▸ small⟩

/-- The class of blanks between the start and the end of a text matches the units that it matches
alone. -/
theorem blankPattern_of_standalone {piece : Piece}
    (standalone : Standalone false policy.blankClass piece) (room : piece.depth + 2 ≤ maxNesting) :
    policy.blankPattern = .error (.invalidClass .blank policy.blankClass .tooLarge) ∨
      ∃ blank, policy.blankPattern = .ok blank ∧ ∀ chars,
        policy.takesForBlank (.plain chars) = true ↔
          piece.pattern.Matches chars.toArray 0 chars.length := by
  obtain ⟨body, alike, read⟩ := standalone.read?_whole room
  rcases read_of_read? read with usable | tooLarge
  · have whole : policy.blankPattern = .ok (seqAll [.assertion .textStart, body,
        .assertion .textEnd]) := by
      rw [Policy.blankPattern, usable]
    refine .inr ⟨_, whole, fun chars => ?_⟩
    rw [Policy.takesForBlank, whole, ← alike.matches_iff standalone.groupless (Nat.zero_le _)]
    exact find?_whole [body] chars.toArray
  · left
    rw [Policy.blankPattern, tooLarge]

/-- The text of a word is a pattern that finds what fills the slots of the word. -/
theorem reads_word (masking : Bool)
    (separatorValid : Policy.checkClass .separator policy.separatorClass = .ok ())
    (blankValid : Policy.checkClass .blank policy.blankClass = .ok ())
    (separators : .separators ∈ (policy.tolerance confusables).slots (Spelling.ofWord word) →
      Embeddable policy.separatorClass 3)
    (blanks : Embeddable policy.blankClass 4) :
    ∃ pattern parts high, read? true (String.ofList
        (((policy.tolerance confusables).slots (Spelling.ofWord word)).flatMap
          (Slot.text confusables policy masking))) = some pattern ∧
      pattern = seqAll parts ∧ ∀ text, Finds (policy.tolerance confusables) masking text
        ((policy.tolerance confusables).slots (Spelling.ofWord word)) 1 high parts := by
  obtain ⟨blank, fits⟩ := blanks.fits blankValid
  have wide : 5 ≤ maxNesting - 1 := by decide
  have goes : Goes True (start true) (((policy.tolerance confusables).slots
      (Spelling.ofWord word)).flatMap (Slot.text confusables policy masking)) := .inl trivial
  have same : (policy.tolerance confusables).confusables = confusables := rfl
  obtain ⟨piece, parts, high, alone, small, sequence, finds⟩ :=
    reads_slots same (fun separated => (separators separated).fits separatorValid) fits wide goes
  exact ⟨_, parts, high, read?_eq_some.mpr ⟨piece, alone, small, rfl⟩, sequence, finds⟩

/-- With classes that can be embedded, a checked policy compiles every word that has a unit, and the
classes keep their meaning, unless a pattern becomes too large. -/
theorem compile_of_validate (valid : policy.validate = .ok ())
    (units : (Spelling.ofWord word).units ≠ [])
    (separators : .separators ∈ (policy.tolerance confusables).slots (Spelling.ofWord word) →
      Embeddable policy.separatorClass 3)
    (blanks : Embeddable policy.blankClass 4) :
    (∃ w, compile confusables policy word = .ok w ∧ Faithful confusables policy word w) ∨
      compile confusables policy word = .error (.unusablePattern word .tooLarge) ∨
      compile confusables policy word =
        .error (.invalidClass .blank policy.blankClass .tooLarge) := by
  obtain ⟨separatorValid, blankValid⟩ := classes_of_validate valid
  obtain ⟨cased, standalone, room⟩ := blanks.cased blankValid
  have room' : cased.depth + 2 ≤ maxNesting := by omega
  rcases blankPattern_of_standalone standalone room' with tooLarge | ⟨_, whole, matched⟩
  · have nonempty : (Spelling.ofWord word).units.isEmpty = false :=
      List.isEmpty_eq_false_iff.mpr units
    refine .inr (.inr ?_)
    simp only [compile, nonempty, tooLarge, Bool.false_eq_true, ↓reduceIte, bind, Except.bind]
  rw [compile_eq units whole]
  dsimp only
  generalize maskBudget policy _ _ = budget
  obtain ⟨pattern, parts, high, read, sequence, finds⟩ :=
    reads_word (decide (0 < budget)) separatorValid blankValid separators blanks
  rcases read_of_read? read with usable | tooLarge
  · obtain ⟨plain, read, alike⟩ := classPattern_alike blankValid
    have same : some plain = some cased.pattern :=
      read.symm.trans (read?_eq_some.mpr ⟨cased, standalone.alone, standalone.small, rfl⟩)
    obtain rfl := Option.some.inj same
    rw [usable]
    exact .inl ⟨_, rfl, classPattern_alike separatorValid, ⟨_, read, alike, matched⟩,
      parts, high, sequence, finds⟩
  · rw [tooLarge]
    exact .inr (.inl rfl)

/-- An anchored word is compiled under the default policy. -/
theorem compile_of_validate_default :
    ∃ w, compile .none {} "^abc" = .ok w ∧ Faithful .none {} "^abc" w := by
  have valid : Policy.validate {} = .ok () := validate_of_isOk (by decide +kernel)
  have units : (Spelling.ofWord "^abc").units ≠ [] := by decide +kernel
  let alone (text : String) : Piece :=
    (readLoop (text.toList.length + 1) (start true) text.toList).getD ⟨.empty, 0, false⟩
  have separators : Embeddable (Policy.separatorClass {}) 3 :=
    ⟨by decide +kernel, alone (Policy.separatorClass {}), by decide +kernel, fun _ => rfl⟩
  have blanks : Embeddable (Policy.blankClass {}) 4 :=
    ⟨by decide +kernel, alone (Policy.blankClass {}), by decide +kernel, fun _ => rfl⟩
  obtain ⟨w, compiled, -⟩ := compile_of_any .none {} "^abc" (fun _ => true) (by decide +kernel)
  rcases compile_of_validate valid units (fun _ => separators) blanks with
    holds | tooLarge | tooLarge
  · exact holds
  · cases compiled.symm.trans tooLarge
  · cases compiled.symm.trans tooLarge

/-- Where separators end in a comment, a word is not compiled under a checked policy. -/
theorem compile_commented :
    commentedSeparators.validate = .ok () ∧ (Spelling.ofWord "ab").units ≠ [] ∧
      compile .none commentedSeparators "ab" = .error (.unusablePattern "ab" .malformed) := by
  have units : (Spelling.ofWord "ab").units ≠ [] := by decide +kernel
  refine ⟨validate_of_isOk (by decide +kernel), units, ?_⟩
  cases whole : commentedSeparators.blankPattern with
  | error =>
    have usable : commentedSeparators.blankPattern.isOk = true := by decide +kernel
    rw [whole] at usable
    exact nomatch usable
  | ok blank =>
    rw [compile_eq units whole]
    dsimp only
    generalize source : String.ofList _ = text
    have none : (read? true text).isNone = true := by
      rw [← source]
      decide +kernel
    have malformed : Pattern.read true text = .error .malformed := by
      rw [Pattern.read, Option.isNone_iff_eq_none.mp none]
    rw [malformed]
    rfl

/-- Separators that name a group in a part that is never matched. -/
def namedSeparators : Policy where
  separatorClass := "-(?P<gap>a)\x7b0\x7d"

-- The name counts although the group does not, so the second run of separators cannot be read.
example : namedSeparators.validate.isOk = true ∧
    (compile .none namedSeparators "ab").isOk = true ∧
    (compile .none namedSeparators "abc").isOk = false := by
  decide +kernel

end Compiling

end Word

end Scrutiny
