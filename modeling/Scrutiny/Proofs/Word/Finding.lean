import Scrutiny.Proofs.Word.Reading

/-! # Finding words

What `find?` finds is the way to fill the slots of a word that the search prefers from a place, at
the first place where that one keeps within the budget.
-/

namespace Scrutiny.Word

open Pattern

/-- A match that is found at a place begins there. -/
theorem first_of_matchAt {pattern : Pattern} {text : Array Char} {start : Nat} {found : Match}
    (here : pattern.matchAt text start = some found) : found.span.first = start := by
  obtain ⟨thread, -, rfl⟩ := Option.map_eq_some_iff.mp here
  rfl

namespace CompiledWord

variable (w : CompiledWord) (text : Array Char)

/-- The match that is preferred from a place, if it keeps within the budget. -/
def acceptedAt (place : Nat) : Option Span :=
  (w.pattern.matchAt text place).bind fun found =>
    if found.groups.length ≤ w.budget then some found.span else none

/-- A match within the budget is the answer, and after another the search goes on behind its start.
-/
theorem findFrom_of_some {start : Nat} {found : Match}
    (here : w.pattern.find? text start = some found) :
    w.findFrom text start =
      if found.groups.length ≤ w.budget then some found.span
      else w.findFrom text (found.span.first + 1) := by
  rw [findFrom]
  split
  · next none => cases here.symm.trans none
  · next other =>
    obtain rfl := Option.some.inj (here.symm.trans other)
    rfl

theorem findFrom_of_none {start : Nat} (here : w.pattern.find? text start = none) :
    w.findFrom text start = none := by
  rw [findFrom]
  split
  · rfl
  · next some => cases here.symm.trans some

/-- Looking for a pattern goes from one place to the next. -/
theorem find?_succ (pattern : Pattern) {start : Nat} (within : start ≤ text.size) :
    pattern.find? text start =
      match pattern.matchAt text start with
      | some found => some found
      | none => pattern.find? text (start + 1) := by
  have count : text.size + 1 - start = text.size + 1 - (start + 1) + 1 := by omega
  rw [Pattern.find?, count, matchWithin]
  rfl

/-- The search accepts the match of a place or goes on one character further. -/
theorem findFrom_succ {start : Nat} (within : start ≤ text.size) :
    w.findFrom text start = (w.acceptedAt text start).or (w.findFrom text (start + 1)) := by
  have next := find?_succ text w.pattern within
  unfold acceptedAt
  cases here : w.pattern.matchAt text start with
  | some found =>
    rw [here] at next
    rw [w.findFrom_of_some text next, Option.bind_some, first_of_matchAt here]
    split <;> rfl
  | none =>
    rw [here] at next
    rw [Option.bind_none, Option.none_or]
    cases further : w.pattern.find? text (start + 1) with
    | none => rw [w.findFrom_of_none text further, w.findFrom_of_none text (next.trans further)]
    | some found =>
      rw [w.findFrom_of_some text further, w.findFrom_of_some text (next.trans further)]

/-- The search finds what is accepted at the first place where anything is. -/
theorem findFrom_eq (start : Nat) :
    w.findFrom text start =
      (List.range' start (text.size + 1 - start)).findSome? (w.acceptedAt text) := by
  generalize left : text.size + 1 - start = count
  induction count generalizing start with
  | zero =>
    refine w.findFrom_of_none text ?_
    rw [Pattern.find?, left]
    rfl
  | succ count ih =>
    rw [w.findFrom_succ text (by omega), ih (start + 1) (by omega), List.range'_succ,
      List.findSome?_cons]
    cases w.acceptedAt text start <;> rfl

end CompiledWord

section Compiling

variable {confusables : Confusables} {policy : Policy} {word : String} {w : CompiledWord}

/-- The classes of a valid policy have been checked. -/
theorem classes_of_validate (valid : policy.validate = .ok ()) :
    Policy.checkClass .separator policy.separatorClass = .ok () ∧
      Policy.checkClass .blank policy.blankClass = .ok () := by
  unfold Policy.validate at valid
  cases separator : Policy.checkClass .separator policy.separatorClass with
  | error => rw [separator] at valid; exact nomatch valid
  | ok =>
    rw [separator] at valid
    cases blank : Policy.checkClass .blank policy.blankClass with
    | error => rw [blank] at valid; exact nomatch valid
    | ok => exact ⟨rfl, rfl⟩

/-- A text that is read with the error that it might have is read. -/
theorem read?_of_read {ignoreCase : Bool} {text : String} {pattern : Pattern}
    (read : Pattern.read ignoreCase text = .ok pattern) : read? ignoreCase text = some pattern := by
  unfold Pattern.read at read
  split at read
  · exact nomatch read
  · next found known =>
    rw [known]
    split at read
    · exact congrArg some (Except.ok.inj read)
    · exact nomatch read

/-- A class that a policy may have is a pattern without groups, whether case is ignored or not. -/
theorem standalone_of_checkClass {which : PolicyClass} {text : String}
    (valid : Policy.checkClass which text = .ok ()) (closed : ¬ OpenEnded text)
    (ignoreCase : Bool) : ∃ piece, Standalone ignoreCase text piece := by
  unfold Policy.checkClass at valid
  split at valid
  · exact nomatch valid
  · next pattern read =>
    have none : pattern.groupCount = 0 := by
      by_contra some
      rw [if_pos (Nat.pos_of_ne_zero some)] at valid
      exact nomatch valid
    obtain ⟨cased, read', alike⟩ := read?_withCase (.free false ignoreCase) (read?_of_read read)
    obtain ⟨piece, alone, small, rfl⟩ := read?_eq_some.mp read'
    have groupless : piece.pattern.Groupless :=
      (bounded_of_read? read').groupless (alike.groupCount ▸ none)
    exact ⟨piece, alone, small, groupless, closed⟩

/-- A class that stands alone fits the text that it is put into, if it is not nested too deeply. -/
theorem fits_of_standalone {free : Prop} {text : String} {room limit : Nat} {piece : Piece}
    (standalone : Standalone true text piece) (small : piece.depth + room ≤ limit)
    (nameless : free → ∀ names, Alone true names text piece) :
    Fits free text (classPattern text) room limit piece where
  standalone := standalone
  same := by
    have read := read?_eq_some.mpr ⟨piece, standalone.alone, standalone.small, rfl⟩
    rw [classPattern, read, Option.getD_some]
  small := small
  nameless := nameless

/-- A blank class that can be the whole of a pattern does not end in a comment. -/
theorem blank_closed (valid : policy.validate = .ok ()) {blank : Pattern}
    (whole : policy.blankPattern = .ok blank) : ¬ OpenEnded policy.blankClass := by
  have alone := (classes_of_validate valid).2
  unfold Policy.checkClass at alone
  split at alone
  · exact nomatch alone
  · next pattern read =>
    refine not_openEnded_of_group (read?_of_read read) ?_
    unfold Policy.blankPattern at whole
    split at whole
    · exact nomatch whole
    · next pattern read => exact Option.isSome_iff_exists.mpr ⟨_, read?_of_read read⟩

/-- What a compiled word is made of. -/
structure Compiles (confusables : Confusables) (policy : Policy) (word : String)
    (w : CompiledWord) : Prop where
  named : w.word = word
  units : w.units = (Spelling.ofWord word).size
  blank : ∃ blank, policy.blankPattern = .ok blank
  budget : w.budget = maskBudget policy (Spelling.ofWord word).size
    ((Spelling.ofWord word).units.countP policy.takesForBlank)
  pattern : read? true (String.ofList
    (((policy.tolerance confusables).slots (Spelling.ofWord word)).flatMap
      (Slot.text confusables policy (decide (0 < w.budget))))) = some w.pattern

/-- A word with a unit is compiled by reading the text of its slots. -/
theorem compile_eq (some : (Spelling.ofWord word).units ≠ []) {blank : Pattern}
    (whole : policy.blankPattern = .ok blank) :
    compile confusables policy word =
      let spelling := Spelling.ofWord word
      let budget := maskBudget policy spelling.size (spelling.units.countP policy.takesForBlank)
      let source := String.ofList (((policy.tolerance confusables).slots spelling).flatMap
        (Slot.text confusables policy (decide (0 < budget))))
      ((Pattern.read true source).mapError (.unusablePattern word)).map fun pattern =>
        ⟨word, source, pattern, spelling.size, budget⟩ := by
  have nonempty : (Spelling.ofWord word).units.isEmpty = false := List.isEmpty_eq_false_iff.mpr some
  have same : takenForBlank blank = policy.takesForBlank := by
    funext u
    rw [Policy.takesForBlank, whole]
  simp only [compile, nonempty, whole, Bool.false_eq_true, ↓reduceIte, bind, Except.bind, same,
    wordPattern_eq _ some]
  generalize Pattern.read true _ = result
  cases result <;> rfl

/-- A word that is compiled has its parts, its budget and a pattern that is read. -/
theorem compiles_of_compile (compiled : compile confusables policy word = .ok w) :
    Compiles confusables policy word w := by
  cases none : (Spelling.ofWord word).units.isEmpty with
  | true =>
    simp only [compile, none, ↓reduceIte, reduceCtorEq] at compiled
  | false =>
    cases whole : policy.blankPattern with
    | error =>
      simp only [compile, none, whole, Bool.false_eq_true, ↓reduceIte, bind, Except.bind,
        reduceCtorEq] at compiled
    | ok blank =>
      rw [compile_eq (List.isEmpty_eq_false_iff.mp none) whole] at compiled
      dsimp only at compiled
      generalize read : Pattern.read true _ = result at compiled
      cases result with
      | error => exact nomatch compiled
      | ok pattern =>
        cases compiled
        exact ⟨rfl, rfl, ⟨blank, whole⟩, rfl, read?_of_read read⟩

/-- The pattern of a compiled word finds the ways to fill its slots. -/
theorem finds_of_compile (valid : policy.validate = .ok ())
    (compiled : compile confusables policy word = .ok w)
    (closed : .separators ∈ (policy.tolerance confusables).slots (Spelling.ofWord word) →
      ¬ OpenEnded policy.separatorClass) :
    ∃ parts high, w.pattern = seqAll parts ∧ ∀ text,
      Finds (policy.tolerance confusables) (decide (0 < w.budget)) text
        ((policy.tolerance confusables).slots (Spelling.ofWord word)) 1 high parts := by
  obtain ⟨separatorValid, blankValid⟩ := classes_of_validate valid
  have compiles := compiles_of_compile compiled
  obtain ⟨_, whole⟩ := compiles.blank
  obtain ⟨blank, blanks⟩ :=
    standalone_of_checkClass blankValid (blank_closed valid whole) true
  -- The reading is known to come to an end, so any limit will do that is large enough.
  refine finds_of_read? rfl (fun separated => ?_)
    (fits_of_standalone blanks (Nat.add_le_add_right blanks.small 3) False.elim)
    (by decide) compiles.pattern
  obtain ⟨separator, separators⟩ :=
    standalone_of_checkClass separatorValid (closed separated) true
  have small : separator.depth + 2 ≤ maxNesting + 3 :=
    Nat.add_le_add separators.small (by decide)
  exact ⟨separator, fits_of_standalone separators small False.elim⟩

/-- A match is accepted if it fills the slots in a way that keeps within the budget. -/
theorem acceptedAt_eq (valid : policy.validate = .ok ())
    (compiled : compile confusables policy word = .ok w)
    (closed : .separators ∈ (policy.tolerance confusables).slots (Spelling.ofWord word) →
      ¬ OpenEnded policy.separatorClass) (text : Array Char) (place : Nat) :
    w.acceptedAt text place =
      (preferred (policy.tolerance confusables) (decide (0 < w.budget)) text
        ((policy.tolerance confusables).slots (Spelling.ofWord word)) place).bind fun filling =>
          if filling.1.count .masked ≤ w.budget then some ⟨place, filling.2⟩ else none := by
  obtain ⟨parts, high, pattern, finds⟩ := finds_of_compile valid compiled closed
  have related := finds text ⟨place, []⟩ fun _ member => absurd member List.not_mem_nil
  rw [CompiledWord.acceptedAt, Pattern.matchAt, pattern]
  generalize preferred _ _ _ _ _ = wanted at related ⊢
  generalize ((seqAll parts).run text [⟨place, []⟩]).head? = found at related ⊢
  cases related with
  | none => rfl
  | some continues =>
    simp only [Option.map_some, Option.bind_some, continues.place, continues.groups,
      List.length_nil, Nat.zero_add]

/-- The budget leaves at least one unit that is not masked. -/
theorem maskBudget_le (policy : Policy) (units masked : Nat) :
    maskBudget policy units masked ≤ units - (masked + 1) := by
  unfold maskBudget
  split
  · exact Nat.zero_le _
  · split
    · exact Nat.zero_le _
    · exact Nat.min_le_right _ _

end Compiling

section Examples

/-- Hyphens may separate units, and asterisks may mask them. -/
def hyphensAndAsterisks : Policy where
  separatorClass := "[-]"
  blankClass := "[*]"

/-- A validation without an error is one that goes through. -/
theorem validate_of_isOk {policy : Policy} (valid : policy.validate.isOk = true) :
    policy.validate = .ok () := by
  cases result : policy.validate with
  | error => rw [result] at valid; exact nomatch valid
  | ok => rfl

/-- A word that compiles to something with a property has been compiled. -/
theorem compile_of_any (confusables : Confusables) (policy : Policy) (word : String)
    (holds : CompiledWord → Bool)
    (compiled : (compile confusables policy word).toOption.any holds = true) :
    ∃ w, compile confusables policy word = .ok w ∧ holds w = true := by
  cases result : compile confusables policy word with
  | error => rw [result] at compiled; exact nomatch compiled
  | ok w =>
    rw [result] at compiled
    exact ⟨w, rfl, compiled⟩

end Examples

/-- A word occurs as a fragment of a text, its units matched in given ways. -/
def Occurs (confusables : Confusables) (policy : Policy) (word : String) (stands : List Stand)
    (before fragment after : String) : Prop :=
  Occurrence (policy.tolerance confusables) (before ++ fragment ++ after).toList.toArray
    ((policy.tolerance confusables).slots (Spelling.ofWord word)) stands before.length
    (before.length + fragment.length)

section Finding

variable {confusables : Confusables} {policy : Policy} {word : String} {w : CompiledWord}

/-- A text is what stands before two places, between them and after them. -/
theorem split_text (text : String) {first last : Nat} (ordered : first ≤ last)
    (within : last ≤ text.length) :
    ∃ before after : String, text = before ++
        String.ofList (text.toList.toArray.extract first last).toList ++ after ∧
      before.length = first ∧ before.length +
        (String.ofList (text.toList.toArray.extract first last).toList).length = last := by
  obtain ⟨count, rfl⟩ := Nat.exists_eq_add_of_le ordered
  have inside : first + count ≤ text.toList.length := String.length_toList ▸ within
  have length : (text.toList.take first).length = first := List.length_take_of_le (by omega)
  have piece : (text.toList.toArray.extract first (first + count)).toList =
      (text.toList.drop first).take count := by
    rw [Array.toList_extract, List.extract_eq_take_drop, Nat.add_sub_cancel_left]
  refine ⟨String.ofList (text.toList.take first), String.ofList (text.toList.drop (first + count)),
    ?_, ?_, ?_⟩
  · rw [← String.toList_inj, String.toList_append, String.toList_append, String.toList_ofList,
      String.toList_ofList, String.toList_ofList, piece, ← List.take_add, List.take_append_drop]
  · rw [String.length_ofList, length]
  · rw [String.length_ofList, String.length_ofList, length, piece, List.length_take_of_le]
    rw [List.length_drop]
    omega

/-- A text has as many characters in an array as in itself. -/
theorem size_chars (text : String) : text.toList.toArray.size = text.length := by
  rw [List.size_toArray, String.length_toList]

/-- Masks within the budget leave a unit that is matched by itself. -/
theorem own_of_budget {tolerance : Tolerance} {text : Array Char} {spelling : Spelling}
    {stands : List Stand} {first last budget : Nat}
    (occurrence : Occurrence tolerance text (tolerance.slots spelling) stands first last)
    (bounded : budget ≤ spelling.size - (spelling.units.countP tolerance.isBlank + 1))
    (few : stands.count .masked ≤ budget)
    (some : ∃ u ∈ spelling.units, tolerance.isBlank u = false) : .own ∈ stands := by
  by_contra absent
  have letters := occurrence.count_blank
  have units : (tolerance.slots spelling).countP Slot.isLetter =
      spelling.units.countP fun u => !tolerance.isBlank u := by
    rw [Tolerance.countP_slots rfl rfl rfl]
    refine List.countP_congr fun u _ => ?_
    unfold Tolerance.slot
    split <;> simp_all [Slot.isLetter]
  have positive : 0 < spelling.units.countP fun u => !tolerance.isBlank u := by
    obtain ⟨u, member, plain⟩ := some
    exact List.countP_pos_iff.mpr ⟨u, member, plain ▸ rfl⟩
  have whole := List.length_eq_countP_add_countP tolerance.isBlank (l := spelling.units)
  rw [List.count_eq_zero.mpr absent, units] at letters
  simp only [Spelling.size] at bounded
  have same : (spelling.units.countP fun u => decide ¬tolerance.isBlank u = true) =
      spelling.units.countP fun u => !tolerance.isBlank u := by
    refine List.countP_congr fun u _ => ?_
    simp
  omega

/-- What is found is a part of the text that fills the slots of the word. -/
theorem occurrence_of_find? (valid : policy.validate = .ok ())
    (compiled : compile confusables policy word = .ok w)
    (closed : .separators ∈ (policy.tolerance confusables).slots (Spelling.ofWord word) →
      ¬ OpenEnded policy.separatorClass)
    {text fragment : String} (found : w.find? text = some fragment) :
    ∃ place last stands, last ≤ text.length ∧
      String.ofList (text.toList.toArray.extract place last).toList = fragment ∧
      Occurrence (policy.tolerance confusables) text.toList.toArray
        ((policy.tolerance confusables).slots (Spelling.ofWord word)) stands place last ∧
      stands.count .masked ≤ w.budget := by
  obtain ⟨span, accepted, rfl⟩ := Option.map_eq_some_iff.mp found
  rw [CompiledWord.findFrom_eq] at accepted
  obtain ⟨place, among, accepted⟩ := List.exists_of_findSome?_eq_some accepted
  rw [acceptedAt_eq valid compiled closed] at accepted
  obtain ⟨⟨stands, last⟩, filling, result⟩ := Option.bind_eq_some_iff.mp accepted
  obtain ⟨few, same⟩ := Option.ite_none_right_eq_some.mp result
  cases same
  have within : place ≤ text.toList.toArray.size := by
    have inside := List.mem_range'_1.mp among
    omega
  obtain ⟨occurrence, -⟩ := occurrence_of_preferred within filling
  exact ⟨place, last, stands, size_chars text ▸ occurrence.bounds.2 within, rfl, occurrence, few⟩

/-- What is found is an occurrence of the word within its budget. -/
theorem occurs_of_find? (valid : policy.validate = .ok ())
    (compiled : compile confusables policy word = .ok w)
    (closed : .separators ∈ (policy.tolerance confusables).slots (Spelling.ofWord word) →
      ¬ OpenEnded policy.separatorClass)
    {text fragment : String} (found : w.find? text = some fragment) :
    ∃ before after stands, text = before ++ fragment ++ after ∧
      Occurs confusables policy word stands before fragment after ∧
      stands.count .masked ≤ w.budget ∧
      ((Spelling.ofWord word).anchoredStart = true → before = "") ∧
      ((Spelling.ofWord word).anchoredEnd = true → after = "") ∧
      ((∃ u ∈ (Spelling.ofWord word).units, policy.takesForBlank u = false) → .own ∈ stands) := by
  obtain ⟨place, last, stands, within, rfl, occurrence, few⟩ :=
    occurrence_of_find? valid compiled closed found
  obtain ⟨before, after, whole, length, length'⟩ := split_text text occurrence.bounds.1 within
  refine ⟨before, after, stands, whole, ?_, few, fun anchored => ?_, fun anchored => ?_, ?_⟩
  · rw [Occurs, ← whole, length', length]
    exact occurrence
  · rw [← String.length_eq_zero_iff, length]
    exact occurrence.anchoredStart anchored
  · have stop := occurrence.anchoredEnd anchored
    rw [size_chars, whole, String.length_append, String.length_append, length'] at stop
    rw [← String.length_eq_zero_iff]
    omega
  · refine own_of_budget occurrence ?_ few
    rw [(compiles_of_compile compiled).budget]
    exact maskBudget_le _ _ _

/-- An anchored word is found with the separator before it. -/
theorem occurs_of_find?_anchored :
    ∃ w, compile .none hyphensAndAsterisks "^abc" = .ok w ∧ w.find? "-a-*c!" = some "-a-*c" ∧
      ∃ before after stands, "-a-*c!" = before ++ "-a-*c" ++ after ∧
        Occurs .none hyphensAndAsterisks "^abc" stands before "-a-*c" after ∧
        stands.count .masked ≤ w.budget ∧
        ((Spelling.ofWord "^abc").anchoredStart = true → before = "") ∧
        ((Spelling.ofWord "^abc").anchoredEnd = true → after = "") ∧
        ((∃ u ∈ (Spelling.ofWord "^abc").units, hyphensAndAsterisks.takesForBlank u = false) →
          .own ∈ stands) := by
  obtain ⟨w, compiled, found⟩ := compile_of_any .none hyphensAndAsterisks "^abc"
    (fun w => w.find? "-a-*c!" == some "-a-*c") (by decide +kernel)
  have fragment : w.find? "-a-*c!" = some "-a-*c" := eq_of_beq found
  have valid : hyphensAndAsterisks.validate = .ok () := validate_of_isOk (by decide +kernel)
  exact ⟨w, compiled, fragment,
    occurs_of_find? valid compiled (fun _ => by decide +kernel) fragment⟩

/-- Separators that end in a comment, with blanks that end it. -/
def commentedSeparators : Policy where
  separatorClass := "(?x)-#"
  blankClass := "[*\n]"

/-- Where separators end in a comment, something is found in which the word does not occur. -/
theorem find?_outside_occurrences :
    ∃ w, commentedSeparators.validate = .ok () ∧
      compile .none commentedSeparators "a*" = .ok w ∧ w.find? "a-]" = some "a-]" ∧
      ¬ ∃ before after stands, "a-]" = before ++ "a-]" ++ after ∧
        Occurs .none commentedSeparators "a*" stands before "a-]" after := by
  obtain ⟨w, compiled, found⟩ := compile_of_any .none commentedSeparators "a*"
    (fun w => w.find? "a-]" == some "a-]") (by decide +kernel)
  refine ⟨w, validate_of_isOk (by decide +kernel), compiled, eq_of_beq found, ?_⟩
  rintro ⟨before, after, stands, whole, occurs⟩
  have start : before.length = 0 := by
    have length := congrArg String.length whole
    rw [String.length_append, String.length_append] at length
    omega
  have slots : (commentedSeparators.tolerance .none).slots (Spelling.ofWord "a*") =
      [.letter (.plain ['a']), .separators, .blank] := by decide +kernel
  have never : ∀ place < 4,
      3 ∉ (commentedSeparators.tolerance .none).blank.ends "a-]".toList.toArray place := by
    decide +kernel
  have stop : 0 + String.length "a-]" = 3 := rfl
  rw [Occurs, ← whole, start, slots, stop] at occurs
  cases occurs with
  | step _ rest =>
    cases rest with
    | step _ rest =>
      cases rest with
      | step fills rest =>
        cases rest
        cases fills with
        | blank matched =>
          have within := matched.bounds.1
          exact never _ (Nat.lt_succ_of_le within) ((Pattern.mem_ends within).mpr matched)

/-- Something is found exactly if, from some place, the way to fill the slots that the search
prefers keeps within the budget. -/
theorem find?_isSome_iff (valid : policy.validate = .ok ())
    (compiled : compile confusables policy word = .ok w)
    (closed : .separators ∈ (policy.tolerance confusables).slots (Spelling.ofWord word) →
      ¬ OpenEnded policy.separatorClass) (text : String) :
    (w.find? text).isSome = true ↔
      ∃ place ≤ text.length, ∃ filling ∈ preferred (policy.tolerance confusables)
          (decide (0 < w.budget)) text.toList.toArray
          ((policy.tolerance confusables).slots (Spelling.ofWord word)) place,
        filling.1.count .masked ≤ w.budget := by
  rw [CompiledWord.find?, Option.isSome_map, CompiledWord.findFrom_eq,
    List.findSome?_isSome_iff, size_chars]
  refine exists_congr fun place => ?_
  rw [List.mem_range'_1, acceptedAt_eq valid compiled closed]
  refine and_congr (by omega) ?_
  cases preferred _ _ _ _ place with
  | none => simp
  | some filling => simp

/-- A word that occurs within its budget is found exactly if, from some place, the way to fill its
slots that the search prefers keeps within the budget. So it is found if no unit may be masked, and
if it occurs within its budget in whatever way it occurs from that place. -/
theorem find?_isSome_iff_of_occurs (valid : policy.validate = .ok ())
    (compiled : compile confusables policy word = .ok w)
    (closed : .separators ∈ (policy.tolerance confusables).slots (Spelling.ofWord word) →
      ¬ OpenEnded policy.separatorClass)
    {stands : List Stand} {before fragment after text : String}
    (whole : text = before ++ fragment ++ after)
    (occurs : Occurs confusables policy word stands before fragment after)
    (few : stands.count .masked ≤ w.budget) :
    ((w.find? text).isSome = true ↔
      ∃ place ≤ text.length, ∃ filling ∈ preferred (policy.tolerance confusables)
          (decide (0 < w.budget)) text.toList.toArray
          ((policy.tolerance confusables).slots (Spelling.ofWord word)) place,
        filling.1.count .masked ≤ w.budget) ∧
      (w.budget = 0 → (w.find? text).isSome = true) ∧
      ((∀ others last, Occurrence (policy.tolerance confusables) text.toList.toArray
          ((policy.tolerance confusables).slots (Spelling.ofWord word)) others before.length last →
        others.count .masked ≤ w.budget) → (w.find? text).isSome = true) := by
  have exact_ := find?_isSome_iff valid compiled closed text
  have within : before.length ≤ text.length := by
    rw [whole, String.length_append, String.length_append]
    omega
  have inside : before.length ≤ text.toList.toArray.size := size_chars text ▸ within
  have allowed : .masked ∈ stands → decide (0 < w.budget) = true := fun member =>
    decide_eq_true (Nat.lt_of_lt_of_le (List.count_pos_iff.mpr member) few)
  rw [Occurs, ← whole] at occurs
  obtain ⟨⟨others, last⟩, filled⟩ :=
    Option.isSome_iff_exists.mp (preferred_isSome occurs inside allowed)
  obtain ⟨occurrence, masks⟩ := occurrence_of_preferred inside filled
  refine ⟨exact_, fun none => ?_, fun all => ?_⟩
  -- Without a budget the pattern has no way to mask a unit, so what is preferred masks none.
  · have unmasked : .masked ∉ others := fun member => by
      have positive := of_decide_eq_true (masks member)
      omega
    refine exact_.mpr ⟨before.length, within, _, filled, ?_⟩
    rw [List.count_eq_zero.mpr unmasked]
    exact Nat.zero_le _
  · exact exact_.mpr ⟨before.length, within, _, filled, all others last occurrence⟩

/-- A word with a masked unit is found after another character. -/
theorem find?_isSome_iff_of_occurs_masked :
    ∃ w, compile .none hyphensAndAsterisks "abc" = .ok w ∧
      Occurs .none hyphensAndAsterisks "abc" [.own, .masked, .own] "x" "a-*c" "" ∧
      (w.find? "xa-*c").isSome = true := by
  obtain ⟨w, compiled, budget⟩ := compile_of_any .none hyphensAndAsterisks "abc"
    (fun w => w.budget == 1) (by decide +kernel)
  have one : w.budget = 1 := eq_of_beq budget
  have filled : preferred (hyphensAndAsterisks.tolerance .none) (decide (0 < w.budget))
      "xa-*c".toList.toArray
      ((hyphensAndAsterisks.tolerance .none).slots (Spelling.ofWord "abc")) 1 =
      some ([.own, .masked, .own], 5) := by
    rw [one]
    decide +kernel
  have occurs : Occurs .none hyphensAndAsterisks "abc" [.own, .masked, .own] "x" "a-*c" "" :=
    (occurrence_of_preferred (by decide) filled).1
  have valid : hyphensAndAsterisks.validate = .ok () := validate_of_isOk (by decide +kernel)
  have whole : "xa-*c" = "x" ++ "a-*c" ++ "" := rfl
  refine ⟨w, compiled, occurs, (find?_isSome_iff_of_occurs valid compiled
    (fun _ => by decide +kernel) whole occurs (one ▸ by decide)).1.mpr ?_⟩
  exact ⟨1, by decide, _, filled, one ▸ by decide⟩

/-- A word that occurs without a mask is missed where separators before it are preferred to it and
the way to go on uses too many masks. -/
theorem find?_misses_occurrence :
    ∃ w, Policy.validate {} = .ok () ∧ compile .none {} "c++" = .ok w ∧
      Occurs .none {} "c++" [.own, .own, .own] "" "c++" "**" ∧ w.find? "c++**" = none := by
  obtain ⟨w, compiled, misses⟩ := compile_of_any .none {} "c++"
    (fun w => w.find? "c++**" == none) (by decide +kernel)
  refine ⟨w, validate_of_isOk (by decide +kernel), compiled, ?_, eq_of_beq misses⟩
  have slots : (Policy.tolerance {} .none).slots (Spelling.ofWord "c++") =
      [.letter (.plain ['c']), .separators, .letter (.plain ['+']), .separators,
        .letter (.plain ['+'])] := by decide +kernel
  have own (c : Char) (first last : Nat) (chosen : chosenEnd "c++**".toList.toArray
      (Confusables.none.choices (.plain [c])) first = some last) :
      (Slot.letter (.plain [c])).Fills (Policy.tolerance {} .none) "c++**".toList.toArray [.own]
        first last := .own chosen
  have apart (place : Nat) : Slot.separators.Fills (Policy.tolerance {} .none)
      "c++**".toList.toArray [] place place :=
    @Slot.Fills.separators (Policy.tolerance {} .none) _ 0 _ _ rfl
  rw [Occurs, slots]
  exact .step (own 'c' 0 1 (by decide +kernel)) <| .step (apart 1) <|
    .step (own '+' 1 2 (by decide +kernel)) <| .step (apart 2) <|
      .step (own '+' 2 3 (by decide +kernel)) (.done 3)

end Finding

end Scrutiny.Word
