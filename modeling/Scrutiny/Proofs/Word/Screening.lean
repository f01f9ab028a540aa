import Scrutiny.Proofs.Word.Finding
import Scrutiny.Word.Screen

/-! # Screening without passing over words

Passing over a word that has more units than a text has characters changes nothing where the blanks
of a policy take characters: every unit of an occurrence takes one. Keeping compiled words changes
nothing either, since what is kept is what compiling gives.
-/

namespace Scrutiny.Word

open Pattern

section Lengths

variable {confusables : Confusables} {policy : Policy} {word : String} {w : CompiledWord}

/-- Every unit of a word has a character. -/
theorem chars_ne_nil {u : WordUnit} (member : u ∈ (Spelling.ofWord word).units) :
    u.chars ≠ [] := by
  simp only [Spelling.ofWord, List.mem_filterMap] at member
  obtain ⟨piece, -, made⟩ := member
  unfold Spelling.unitOfPiece at made
  split at made
  · cases made
    exact List.cons_ne_nil _ _
  · obtain ⟨some, same⟩ := Option.ite_none_left_eq_some.mp made
    cases same
    rintro empty
    obtain rfl : piece = [] := empty
    exact some rfl

/-- The letters of a word are among its units. -/
theorem letter_mem_units {tolerance : Tolerance} {spelling : Spelling} {u : WordUnit}
    (member : .letter u ∈ tolerance.slots spelling) : u ∈ spelling.units := by
  have counted : 0 < (tolerance.slots spelling).countP fun slot => decide (slot = .letter u) :=
    List.countP_pos_iff.mpr ⟨_, member, decide_eq_true rfl⟩
  rw [Tolerance.countP_slots rfl rfl rfl] at counted
  obtain ⟨v, among, same⟩ := List.countP_pos_iff.mp counted
  have slot := of_decide_eq_true same
  unfold Tolerance.slot at slot
  split at slot
  · exact nomatch slot
  · cases slot
    exact among

/-- Nothing is found in a text that is shorter than a word, where blanks take characters. -/
theorem find?_eq_none_of_short (valid : policy.validate = .ok ())
    (compiled : compile confusables policy word = .ok w)
    (closed : .separators ∈ (policy.tolerance confusables).slots (Spelling.ofWord word) →
      ¬ OpenEnded policy.separatorClass)
    {text : String} (consuming : ∀ first last,
      (classPattern policy.blankClass).Matches text.toList.toArray first last → first < last)
    (short : text.length < w.units) : w.find? text = none := by
  by_contra some
  obtain ⟨fragment, found⟩ := Option.ne_none_iff_exists'.mp some
  obtain ⟨place, last, stands, within, -, occurrence, -⟩ :=
    occurrence_of_find? valid compiled closed found
  have long := occurrence.long consuming fun u member => chars_ne_nil (letter_mem_units member)
  have units : stands.length = w.units := by
    rw [occurrence.length_stands, Tolerance.countP_slots rfl rfl rfl,
      (compiles_of_compile compiled).units, Spelling.size, List.countP_eq_length]
    intro u _
    unfold Tolerance.slot
    split <;> rfl
  omega

end Lengths

/-- The first of several words that occurs in a text, none passed over and none kept. -/
def findPlainly (confusables : Confusables) (policy : Policy) (text : String) :
    List String → Except WordError (Option WordMatch)
  | [] => .ok none
  | word :: rest =>
    match compile confusables policy word with
    | .error error => .error error
    | .ok compiled =>
      match compiled.find? text with
      | some fragment => .ok (some ⟨word, fragment⟩)
      | none => findPlainly confusables policy text rest

namespace Screen

variable {policy : Policy} {confusables : Confusables} {screen : Screen}

/-- A screen under a policy that keeps only what compiling gives. -/
structure Sound (policy : Policy) (confusables : Confusables) (screen : Screen) : Prop where
  under : screen.policy = policy
  table : screen.confusables = confusables
  kept : ∀ word w, screen.compiled.get? word = some w →
    Word.compile confusables policy word = .ok w

/-- A new screen is made under a valid policy and keeps nothing. -/
theorem make_eq_ok (made : make policy confusables = .ok screen) :
    policy.validate = .ok () ∧ screen = ⟨policy, confusables, []⟩ := by
  unfold make at made
  cases valid : policy.validate with
  | error =>
    rw [valid] at made
    exact nomatch made
  | ok =>
    rw [valid] at made
    exact ⟨rfl, (Except.ok.inj made).symm⟩

theorem sound_make (made : make policy confusables = .ok screen) :
    screen.Sound policy confusables := by
  obtain ⟨-, rfl⟩ := make_eq_ok made
  exact ⟨rfl, rfl, nofun⟩

namespace Sound

theorem clear (sound : screen.Sound policy confusables) : screen.clear.Sound policy confusables :=
  ⟨sound.under, sound.table, nofun⟩

/-- Compiling through a screen gives what compiling gives. -/
theorem compile_eq (sound : screen.Sound policy confusables) (word : String) :
    (screen.compile word).1 = Word.compile confusables policy word := by
  obtain ⟨rfl, rfl, kept⟩ := sound
  unfold Screen.compile
  cases known : screen.compiled.get? word with
  | some w => exact (kept word w known).symm
  | none => cases Word.compile screen.confusables screen.policy word <;> rfl

theorem compile (sound : screen.Sound policy confusables) (word : String) :
    (screen.compile word).2.Sound policy confusables := by
  obtain ⟨rfl, rfl, kept⟩ := sound
  unfold Screen.compile
  cases screen.compiled.get? word with
  | some w => exact ⟨rfl, rfl, kept⟩
  | none =>
    cases new : Word.compile screen.confusables screen.policy word with
    | error => exact ⟨rfl, rfl, kept⟩
    | ok w =>
      refine ⟨rfl, rfl, fun other w' known => ?_⟩
      by_cases same : other = word
      · subst same
        rw [Entries.get?_put_self] at known
        exact Option.some.inj known ▸ new
      · rw [Entries.get?_put_of_ne _ _ same] at known
        exact kept other w' known

/-- Going through words one by one. -/
theorem findAny_cons (screen : Screen) (text word : String) (rest : List String) :
    screen.findAny text (word :: rest) =
      if tooLong text.length word then screen.findAny text rest
      else
        match (screen.compile word).1 with
        | .error error => (.error error, (screen.compile word).2)
        | .ok compiled =>
          match compiled.find? text with
          | some fragment => (.ok (some ⟨word, fragment⟩), (screen.compile word).2)
          | none => (screen.compile word).2.findAny text rest := by
  rw [Screen.findAny]
  split
  · rfl
  · obtain ⟨result, next⟩ := screen.compile word
    cases result <;> rfl

theorem findAny (sound : screen.Sound policy confusables) (text : String) (words : List String) :
    (screen.findAny text words).2.Sound policy confusables := by
  induction words generalizing screen with
  | nil => exact sound
  | cons word rest ih =>
    rw [findAny_cons]
    split
    · exact ih sound
    · split
      · exact sound.compile word
      · split
        · exact sound.compile word
        · exact ih (sound.compile word)

/-- Without words that are passed over wrongly, the words are tried one after the other. -/
theorem findAny_eq (sound : screen.Sound policy confusables) {text : String} {words : List String}
    (compiles : ∀ word ∈ words, ∃ w, Word.compile confusables policy word = .ok w)
    (short : ∀ word ∈ words, ∀ w, Word.compile confusables policy word = .ok w →
      text.length < w.units → w.find? text = none) :
    (screen.findAny text words).1 = findPlainly confusables policy text words := by
  induction words generalizing screen with
  | nil => rfl
  | cons word rest ih =>
    obtain ⟨⟨w, compiled⟩, compiles⟩ := List.forall_mem_cons.mp compiles
    obtain ⟨here, short⟩ := List.forall_mem_cons.mp short
    rw [findAny_cons, findPlainly, compiled]
    by_cases long : tooLong text.length word = true
    · have units : text.length < w.units := by
        rw [(compiles_of_compile compiled).units]
        exact of_decide_eq_true long
      simp only [if_pos long, here w compiled units]
      exact ih sound compiles short
    · rw [if_neg long, sound.compile_eq word, compiled]
      simp only
      split
      · rfl
      · exact ih (sound.compile word) compiles short

end Sound

/-- The screens that are reached from a new one. -/
inductive Reached (policy : Policy) (confusables : Confusables) : Screen → Prop where
  | make {screen : Screen} (made : Screen.make policy confusables = .ok screen) :
    Reached policy confusables screen
  | compile {screen : Screen} (word : String) (before : Reached policy confusables screen) :
    Reached policy confusables (screen.compile word).2
  | findAny {screen : Screen} (text : String) (words : List String)
    (before : Reached policy confusables screen) :
    Reached policy confusables (screen.findAny text words).2
  | clear {screen : Screen} (before : Reached policy confusables screen) :
    Reached policy confusables screen.clear

/-- All screens that requests lead to are sound. -/
theorem Reached.sound (reached : Reached policy confusables screen) :
    screen.Sound policy confusables := by
  induction reached with
  | make made => exact sound_make made
  | compile word _ ih => exact ih.compile word
  | findAny text words _ ih => exact ih.findAny text words
  | clear _ ih => exact ih.clear

/-- All screens that requests lead to have a valid policy. -/
theorem Reached.valid (reached : Reached policy confusables screen) :
    policy.validate = .ok () := by
  induction reached with
  | make made => exact (make_eq_ok made).1
  | compile _ _ ih | findAny _ _ _ ih | clear _ ih => exact ih

/-- Where blanks take characters, passing over words and keeping compiled ones changes nothing:
nothing would be found in a text that is shorter than a word. -/
theorem findAny_eq_findPlainly (reached : Reached policy confusables screen) {text : String}
    {words : List String}
    (compiles : ∀ word ∈ words, ∃ w, Word.compile confusables policy word = .ok w)
    (closed : ∀ word ∈ words,
      .separators ∈ (policy.tolerance confusables).slots (Spelling.ofWord word) →
        ¬ OpenEnded policy.separatorClass)
    (consuming : ∀ first last,
      (classPattern policy.blankClass).Matches text.toList.toArray first last → first < last) :
    (screen.findAny text words).1 = findPlainly confusables policy text words ∧
      ∀ word ∈ words, ∀ w, Word.compile confusables policy word = .ok w →
        text.length < w.units → w.find? text = none := by
  have sound := reached.sound
  have short : ∀ word ∈ words, ∀ w, Word.compile confusables policy word = .ok w →
      text.length < w.units → w.find? text = none := fun word member w compiled =>
    find?_eq_none_of_short reached.valid compiled (closed word member) consuming
  exact ⟨sound.findAny_eq compiles short, short⟩

/-- A word that is longer than the text is passed over, and the next one is found. -/
theorem findAny_eq_findPlainly_longer :
    ∃ screen, make hyphensAndAsterisks .none = .ok screen ∧
      (screen.findAny "ab" ["a*c", "ab"]).1 =
        findPlainly .none hyphensAndAsterisks "ab" ["a*c", "ab"] ∧
      ∀ word ∈ ["a*c", "ab"], ∀ w, Word.compile .none hyphensAndAsterisks word = .ok w →
        "ab".length < w.units → w.find? "ab" = none := by
  have valid : hyphensAndAsterisks.validate = .ok () := validate_of_isOk (by decide +kernel)
  have made : make hyphensAndAsterisks .none = .ok ⟨hyphensAndAsterisks, .none, []⟩ := by
    rw [make, valid]
    rfl
  refine ⟨_, made, findAny_eq_findPlainly (.make made) ?_ (fun _ _ _ => by decide +kernel) ?_⟩
  · intro word member
    have compiled : ∀ word ∈ ["a*c", "ab"],
        (Word.compile .none hyphensAndAsterisks word).toOption.any (fun _ => true) = true := by
      decide +kernel
    obtain ⟨w, compiled, -⟩ := compile_of_any _ _ word _ (compiled word member)
    exact ⟨w, compiled⟩
  · rintro first last ⟨-, rfl⟩
    exact Nat.lt_succ_self first

/-- Blanks that match nothing at the ends of words. -/
def blanksAtBoundaries : Policy where
  blankClass := "\\b"

/-- Where a blank need not take a character, a word with more units than the text has characters is
found, but passed over. -/
theorem findAny_ne_findPlainly :
    ∃ screen w, make blanksAtBoundaries .none = .ok screen ∧
      Word.compile .none blanksAtBoundaries "abc" = .ok w ∧ "ab".length < w.units ∧
      w.find? "ab" = some "ab" ∧ (screen.findAny "ab" ["abc"]).1 = .ok none ∧
      findPlainly .none blanksAtBoundaries "ab" ["abc"] = .ok (some ⟨"abc", "ab"⟩) := by
  have valid : blanksAtBoundaries.validate = .ok () := validate_of_isOk (by decide +kernel)
  have made : make blanksAtBoundaries .none = .ok ⟨blanksAtBoundaries, .none, []⟩ := by
    rw [make, valid]
    rfl
  obtain ⟨w, compiled, holds⟩ := compile_of_any .none blanksAtBoundaries "abc"
    (fun w => decide ("ab".length < w.units) && w.find? "ab" == some "ab") (by decide +kernel)
  obtain ⟨units, found⟩ := Bool.and_eq_true_iff.mp holds
  have fragment : w.find? "ab" = some "ab" := eq_of_beq found
  refine ⟨_, w, made, compiled, of_decide_eq_true units, fragment, ?_, ?_⟩
  · have long : tooLong "ab".length "abc" = true := by decide +kernel
    rw [Sound.findAny_cons, if_pos long]
    rfl
  · simp only [findPlainly, compiled, fragment]

end Screen

end Scrutiny.Word
