import Mathlib.Data.List.Dedup
import Scrutiny.Proofs.ErrorMap.Recording
import Scrutiny.Proofs.Word.Screening

/-! # What a screen remembers

The words that a screen keeps never show in its answers: whatever it was asked before, it answers as
a new one would, and what it keeps are the words that were compiled since it was last cleared, each
with what compiling gives (`Screen.Remembers.serve`). So searching a text with a screen, with a
screen made for this text and without one finds the same.
-/

namespace Scrutiny.Word

section Search

variable {confusables : Confusables} {policy : Policy} {text : String}

/-- The search goes on after a word: it is too long for the text, or does not occur in it. -/
def Passes (confusables : Confusables) (policy : Policy) (text word : String) : Prop :=
  tooLong text.length word = true ∨
    ∃ w, compile confusables policy word = .ok w ∧ w.find? text = none

/-- A word that passes is not the one that is found first. -/
theorem findFirst_of_passes {word : String} (passes : Passes confusables policy text word)
    (rest : List String) : findFirst confusables policy text (word :: rest) =
      findFirst confusables policy text rest := by
  rw [findFirst]
  by_cases long : tooLong text.length word = true
  · rw [if_pos long]
  · obtain ⟨w, compiled, absent⟩ := passes.resolve_left long
    rw [if_neg long]
    simp only [compiled, absent]

/-- A word that is found is the first, if it comes first. -/
theorem findFirst_of_found {word fragment : String} {w : CompiledWord}
    (fits : tooLong text.length word = false) (compiled : compile confusables policy word = .ok w)
    (found : w.find? text = some fragment) (rest : List String) :
    findFirst confusables policy text (word :: rest) = .ok (some ⟨word, fragment⟩) := by
  rw [findFirst, fits, if_neg Bool.false_ne_true]
  simp only [compiled, found]

/-- What is found is the first word that is not passed. -/
theorem findFirst_eq_found {words : List String} {found : WordMatch} :
    findFirst confusables policy text words = .ok (some found) ↔
      ∃ before after w, words = before ++ found.word :: after ∧
        (∀ word ∈ before, Passes confusables policy text word) ∧
        tooLong text.length found.word = false ∧ compile confusables policy found.word = .ok w ∧
        w.find? text = some found.fragment := by
  constructor
  · intro result
    induction words with
    | nil => exact nomatch result
    | cons word rest ih =>
      have passed (passes : Passes confusables policy text word) :
          ∃ before after w, word :: rest = before ++ found.word :: after ∧
            (∀ word ∈ before, Passes confusables policy text word) ∧
            tooLong text.length found.word = false ∧
            compile confusables policy found.word = .ok w ∧
            w.find? text = some found.fragment := by
        rw [findFirst_of_passes passes] at result
        obtain ⟨before, after, w, rfl, all, own⟩ := ih result
        exact ⟨word :: before, after, w, rfl, List.forall_mem_cons.mpr ⟨passes, all⟩, own⟩
      by_cases long : tooLong text.length word = true
      · exact passed (.inl long)
      rw [findFirst, if_neg long] at result
      cases compiled : compile confusables policy word with
      | error error => simp only [compiled, reduceCtorEq] at result
      | ok w =>
        cases here : w.find? text with
        | none => exact passed (.inr ⟨w, compiled, here⟩)
        | some fragment =>
          simp only [compiled, here, Except.ok.injEq, Option.some.injEq] at result
          subst result
          exact ⟨[], rest, w, rfl, nofun, Bool.eq_false_iff.mpr long, compiled, here⟩
  · rintro ⟨before, after, w, rfl, passes, fits, compiled, here⟩
    induction before with
    | nil => exact findFirst_of_found fits compiled here after
    | cons word before ih =>
      obtain ⟨first, passes⟩ := List.forall_mem_cons.mp passes
      rw [List.cons_append, findFirst_of_passes first, ih passes]

/-- The words that are compiled in the course of a search and turn out to be usable. -/
def compiledWords (confusables : Confusables) (policy : Policy) (text : String) :
    List String → List String
  | [] => []
  | word :: rest =>
    if tooLong text.length word then compiledWords confusables policy text rest
    else
      match compile confusables policy word with
      | .error _ => []
      | .ok compiled =>
        match compiled.find? text with
        | some _ => [word]
        | none => word :: compiledWords confusables policy text rest

/-- The words after the one that is found are not compiled. -/
theorem compiledWords_subset_of_found {before after : List String} {word fragment : String}
    {w : CompiledWord} (passes : ∀ word ∈ before, Passes confusables policy text word)
    (fits : tooLong text.length word = false) (compiled : compile confusables policy word = .ok w)
    (found : w.find? text = some fragment) :
    compiledWords confusables policy text (before ++ word :: after) ⊆ before ++ [word] := by
  induction before with
  | nil =>
    rw [List.nil_append, compiledWords, fits, if_neg Bool.false_ne_true]
    simp only [compiled, found]
    exact List.Subset.refl _
  | cons first before ih =>
    obtain ⟨passed, passes⟩ := List.forall_mem_cons.mp passes
    have rest := ih passes
    rw [List.cons_append, compiledWords]
    split
    · exact List.subset_cons_of_subset _ rest
    · next short =>
      obtain ⟨v, known, absent⟩ := passed.resolve_left short
      simp only [known, absent]
      exact List.cons_subset_cons _ rest

end Search

namespace Screen

/-- What a screen is asked to do. -/
inductive Request where
  | find (text : String) (words : List String)
  | matchAny (text : String) (words : List String)
  | compile (word : String)
  | clear

/-- What a screen answers. -/
inductive Answer where
  | found (result : Except WordError (Option WordMatch))
  | matched (result : Except WordError (Option String))
  | compiled (result : Except WordError CompiledWord)
  | cleared

/-- Do what is asked for. -/
def serve (screen : Screen) : Request → Answer × Screen
  | .find text words => (.found (screen.findAny text words).1, (screen.findAny text words).2)
  | .matchAny text words =>
    (.matched (screen.matchAny text words).1, (screen.matchAny text words).2)
  | .compile word => (.compiled (screen.compile word).1, (screen.compile word).2)
  | .clear => (.cleared, screen.clear)

/-- Do what is asked for in several requests, one after the other. -/
def serveAll (screen : Screen) : List Request → List Answer × Screen
  | [] => ([], screen)
  | request :: rest =>
    let first := screen.serve request
    let others := first.2.serveAll rest
    (first.1 :: others.1, others.2)

/-- The words that a request compiles, as far as they turn out to be usable. -/
def Request.words (confusables : Confusables) (policy : Policy) : Request → List String
  | .find text words => compiledWords confusables policy text words
  | .matchAny text words => compiledWords confusables policy text words
  | .compile word =>
    match Word.compile confusables policy word with
    | .error _ => []
    | .ok _ => [word]
  | .clear => []

/-- The words that have been compiled since the last request to clear, after some words before. -/
def wordsSinceClear (confusables : Confusables) (policy : Policy) (before : List String) :
    List Request → List String
  | [] => before
  | .clear :: rest => wordsSinceClear confusables policy [] rest
  | request :: rest =>
    wordsSinceClear confusables policy (before ++ request.words confusables policy) rest

variable {policy : Policy} {confusables : Confusables} {screen : Screen} {words : List String}

/-- A screen keeps the compiled forms of certain words, each once. -/
structure Remembers (policy : Policy) (confusables : Confusables) (words : List String)
    (screen : Screen) : Prop where
  sound : screen.Sound policy confusables
  nodup : screen.compiled.keys.Nodup
  keys : ∀ word, word ∈ screen.compiled.keys ↔ word ∈ words

/-- A search with a screen finds what a search without one finds. -/
theorem Sound.findAny_eq_findFirst (sound : screen.Sound policy confusables) (text : String)
    (words : List String) :
    (screen.findAny text words).1 = findFirst confusables policy text words := by
  induction words generalizing screen with
  | nil => rfl
  | cons word rest ih =>
    have kept := sound.compile word
    rw [Sound.findAny_cons, findFirst, sound.compile_eq word]
    split
    · exact ih sound
    · cases Word.compile confusables policy word with
      | error error => rfl
      | ok compiled =>
        cases here : compiled.find? text with
        | some fragment => simp only [here]
        | none =>
          simp only [here]
          exact ih kept

/-- After words that are too long for the text, a word is found that occurs in it. -/
theorem Sound.findAny_of_long (sound : screen.Sound policy confusables) {text word : String}
    {fragment : String} (before after : List String)
    (long : before.all (tooLong text.length) = true) (fits : tooLong text.length word = false)
    (finds : (Word.compile confusables policy word).toOption.any
      (fun w => w.find? text == some fragment) = true) :
    (screen.findAny text (before ++ word :: after)).1 = .ok (some ⟨word, fragment⟩) := by
  obtain ⟨w, compiled, found⟩ := compile_of_any confusables policy word _ finds
  rw [sound.findAny_eq_findFirst, findFirst_eq_found]
  refine ⟨before, after, w, rfl, fun other member => ?_, fits, compiled, eq_of_beq found⟩
  exact .inl (List.all_eq_true.mp long other member)

/-- Matching any word finds the fragment of the first that is found. -/
theorem Sound.matchAny_eq (sound : screen.Sound policy confusables) (text : String)
    (words : List String) : (screen.matchAny text words).1 =
      (findFirst confusables policy text words).map (Option.map WordMatch.fragment) := by
  rw [← sound.findAny_eq_findFirst text words]
  rfl

namespace Remembers

theorem make (made : make policy confusables = .ok screen) :
    screen.Remembers policy confusables [] := by
  have sound := sound_make made
  obtain ⟨-, rfl⟩ := make_eq_ok made
  exact ⟨sound, .nil, fun _ => Iff.rfl⟩

/-- A screen remembers each word once. -/
theorem size_eq (remembers : screen.Remembers policy confusables words) :
    screen.size = words.dedup.length := by
  have same : screen.compiled.keys.Perm words.dedup :=
    (List.perm_ext_iff_of_nodup remembers.nodup (List.nodup_dedup _)).mpr fun word =>
      (remembers.keys word).trans List.mem_dedup.symm
  rw [← same.length_eq, size, Entries.keys, List.length_map]

/-- Each word is remembered with what compiling gives. -/
theorem entry (remembers : screen.Remembers policy confusables words) :
    ∀ entry ∈ screen.compiled, Word.compile confusables policy entry.1 = .ok entry.2 :=
  fun entry member =>
    remembers.sound.kept entry.1 entry.2 (Entries.get?_of_mem remembers.nodup member)

/-- A word that compiles is remembered from then on. -/
theorem compile (remembers : screen.Remembers policy confusables words) (word : String) :
    (screen.compile word).2.Remembers policy confusables
      (words ++ Request.words confusables policy (.compile word)) := by
  have sound := remembers.sound.compile word
  have result := remembers.sound.compile_eq word
  revert sound result
  rw [Screen.compile, Request.words]
  cases known : screen.compiled.get? word with
  | some w =>
    intro sound result
    simp only [← result]
    refine ⟨sound, remembers.nodup, fun other => ?_⟩
    have member := (remembers.keys word).mp (Entries.mem_keys_of_get? known)
    rw [remembers.keys, List.mem_append, List.mem_singleton]
    exact ⟨.inl, fun either => either.elim id fun same => same ▸ member⟩
  | none =>
    have absent := Entries.get?_eq_none_iff.mp known
    cases Word.compile screen.confusables screen.policy word with
    | error error =>
      intro sound result
      simp only [← result, List.append_nil]
      exact ⟨sound, remembers.nodup, remembers.keys⟩
    | ok w =>
      intro sound result
      simp only [← result]
      refine ⟨sound, Entries.nodup_put remembers.nodup word w, fun other => ?_⟩
      rw [Entries.keys_put_of_notMem w absent, List.mem_append, List.mem_append, remembers.keys]

/-- A search adds the words that it has compiled. -/
theorem findAny (remembers : screen.Remembers policy confusables words) (text : String)
    (list : List String) : (screen.findAny text list).2.Remembers policy confusables
      (words ++ compiledWords confusables policy text list) := by
  induction list generalizing screen words with
  | nil =>
    rw [compiledWords, List.append_nil]
    exact remembers
  | cons word rest ih =>
    have kept := remembers.compile word
    rw [Sound.findAny_cons, remembers.sound.compile_eq word, compiledWords]
    split
    · exact ih remembers
    · rw [Request.words] at kept
      cases compiled : Word.compile confusables policy word with
      | error error =>
        rw [compiled] at kept
        exact kept
      | ok w =>
        rw [compiled] at kept
        simp only
        cases w.find? text with
        | some fragment => exact kept
        | none =>
          have further := ih kept
          rw [List.append_assoc] at further
          exact further

/-- A screen that is asked for anything answers as any other would that is under the same policy,
and remembers what the request has compiled. -/
theorem serve (remembers : screen.Remembers policy confusables words) (request : Request) :
    (screen.serve request).2.Remembers policy confusables
        (wordsSinceClear confusables policy words [request]) ∧
      ∀ {other : Screen}, other.Sound policy confusables →
        (screen.serve request).1 = (other.serve request).1 := by
  have sound := remembers.sound
  cases request with
  | find text list =>
    refine ⟨remembers.findAny text list, fun sound' => ?_⟩
    simp only [Screen.serve, sound.findAny_eq_findFirst, sound'.findAny_eq_findFirst]
  | matchAny text list =>
    refine ⟨remembers.findAny text list, fun sound' => ?_⟩
    simp only [Screen.serve, sound.matchAny_eq, sound'.matchAny_eq]
  | compile word =>
    refine ⟨remembers.compile word, fun sound' => ?_⟩
    simp only [Screen.serve, sound.compile_eq, sound'.compile_eq]
  | clear => exact ⟨⟨sound.clear, .nil, fun _ => Iff.rfl⟩, fun _ => rfl⟩

/-- After any requests a screen remembers what was compiled since it was cleared, and has answered
as any other would. -/
theorem serveAll (remembers : screen.Remembers policy confusables words)
    (requests : List Request) :
    (screen.serveAll requests).2.Remembers policy confusables
        (wordsSinceClear confusables policy words requests) ∧
      ∀ {other : Screen}, other.Sound policy confusables →
        (screen.serveAll requests).1 = requests.map fun request => (other.serve request).1 := by
  induction requests generalizing screen words with
  | nil => exact ⟨remembers, fun _ => rfl⟩
  | cons request rest ih =>
    obtain ⟨kept, answers⟩ := remembers.serve request
    obtain ⟨later, others⟩ := ih kept
    refine ⟨?_, fun sound => congrArg₂ List.cons (answers sound) (others sound)⟩
    cases request <;> exact later

end Remembers

/-- A screen is made for each valid policy, with nothing compiled. -/
theorem make_of_valid (valid : policy.validate = .ok ()) (confusables : Confusables) :
    make policy confusables = .ok ⟨policy, confusables, []⟩ := by
  rw [make, valid]
  rfl

/-- No screen is made for a policy that is not valid. -/
theorem make_of_invalid {error : WordError} (invalid : policy.validate = .error error)
    (confusables : Confusables) : make policy confusables = .error error := by
  rw [make, invalid]
  rfl

/-- A search under a policy that is checked first, with a screen or without one. -/
theorem matchAny_eq_make (policy : Policy) (text : String) (words : List String) :
    Word.matchAny policy text words =
      (make policy .standard).bind fun screen => (screen.matchAny text words).1 := by
  rw [Word.matchAny]
  cases valid : policy.validate with
  | error error =>
    rw [make_of_invalid valid]
    rfl
  | ok =>
    have made := make_of_valid valid .standard
    rw [made, Except.bind, (sound_make made).matchAny_eq]
    cases findFirst Confusables.standard policy text words <;> rfl

/-- Searching once is searching with a screen made for this text. -/
theorem searchOnce_eq (policy : Policy) (text : String) (words : List String) :
    (searchOnce text words policy).mapError SearchFailure.cause =
      Word.matchAny policy text words := by
  rw [matchAny_eq_make, searchOnce]
  cases make policy .standard with
  | error error => rfl
  | ok screen =>
    simp only [Except.bind]
    cases (screen.matchAny text words).1 <;> rfl

/-- A fragment is that of the first word that is not passed, and later words are not compiled. -/
theorem matchAny_eq_some {text fragment : String} {words : List String}
    (matched : Word.matchAny policy text words = .ok (some fragment)) :
    ∃ before word after w, words = before ++ word :: after ∧
      (∀ other ∈ before, Passes .standard policy text other) ∧
      tooLong text.length word = false ∧ Word.compile .standard policy word = .ok w ∧
      w.find? text = some fragment ∧
      (∀ others, Word.matchAny policy text (before ++ word :: others) = .ok (some fragment)) ∧
      ∃ screen, make policy .standard = .ok screen ∧
        (screen.matchAny text words).2.compiled.keys ⊆ before ++ [word] := by
  cases valid : policy.validate with
  | error error =>
    rw [matchAny_eq_make, make_of_invalid valid] at matched
    exact nomatch matched
  | ok =>
    have made := make_of_valid valid .standard
    have direct (words : List String) : Word.matchAny policy text words =
        (findFirst .standard policy text words).map (Option.map WordMatch.fragment) := by
      rw [matchAny_eq_make, made, Except.bind, (sound_make made).matchAny_eq]
    rw [direct] at matched
    cases result : findFirst Confusables.standard policy text words with
    | error error =>
      rw [result] at matched
      exact nomatch matched
    | ok found =>
      rw [result] at matched
      obtain ⟨found, rfl, rfl⟩ := Option.map_eq_some_iff.mp (Except.ok.inj matched)
      obtain ⟨before, after, w, rfl, passes, fits, compiled, here⟩ := findFirst_eq_found.mp result
      refine ⟨before, found.word, after, w, rfl, passes, fits, compiled, here, fun others => ?_,
        _, made, fun kept member => ?_⟩
      · rw [direct, findFirst_eq_found.mpr ⟨before, others, w, rfl, passes, fits, compiled, here⟩]
        rfl
      · exact compiledWords_subset_of_found passes fits compiled here
          (((Remembers.make made).findAny text _).keys kept |>.mp member)

/-- **What a screen keeps does not show.** Under a valid policy a screen that is asked for anything,
in whatever order, gives the answers that a new screen gives; what it keeps for a word is what
compiling the word gives, and it keeps as many words as were compiled since it was last cleared.
Under any policy a search gives the same with no screen, with a new screen and in a single call: the
fragment of the first word that is neither too long nor absent, the words after it not compiled. -/
theorem serveAll_fresh (policy : Policy) :
    (policy.validate = .ok () → ∀ confusables, ∃ fresh, make policy confusables = .ok fresh ∧
      ∀ requests, (fresh.serveAll requests).1 = requests.map (fun request =>
          (fresh.serve request).1) ∧
        (∀ entry ∈ (fresh.serveAll requests).2.compiled,
          Word.compile confusables policy entry.1 = .ok entry.2) ∧
        (fresh.serveAll requests).2.size =
          (wordsSinceClear confusables policy [] requests).dedup.length) ∧
      ∀ text words,
        Word.matchAny policy text words =
            ((make policy .standard).bind fun screen => (screen.matchAny text words).1) ∧
          (searchOnce text words policy).mapError SearchFailure.cause =
            Word.matchAny policy text words ∧
          ∀ fragment, Word.matchAny policy text words = .ok (some fragment) →
            ∃ before word after w, words = before ++ word :: after ∧
              (∀ other ∈ before, Passes .standard policy text other) ∧
              tooLong text.length word = false ∧ Word.compile .standard policy word = .ok w ∧
              w.find? text = some fragment ∧
              (∀ others,
                Word.matchAny policy text (before ++ word :: others) = .ok (some fragment)) ∧
              ∃ screen, make policy .standard = .ok screen ∧
                (screen.matchAny text words).2.compiled.keys ⊆ before ++ [word] := by
  refine ⟨fun valid confusables => ?_, fun text words => ?_⟩
  · have made := make_of_valid valid confusables
    have fresh := Remembers.make made
    refine ⟨_, made, fun requests => ?_⟩
    obtain ⟨remembers, answers⟩ := fresh.serveAll requests
    exact ⟨answers fresh.sound, remembers.entry, remembers.size_eq⟩
  · exact ⟨matchAny_eq_make policy text words, searchOnce_eq policy text words,
      fun fragment matched => matchAny_eq_some matched⟩

/-- Of five words two are passed over for their length, one is no word, one is found and forgotten,
and one is found twice and kept. -/
theorem serveAll_fresh_cleared :
    let requests : List Request := [.find "a-b" ["abcd", "ab"], .compile "^$", .clear,
      .matchAny "ab" ["abc", "b"], .find "b" ["b"]]
    ∃ fresh, make hyphensAndAsterisks .none = .ok fresh ∧
      (fresh.serveAll requests).1 = [.found (.ok (some ⟨"ab", "a-b"⟩)),
        .compiled (.error (.anchorOnly "^$")), .cleared, .matched (.ok (some "b")),
        .found (.ok (some ⟨"b", "b"⟩))] ∧
      (fresh.serveAll requests).2.size = 1 := by
  intro requests
  have valid : hyphensAndAsterisks.validate = .ok () := validate_of_isOk (by decide +kernel)
  obtain ⟨fresh, made, each⟩ := (serveAll_fresh hyphensAndAsterisks).1 valid .none
  have sound := sound_make made
  have pair : (fresh.findAny "a-b" ["abcd", "ab"]).1 = .ok (some ⟨"ab", "a-b"⟩) :=
    sound.findAny_of_long ["abcd"] [] (by decide +kernel) (by decide +kernel) (by decide +kernel)
  have short : (fresh.findAny "ab" ["abc", "b"]).1 = .ok (some ⟨"b", "b"⟩) :=
    sound.findAny_of_long ["abc"] [] (by decide +kernel) (by decide +kernel) (by decide +kernel)
  have alone : (fresh.findAny "b" ["b"]).1 = .ok (some ⟨"b", "b"⟩) :=
    sound.findAny_of_long [] [] (by decide +kernel) (by decide +kernel) (by decide +kernel)
  have unusable : (fresh.compile "^$").1 = .error (.anchorOnly "^$") := by
    rw [sound.compile_eq]
    rfl
  refine ⟨fresh, made, ?_, (each requests).2.2.trans (by decide +kernel)⟩
  rw [(each requests).1]
  simp only [requests, List.map_cons, List.map_nil, serve, matchAny, pair, short, alone, unusable]
  rfl

end Screen

end Scrutiny.Word
