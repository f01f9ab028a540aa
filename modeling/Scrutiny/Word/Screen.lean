import Scrutiny.Entries
import Scrutiny.Word.Compiled

/-! # Screening text for words

A list of banned words is tried in order against a text. A word with more units than the text has
characters is passed over without being compiled. A `Screen` keeps the words it has compiled.
-/

namespace Scrutiny.Word

/-- A banned word found in a text, with the fragment that matched. -/
structure WordMatch where
  word : String
  fragment : String
  deriving Repr, DecidableEq

/-- Whether a word has too many units for a text of some length. -/
def tooLong (textLength : Nat) (word : String) : Bool :=
  (Spelling.ofWord word).size > textLength

/-- The first of several words that occurs in a text, each word compiled when its turn comes. -/
def findFirst (confusables : Confusables) (policy : Policy) (text : String) :
    List String → Except WordError (Option WordMatch)
  | [] => .ok none
  | word :: rest =>
    if tooLong text.length word then findFirst confusables policy text rest
    else
      match compile confusables policy word with
      | .error error => .error error
      | .ok compiled =>
        match compiled.find? text with
        | some fragment => .ok (some ⟨word, fragment⟩)
        | none => findFirst confusables policy text rest

/-- The first fragment of a text that one of several words matches, under a policy that is checked
first. -/
def matchAny (policy : Policy) (text : String) (words : List String) :
    Except WordError (Option String) := do
  policy.validate
  let found ← findFirst Confusables.standard policy text words
  pure (found.map WordMatch.fragment)

/-- A policy and a table of confusable characters, with the words compiled so far. -/
structure Screen where
  policy : Policy
  confusables : Confusables
  compiled : Entries CompiledWord

namespace Screen

/-- A screen under a valid policy. -/
def make (policy : Policy) (confusables : Confusables) : Except WordError Screen := do
  policy.validate
  pure ⟨policy, confusables, []⟩

/-- The number of words compiled so far. -/
def size (screen : Screen) : Nat :=
  screen.compiled.length

/-- Forget the compiled words. -/
def clear (screen : Screen) : Screen :=
  { screen with compiled := [] }

/-- The compiled form of a word, compiled and kept if it is new. -/
def compile (screen : Screen) (word : String) : Except WordError CompiledWord × Screen :=
  match screen.compiled.get? word with
  | some compiled => (.ok compiled, screen)
  | none =>
    match Word.compile screen.confusables screen.policy word with
    | .error error => (.error error, screen)
    | .ok compiled => (.ok compiled, { screen with compiled := screen.compiled.put word compiled })

/-- Compile and keep several words, up to the first that cannot be compiled. -/
def compileAll (screen : Screen) : List String → Except WordError Unit × Screen
  | [] => (.ok (), screen)
  | word :: rest =>
    match screen.compile word with
    | (.error error, screen) => (.error error, screen)
    | (.ok _, screen) => screen.compileAll rest

/-- The first of several words that occurs in a text. -/
def findAny (screen : Screen) (text : String) :
    List String → Except WordError (Option WordMatch) × Screen
  | [] => (.ok none, screen)
  | word :: rest =>
    if tooLong text.length word then screen.findAny text rest
    else
      match screen.compile word with
      | (.error error, screen) => (.error error, screen)
      | (.ok compiled, screen) =>
        match compiled.find? text with
        | some fragment => (.ok (some ⟨word, fragment⟩), screen)
        | none => screen.findAny text rest

/-- The first fragment of a text that one of several words matches. -/
def matchAny (screen : Screen) (text : String) (words : List String) :
    Except WordError (Option String) × Screen :=
  let (found, screen) := screen.findAny text words
  (found.map fun result => result.map WordMatch.fragment, screen)

end Screen

/-- Why a text cannot be searched, and what is put before that in messages. -/
structure SearchFailure where
  context : Option String
  cause : WordError

/-- What is said of a text that cannot be searched. -/
def SearchFailure.message (failure : SearchFailure) : String :=
  match failure.context with
  | some context => context ++ ": " ++ failure.cause.message
  | none => failure.cause.message

/-- The first fragment of a text that one of several words matches, found with a screen that is made
for this text. -/
def searchOnce (text : String) (words : List String) (policy : Policy) :
    Except SearchFailure (Option String) :=
  match Screen.make policy Confusables.standard with
  | .error cause => .error ⟨some "Invalid match policy", cause⟩
  | .ok screen => (screen.matchAny text words).1.mapError fun cause => ⟨none, cause⟩

end Scrutiny.Word
