import Scrutiny.Check.Procedure

/-! # Banned words

The check that a text holds none of the words it is given, whatever way they are disguised.
-/

namespace Scrutiny.Check

/-- A value that is no word and no list of words. -/
def noWord (value : Value) : DeclarationError :=
  .invalidArgs "banned_words"
    ("expected a word or a list of words, got " ++ Json.compact value)

/-- The words of a list. -/
def wordItems : List Value → Except DeclarationError (List String)
  | [] => .ok []
  | .string word :: rest => (wordItems rest).map (word :: ·)
  | other :: _ => .error (noWord other)

/-- The words that arguments list: each argument is a word or a list of words. -/
def wordArguments : List Value → Except DeclarationError (List String)
  | [] => .ok []
  | .string word :: rest => (wordArguments rest).map (word :: ·)
  | .list items :: rest => do
    let words ← wordItems items
    let others ← wordArguments rest
    .ok (words ++ others)
  | other :: _ => .error (noWord other)

/-- The value holds no banned word. -/
def bannedWords (policy : Word.Policy) : Procedure where
  accept args memory :=
    match wordArguments args with
    | .error error => (.error error, memory)
    | .ok words =>
      if words.isEmpty then (.error (.invalidArgs "banned_words" "no words given"), memory)
      else
        let (compiled, screen) := (memory.screen policy).compileAll words
        (compiled.mapError .word, { memory with words := screen.compiled })
  run input args memory :=
    if input.value.isBlank then (.ok .pass, memory)
    else
      match wordArguments args with
      | .error error => (.error (.declaration error), memory)
      | .ok words =>
        let (found, screen) := (memory.screen policy).matchAny input.value.display words
        let memory := { memory with words := screen.compiled }
        match found with
        | .error error => (.error (.declaration (.word error)), memory)
        | .ok none => (.ok .pass, memory)
        | .ok (some fragment) =>
          (input.refuse "banned_words"
            [("word", .string fragment), ("fragment", .string fragment)], memory)

end Scrutiny.Check
