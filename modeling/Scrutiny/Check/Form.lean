import Scrutiny.Calendar.Moment
import Scrutiny.Check.Procedure
import Scrutiny.Pattern.Matching
import Scrutiny.Pattern.Reader

/-! # Form

Checks of how a text is written. They look at the content of a value of any kind.
-/

namespace Scrutiny.Check

/-- Whether a text is a mail address: no white space, one at sign with something before it, and
after it at least two names with points between them. -/
def isMailAddress (text : String) : Bool :=
  match text.toList.splitOn '@' with
  | [mailbox, host] =>
    let names := host.splitOn '.'
    !text.toList.any Text.isWhiteSpace && !mailbox.isEmpty && 2 ≤ names.length &&
      names.all fun name => !name.isEmpty
  | _ => false

/-- The value is a mail address. -/
def email : Procedure :=
  .plain "email" (.exactly 0) anything fun input _ =>
    input.require (input.value.isBlank || isMailAddress input.value.display) "email" []

/-- The only argument of a pattern check. -/
def patternText : List Value → Except DeclarationError String
  | [.string text] => .ok text
  | _ => .error (.invalidArgs "regex" "expected exactly one pattern string")

/-- Compile the pattern of a text. -/
def compilePattern (text : String) : Except DeclarationError CompiledPattern :=
  match Pattern.read false text with
  | .ok pattern => .ok ⟨text, pattern⟩
  | .error cause =>
    .error (.invalidArgs "regex" ("pattern '" ++ text ++ "' does not compile: " ++ cause.message))

/-- The compiled pattern of a text, compiled and kept if it is new. -/
def recallPattern (memory : Memory) (text : String) :
    Except DeclarationError CompiledPattern × Memory :=
  match memory.patterns.get? text with
  | some compiled => (.ok compiled, memory)
  | none =>
    match compilePattern text with
    | .error error => (.error error, memory)
    | .ok compiled =>
      (.ok compiled, { memory with patterns := memory.patterns.put text compiled })

/-- The value matches a pattern. -/
def regex : Procedure where
  accept args memory :=
    match patternText args with
    | .error error => (.error error, memory)
    | .ok text =>
      let (compiled, memory) := recallPattern memory text
      (compiled.map fun _ => (), memory)
  run input args memory :=
    if input.value.isBlank then (.ok .pass, memory)
    else
      match patternText args with
      | .error error => (.error (.declaration error), memory)
      | .ok text =>
        match recallPattern memory text with
        | (.error error, memory) => (.error (.declaration error), memory)
        | (.ok compiled, memory) =>
          (input.require (compiled.pattern.matchesText input.value.display) "regex"
            [("pattern", .string compiled.source)], memory)

/-- The value is a date or a time, in a layout if one is given. -/
def datetime : Procedure :=
  .plain "datetime" ⟨0, some 1⟩ allTexts fun input args =>
    let layout := args.head?.bind Value.text?
    let text := Text.trimChars input.value.display.toList
    input.require (input.value.isBlank || Calendar.isMoment layout text) "datetime" []

end Scrutiny.Check
