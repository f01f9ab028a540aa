import Scrutiny.CommandLine.Trouble
import Scrutiny.CommandLine.Usage
import Scrutiny.Json.Reader
import Scrutiny.Terminal.Control
import Scrutiny.Terminal.Styled
import Scrutiny.Word.PolicyReader
import Scrutiny.Word.Screen
import Scrutiny.Yaml.Meaning

/-! # Running commands

What a command does, given a way to read files. The result is an exit code and what is shown on the
two channels: 0 if a text is clean or a document valid, 1 if it is not, 2 if the command cannot do
its work.
-/

namespace Scrutiny.CommandLine

open Terminal

/-- What a command can read. -/
structure Sources (m : Type → Type) where
  file : String → m (Option String)
  input : m String

/-- The result of a command. -/
structure Result where
  code : Nat
  shown : Output := []
  notices : Output := []

/-- The lines of a text, a carriage return before the end of a line not counted. -/
def linesOf (text : String) : List (List Char) :=
  (text.splitOn "\n").map fun line =>
    let cs := line.toList
    if cs.getLast? == some '\r' then cs.dropLast else cs

/-- The words of a list of words: one on each line that is neither blank nor a comment. -/
def listedWords (text : String) : List String :=
  ((linesOf text).map Text.trimChars).filterMap fun cs =>
    if cs.isEmpty || cs.head? == some '#' then none else some (String.ofList cs)

/-- The result of a search as a document. -/
def searchValue : Option Word.WordMatch → Value
  | some found =>
    .object [("matched", .bool true), ("word", .string found.word),
      ("fragment", .string found.fragment)]
  | none => .object [("matched", .bool false)]

/-- A document on lines of its own. -/
def documentLines (value : Value) : Output :=
  .plain (Json.indented value ++ "\n")

section

variable {m : Type → Type} [Monad m] (sources : Sources m)

/-- The text of a file. -/
def textOf (role : FileRole) (path : String) : ExceptT Trouble m String := do
  match ← sources.file path with
  | some text => return text
  | none => throw (.unreadable role path)

/-- What a file denotes. -/
def denoted {α : Type} (role : FileRole) (read : Document → Option α) (path : String) :
    ExceptT Trouble m α := do
  match (Yaml.read (← textOf sources role path)).bind read with
  | some found => return found
  | none => throw (.malformed role path)

/-- The text to work on: that of a file or, without one, the input. -/
def inputText (path : Option String) : ExceptT Trouble m String :=
  match path with
  | some path => textOf sources .input path
  | none => sources.input

/-- The policy in a file, or the standard one. -/
def policyAt (path : Option String) : ExceptT Trouble m Word.Policy := do
  match path with
  | none => return {}
  | some path =>
    let policy ← denoted sources .policy Word.Policy.ofDocument? path
    match policy.validate with
    | .ok _ => return policy
    | .error cause => throw (.invalidPolicy path cause)

/-- The schema in a file. -/
def schemaAt (path : String) : ExceptT Trouble m Schema := do
  let config ← denoted sources .schema SchemaConfig.ofDocument? path
  match config.build with
  | .ok schema => return schema
  | .error cause => throw (.invalidSchema path cause)

/-- The theme in a file, or the standard one. -/
def themeAt (path : Option String) : ExceptT Trouble m Theme :=
  match path with
  | none => return .standard
  | some path => denoted sources .theme Theme.ofDocument? path

/-- Search a text for words. -/
def runWords (input : Option String) (given : List String) (wordsFile policy : Option String)
    (failOnMatch json : Bool) : ExceptT Trouble m Result := do
  let listed ← match wordsFile with
    | some path => listedWords <$> textOf sources .words path
    | none => pure []
  let words := given ++ listed
  if words.isEmpty then throw .noWords
  let policy ← policyAt sources policy
  let text := visible (← inputText sources input)
  match Word.findFirst Word.Confusables.standard policy text words with
  | .error cause => throw (.uncompiledWords cause)
  | .ok found =>
    let shown :=
      if json then documentLines (searchValue found)
      else .search (found.map fun found => (found.word, found.fragment))
    return { code := if found.isSome && failOnMatch then 1 else 0, shown := shown }

/-- Show the pattern of a word, and beside it the number of its units and of those that may be
masked. -/
def runPattern (word : String) (policy : Option String) (quiet : Bool) :
    ExceptT Trouble m Result := do
  let policy ← policyAt sources policy
  match Word.compile Word.Confusables.standard policy word with
  | .error cause => throw (.uncompiledWord word cause)
  | .ok compiled =>
    let notice := "units: " ++ toString compiled.units ++ ", mask budget: " ++
      toString compiled.budget ++ "\n"
    return { code := 0, shown := .plain (compiled.source ++ "\n"),
             notices := if quiet then [] else .plain notice }

/-- Validate a document. -/
def runValidate (input : Option String) (schema entity scope : String) (json : Bool) :
    ExceptT Trouble m Result := do
  let schema ← schemaAt sources schema
  let text ← inputText sources input
  match Json.read text with
  | none => throw .malformedInput
  | some document =>
    match schema.validate entity scope document with
    | .error cause => throw (.rejected cause)
    | .ok report =>
      let code := if report.isValid then 0 else 1
      if json then return { code := code, shown := documentLines report.toValue }
      else
        let warning := if report.aborted then
            Output.warning "validation was aborted; later rules did not run"
          else []
        return { code := code, shown := .errors entity report.errors, notices := warning }

/-- Do what a request asks for. -/
def answer (quiet : Bool) : Request → ExceptT Trouble m Result
  | .words input words wordsFile policy failOnMatch json =>
    runWords sources input words wordsFile policy failOnMatch json
  | .pattern word policy => runPattern sources word policy quiet
  | .validate input schema entity scope json =>
    runValidate sources input schema entity scope json

/-- A trouble as a result, with the words before its message. -/
def troubled (context : String) (trouble : Trouble) : Result :=
  { code := 2, notices := .error (context ++ trouble.message) }

/-- Run a command line, and say in which theme the result is shown. -/
def run (invocation : Invocation) : m (Result × Theme) := do
  match ← themeAt sources invocation.theme with
  | .error trouble => return (troubled "Theme error: " trouble, .standard)
  | .ok theme =>
    match ← answer sources invocation.quiet invocation.request with
    | .error trouble => return (troubled "" trouble, theme)
    | .ok result => return (result, theme)

end

end Scrutiny.CommandLine
