import Scrutiny.Validation

/-! # Troubles

Why a command cannot do its work: its files cannot be read or understood, or what they declare is
wrong.
-/

namespace Scrutiny.CommandLine

/-- What a file is read for. -/
inductive FileRole where
  | schema | policy | theme | input | words
  deriving Repr, DecidableEq

/-- The word for a role in messages. -/
def FileRole.name : FileRole → String
  | schema => "schema"
  | policy => "policy"
  | theme => "theme"
  | input => "input"
  | words => "words"

/-- Why a command cannot do its work. -/
inductive Trouble where
  | unreadable (role : FileRole) (path : String)
  | malformed (role : FileRole) (path : String)
  | invalidPolicy (path : String) (cause : Word.WordError)
  | invalidSchema (path : String) (cause : DeclarationError)
  | noWords
  | uncompiledWords (cause : Word.WordError)
  | uncompiledWord (word : String) (cause : Word.WordError)
  | malformedInput
  | rejected (cause : Rejection)

/-- What is said of a trouble. -/
def Trouble.message : Trouble → String
  | unreadable role path =>
    "Failed to read " ++ role.name ++ " file " ++ path ++ ": the file cannot be read"
  | malformed role path =>
    "Failed to parse " ++ role.name ++ " file " ++ path ++ ": the text is not one"
  | invalidPolicy path cause => "Invalid match policy in " ++ path ++ ": " ++ cause.message
  | invalidSchema path cause => "Invalid schema in " ++ path ++ ": " ++ cause.message
  | noWords => "No banned words given; pass --word or --words-file"
  | uncompiledWords cause => "Failed to compile banned words: " ++ cause.message
  | uncompiledWord word cause =>
    "Failed to compile banned word '" ++ word ++ "': " ++ cause.message
  | malformedInput => "Input is not valid JSON: the text is not a document"
  | rejected cause => cause.message

end Scrutiny.CommandLine
