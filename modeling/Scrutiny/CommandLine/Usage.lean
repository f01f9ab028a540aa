/-! # The command line

A command line names a command, its options and its operand. Options come first in a short form of
one letter, of which several may be joined, or in a long form; the value of an option follows it or
is attached to it. Two dashes end the options.
-/

namespace Scrutiny.CommandLine

/-- What the program can do. -/
inductive Command where
  /-- Search a text for banned words. -/
  | words
  /-- Show the pattern of a banned word. -/
  | pattern
  /-- Validate a document against a schema. -/
  | validate
  deriving Repr, DecidableEq

/-- The command of a name. -/
def Command.ofName? : String → Option Command
  | "words" => some .words
  | "pattern" => some .pattern
  | "validate" => some .validate
  | _ => none

/-- A part of a command line. -/
inductive Item where
  | quiet | debug | theme | help | version
  | word | wordsFile | policy | failOnMatch | json | schema | entity | scope
  /-- The input or the word that is no option. -/
  | operand
  deriving Repr, DecidableEq

namespace Item

/-- The long form of an option. -/
def long : Item → Option String
  | quiet => some "quiet"
  | debug => some "debug"
  | theme => some "theme"
  | help => some "help"
  | version => some "version"
  | word => some "word"
  | wordsFile => some "words-file"
  | policy => some "policy"
  | failOnMatch => some "fail-on-match"
  | json => some "json"
  | schema => some "schema"
  | entity => some "entity"
  | scope => some "scope"
  | operand => none

/-- The short form of an option. -/
def short : Item → Option Char
  | quiet => some 'q'
  | debug => some 'd'
  | help => some 'h'
  | version => some 'V'
  | word => some 'w'
  | schema => some 's'
  | entity => some 'e'
  | _ => none

/-- Whether a value belongs to an item. -/
def takesValue : Item → Bool
  | theme => true
  | word => true
  | wordsFile => true
  | policy => true
  | schema => true
  | entity => true
  | scope => true
  | operand => true
  | _ => false

end Item

/-- Where on a command line an item may stand. -/
inductive Level where
  /-- Before the command. -/
  | top
  /-- After the command. -/
  | of (command : Command)
  deriving Repr, DecidableEq

namespace Level

/-- The items of a level. -/
def items : Level → List Item
  | top => [.quiet, .debug, .theme, .help, .version]
  | of .words =>
    [.quiet, .debug, .theme, .help, .operand, .word, .wordsFile, .policy, .failOnMatch, .json]
  | of .pattern => [.quiet, .debug, .theme, .help, .operand, .policy]
  | of .validate =>
    [.quiet, .debug, .theme, .help, .operand, .schema, .entity, .scope, .json]

/-- The items without which a command cannot run. -/
def required : Level → List Item
  | top => []
  | of .words => []
  | of .pattern => [.operand]
  | of .validate => [.schema, .entity]

/-- Whether the value of an item names a file, so that it may not be empty. -/
def isPath (level : Level) : Item → Bool
  | .theme => true
  | .wordsFile => true
  | .policy => true
  | .schema => true
  | .operand => level != of .pattern
  | _ => false

end Level

/-- Why a command line is not run. -/
inductive UsageError where
  | help
  | version
  /-- There is nothing on it. -/
  | empty
  | missingCommand
  | unknownCommand
  | unknownItem
  | missingItem
  /-- A value is missing, or empty where it may not be. -/
  | missingValue
  /-- A value is attached to an option without values. -/
  | needlessValue
  | repeated
  deriving Repr, DecidableEq

/-- The exit code of a command line that is not run. -/
def UsageError.exitCode : UsageError → Nat
  | help => 0
  | version => 0
  | _ => 2

/-- What has been read of a level. -/
structure Given where
  /-- The accepted items with their values; a flag has an empty one. -/
  items : List (Item × String) := []
  /-- The last item with a value, before it is accepted, and the value if it has come already. -/
  pending : Option (Item × Option String) := none

namespace Given

/-- The values of an item. -/
def values (given : Given) (item : Item) : List String :=
  (given.items.filter fun entry => entry.1 == item).map Prod.snd

/-- Whether an item has been given. -/
def has (given : Given) (item : Item) : Bool :=
  !(given.values item).isEmpty

/-- The value of an item. -/
def value? (given : Given) (item : Item) : Option String :=
  (given.values item).head?

/-- Accept an item and its value. Only a word may be given more than once. -/
def accept (given : Given) (level : Level) (item : Item) (value : String) :
    Except UsageError Given :=
  if item != .word && given.has item then .error .repeated
  else if level.isPath item && value.isEmpty then .error .missingValue
  else .ok { given with items := given.items ++ [(item, value)] }

/-- Accept the pending item, whose value has to have come. -/
def settle (given : Given) (level : Level) : Except UsageError Given :=
  match given.pending with
  | none => .ok given
  | some (_, none) => .error .missingValue
  | some (item, some value) => { given with pending := none }.accept level item value

/-- Read an option without a value. -/
def readFlag (given : Given) (level : Level) (item : Item) : Except UsageError Given := do
  let given ← given.settle level
  match item with
  | .help => .error .help
  | .version => .error .version
  | item => given.accept level item ""

/-- Read an option with the value attached to it, or wait for its value. -/
def readOption (given : Given) (level : Level) (item : Item) (attached : Option String) :
    Except UsageError Given := do
  let given ← given.settle level
  match attached with
  | some value => given.accept level item value
  | none => .ok { given with pending := some (item, none) }

/-- Read an option in its long form, with or without an equals sign and a value. -/
def readLong (given : Given) (level : Level) (cs : List Char) : Except UsageError Given :=
  let name := String.ofList (cs.takeWhile (· != '='))
  let attached := match cs.dropWhile (· != '=') with
    | _ :: value => some (String.ofList value)
    | [] => none
  match level.items.find? fun item => item.long == some name with
  | none => .error .unknownItem
  | some item =>
    if item.takesValue then given.readOption level item attached
    else if attached.isSome then .error .needlessValue
    else given.readFlag level item

/-- Read options in their short form. The first that takes a value has the rest as its value, after
an equals sign if there is one. -/
def readShort (level : Level) : List Char → Given → Except UsageError Given
  | [], given => .ok given
  | c :: rest, given =>
    match level.items.find? fun item => item.short == some c with
    | none => .error .unknownItem
    | some item =>
      if item.takesValue then
        let attached := match rest with
          | [] => none
          | '=' :: value => some (String.ofList value)
          | value => some (String.ofList value)
        given.readOption level item attached
      else (given.readFlag level item).bind (readShort level rest)

/-- Read the operand of a command. -/
def readOperand (given : Given) (level : Level) (value : String) : Except UsageError Given :=
  let taken := given.has .operand || given.pending.any fun entry => entry.1 == .operand
  if taken || !level.items.contains .operand then .error .unknownItem
  else (given.settle level).map fun given =>
    { given with pending := some (.operand, some value) }

/-- Whether the last option waits for its value. -/
def waits (given : Given) : Bool :=
  given.pending.any fun entry => entry.2.isNone

/-- Give the last option its value. -/
def supply (given : Given) (value : String) : Given :=
  { given with pending := given.pending.map fun entry => (entry.1, some value) }

end Given

/-- The names after the command for help: only the commands have help. -/
def helpFor : List String → UsageError
  | [] => .help
  | [name] => if name == "help" || (Command.ofName? name).isSome then .help else .unknownCommand
  | _ => .unknownCommand

/-- What a level read: its items, and the command that follows with the arguments after it. -/
structure LevelReading where
  given : Given
  next : Option (Command × List String) := none

/-- Read the arguments of a level. Options end after two dashes. -/
def readLevel (level : Level) (ended : Bool) (given : Given) :
    List String → Except UsageError LevelReading
  | [] => .ok { given := given }
  | argument :: rest =>
    let operand : Except UsageError LevelReading :=
      if level = .top then
        .error (if ended && (argument == "help" || (Command.ofName? argument).isSome) then
          .unknownItem else .unknownCommand)
      else (given.readOperand level argument).bind (readLevel level ended · rest)
    if ended then operand
    else if level = .top && !given.waits && argument == "help" then .error (helpFor rest)
    else
      match if level = .top && !given.waits then Command.ofName? argument else none with
      | some command => .ok { given := given, next := some (command, rest) }
      | none =>
        match argument.toList with
        | ['-', '-'] => readLevel level true given rest
        | '-' :: '-' :: cs => (given.readLong level cs).bind (readLevel level false · rest)
        | '-' :: c :: cs => (given.readShort level (c :: cs)).bind (readLevel level false · rest)
        | _ => if given.waits then readLevel level false (given.supply argument) rest else operand

/-- Complete what was given at a level with the preset values of items, and check that nothing is
missing. -/
def complete (level : Level) (preset? : Item → Option String) (given : Given) :
    Except UsageError Given := do
  let given ← given.settle level
  let given ← level.items.foldlM (fun given item =>
    match preset? item with
    | some value => if given.has item then .ok given else given.accept level item value
    | none => .ok given) given
  if level.required.all given.has then .ok given else .error .missingItem

/-- What a command is asked to do. -/
inductive Request where
  | words (input : Option String) (words : List String) (wordsFile policy : Option String)
    (failOnMatch json : Bool)
  | pattern (word : String) (policy : Option String)
  | validate (input : Option String) (schema entity scope : String) (json : Bool)
  deriving Repr, DecidableEq

/-- A command line that can be run. -/
structure Invocation where
  quiet : Bool
  debug : Bool
  theme : Option String
  request : Request
  deriving Repr, DecidableEq

/-- The scope of a validation that names none. -/
def defaultScope : String := "create"

/-- The request that was given to a command. -/
def requestOf (command : Command) (given : Given) : Request :=
  let input := given.value? .operand
  match command with
  | .words =>
    .words input (given.values .word) (given.value? .wordsFile) (given.value? .policy)
      (given.has .failOnMatch) (given.has .json)
  | .pattern => .pattern (input.getD "") (given.value? .policy)
  | .validate =>
    .validate input ((given.value? .schema).getD "") ((given.value? .entity).getD "")
      ((given.value? .scope).getD defaultScope) (given.has .json)

/-- Read a command line, where some items have preset values. -/
def read (preset? : Item → Option String) (arguments : List String) :
    Except UsageError Invocation := do
  let top ← readLevel .top false {} arguments
  match top.next with
  | none =>
    let given ← top.given.settle .top
    .error (if given.items.isEmpty then .empty else .missingCommand)
  | some (command, rest) =>
    let level := Level.of command
    let reading ← readLevel level false {} rest
    let given ← complete level preset? reading.given
    let outer ← top.given.settle .top
    let has (item : Item) : Bool := outer.has item || given.has item
    .ok ⟨has .quiet, has .debug, (given.value? .theme).or (outer.value? .theme),
      requestOf command given⟩

/-- How much is written to the log. -/
inductive LogLevel where
  | off | debug
  deriving Repr, DecidableEq

/-- How much is written to the log if the command line says so; silence wins. -/
def logLevel? (quiet debug : Bool) : Option LogLevel :=
  if quiet then some .off else if debug then some .debug else none

end Scrutiny.CommandLine
