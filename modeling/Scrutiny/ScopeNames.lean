import Scrutiny.DeclarationError
import Scrutiny.Entries
import Scrutiny.Scope
import Scrutiny.Text.WhiteSpace

/-! # Names of scopes

Flag expressions such as `save|exit_on_failure` are read against a table of scope names. The names
of the basic operations are always there; further ones are defined with a bit of their own.
-/

namespace Scrutiny

/-- Scope names in the order of their definition. -/
structure ScopeNames where
  names : Entries Scope
  deriving Repr, DecidableEq

namespace ScopeNames

/-- The names that every table has. -/
def standard : ScopeNames where
  names := [
    ("create", .create),
    ("read", .read),
    ("update", .update),
    ("delete", .delete),
    ("save", .save),
    ("all", .all)]

/-- How a name is compared: without white space around it and without regard to case. -/
def plain (name : String) : String :=
  Text.lowerBasic (Text.trim name)

/-- The scope of a name. -/
def get? (table : ScopeNames) (name : String) : Option Scope :=
  table.names.get? (plain name)

/-- The scope of a name with the value of a single bit. -/
def singleBit (name : String) (value : Nat) : Except DeclarationError Scope :=
  match Scope.single? value with
  | some scope => .ok scope
  | none => .error (.scopeNotSingleBit name value)

/-- Try to define a name for a single bit that no other name has; the scope of all operations does
not count. The table is there afterwards whether or not the name could be defined. -/
def tryDefine (table : ScopeNames) (name : String) (value : Nat) :
    Except DeclarationError Scope × ScopeNames :=
  let key := plain name
  if table.names.has key || (Control.named? key).isSome then (.error (.reservedScope key), table)
  else
    match singleBit key value with
    | .error error => (.error error, table)
    | .ok scope =>
      match table.names.find? fun entry => entry.2 ≠ .all && entry.2.intersects scope with
      | some (takenBy, _) => (.error (.scopeBitTaken key value takenBy), table)
      | none => (.ok scope, ⟨table.names.put key scope⟩)

/-- The scope of a name that can be defined, and the table with it. -/
def define (table : ScopeNames) (name : String) (value : Nat) :
    Except DeclarationError (Scope × ScopeNames) :=
  let (result, table) := table.tryDefine name value
  result.map fun scope => (scope, table)

/-- Define several names in turn. -/
def defineAll (table : ScopeNames) : List (String × Nat) → Except DeclarationError ScopeNames
  | [] => .ok table
  | (name, value) :: rest =>
    match table.define name value with
    | .ok (_, table) => table.defineAll rest
    | .error error => .error error

/-- Whether a character separates the names of an expression. -/
def isSeparator (c : Char) : Bool :=
  c == '|' || c == ','

/-- The parts of a list of characters between separators. -/
def splitParts (current : List Char) : List Char → List (List Char)
  | [] => [current]
  | c :: rest =>
    if isSeparator c then current :: splitParts [] rest else splitParts (current ++ [c]) rest

/-- The names that an expression lists, empty ones left out. -/
def tokens (expression : String) : List String :=
  (splitParts [] expression.toList).filterMap fun part =>
    match Text.trimChars part with
    | [] => none
    | name => some (Text.lowerBasic (String.ofList name))

/-- Add the flags that several names stand for. -/
def addTokens (table : ScopeNames) (scope : Scope) (control : Control) :
    List String → Except DeclarationError (Scope × Control)
  | [] => .ok (scope, control)
  | token :: rest =>
    match table.names.get? token with
    | some named => table.addTokens (scope.union named) control rest
    | none =>
      match Control.named? token with
      | some flag => table.addTokens scope (control.union flag) rest
      | none => .error (.unknownFlag token)

/-- Read an expression of scope names and control flags. -/
def parseFlags (table : ScopeNames) (expression : String) :
    Except DeclarationError (Scope × Control) :=
  table.addTokens .none .none (tokens expression)

/-- Read an expression of scope names alone. -/
def parseScope (table : ScopeNames) (expression : String) : Except DeclarationError Scope := do
  let (scope, control) ← table.parseFlags expression
  if control.isEmpty then .ok scope else .error (.unknownFlag expression)

end ScopeNames

end Scrutiny
