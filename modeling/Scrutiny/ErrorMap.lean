import Scrutiny.Document
import Scrutiny.Path

/-! # Error maps

Validation messages by path key, in the order in which the keys first failed.
-/

namespace Scrutiny

/-- Messages by path key. -/
structure ErrorMap where
  entries : Entries (List String)
  deriving Repr, DecidableEq, Inhabited

namespace ErrorMap

/-- No message at all. -/
def empty : ErrorMap := ⟨[]⟩

/-- The map of a list of pairs, a later pair replacing an earlier one of the same key. -/
def ofPairs (pairs : List (String × List String)) : ErrorMap :=
  ⟨Entries.collect pairs⟩

/-- Whether there is no key. -/
def isEmpty (errors : ErrorMap) : Bool :=
  errors.entries.isEmpty

/-- The number of keys. -/
def size (errors : ErrorMap) : Nat :=
  errors.entries.length

/-- The messages under a key. -/
def get? (errors : ErrorMap) (key : String) : Option (List String) :=
  errors.entries.get? key

/-- Whether there is a message under a key. -/
def has (errors : ErrorMap) (key : String) : Bool :=
  match errors.get? key with
  | some messages => !messages.isEmpty
  | none => false

/-- The keys in order. -/
def keys (errors : ErrorMap) : List String :=
  errors.entries.keys

/-- Add messages under a key; adding none changes nothing. -/
def extendAt (errors : ErrorMap) (key : String) (messages : List String) : ErrorMap :=
  if messages.isEmpty then errors
  else ⟨errors.entries.put key ((errors.get? key).getD [] ++ messages)⟩

/-- Add one message under a key. -/
def push (errors : ErrorMap) (key message : String) : ErrorMap :=
  errors.extendAt key [message]

/-- Add every message of another map. -/
def merge (errors other : ErrorMap) : ErrorMap :=
  other.entries.foldl (fun merged entry => merged.extendAt entry.1 entry.2) errors

/-- Whether there is a message at a key or below it. -/
def hasUnder (errors : ErrorMap) (parent : String) : Bool :=
  errors.entries.any fun entry => !entry.2.isEmpty && Path.isUnder entry.1 parent

/-- What is recorded at a key and below it. -/
def subtree (errors : ErrorMap) (parent : String) : ErrorMap :=
  ⟨errors.entries.filter fun entry => Path.isUnder entry.1 parent⟩

/-- The document of a map. -/
def toValue (errors : ErrorMap) : Value :=
  .object (errors.entries.map fun entry => (entry.1, .list (entry.2.map .string)))

/-- The map that a document denotes. -/
def ofDocument? (document : Document) : Option ErrorMap :=
  (document.entries? (Document.list? Document.string?)).map ErrorMap.mk

end ErrorMap

end Scrutiny
