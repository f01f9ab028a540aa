import Scrutiny.Check

/-! # Arguments of checks

How many arguments a check takes and what they have to be, and how a check that runs reads them.
-/

namespace Scrutiny

/-- How many arguments a check takes; nothing stands for any number from the least one on. -/
structure Arity where
  least : Nat
  most : Option Nat
  deriving Repr, DecidableEq

namespace Arity

/-- Exactly so many arguments. -/
def exactly (count : Nat) : Arity := ⟨count, some count⟩

/-- At least so many arguments. -/
def atLeast (count : Nat) : Arity := ⟨count, none⟩

/-- Whether a number of arguments is right. -/
def allows (arity : Arity) (count : Nat) : Bool :=
  arity.least ≤ count &&
    match arity.most with
    | some most => count ≤ most
    | none => true

/-- An arity in words. -/
def render (arity : Arity) : String :=
  match arity.most with
  | none => "at least " ++ toString arity.least
  | some most =>
    if arity.least = most then toString most
    else toString arity.least ++ " to " ++ toString most

end Arity

namespace Check

/-- A value as the name of a field. -/
def asFieldName : Value → Option String
  | .string text => if text.isEmpty then none else some text
  | _ => none

/-- A value as a count. -/
def asCount : Value → Option Nat
  | .number (.int value) => if 0 ≤ value then some value.toNat else none
  | _ => none

/-- A value as a number. -/
def asNumber : Value → Option Number
  | .number value => some value
  | _ => none

/-! ## When a rule is resolved -/

/-- Require a number of arguments. -/
def expectCount (name : String) (arity : Arity) (args : List Value) :
    Except DeclarationError Unit :=
  if arity.allows args.length then .ok ()
  else .error (.invalidArgs name
    ("expected " ++ arity.render ++ " argument(s), got " ++ toString args.length))

/-- What arguments have to be beside their number: nothing, or why they are not right. -/
abbrev ArgumentRule := List Value → Except String Unit

/-- All arguments are right. -/
def anything : ArgumentRule := fun _ => .ok ()

/-- The first argument can be read as what it has to be. -/
def firstIs {α : Type} (expected : String) (read : Value → Option α) : ArgumentRule := fun args =>
  match args.head?.bind read with
  | some _ => .ok ()
  | none => .error ("expected " ++ expected ++ ", got " ++ Value.describe? args.head?)

/-- All arguments are texts. -/
def allTexts : ArgumentRule := fun args =>
  match args.find? fun value => value.text?.isNone with
  | none => .ok ()
  | some other => .error ("expected a string, got " ++ Json.compact other)

/-! ## When a check runs -/

/-- The argument at a position. A check that asks for one beyond the end breaks off. -/
def argument (args : List Value) (index : Nat) : Except Failure Value :=
  match args[index]? with
  | some value => .ok value
  | none => .error (.raised
    ("index out of bounds: the len is " ++ toString args.length ++ " but the index is " ++
      toString index))

/-- The arguments from a position on. A check that begins beyond the end breaks off. -/
def argumentsFrom (args : List Value) (start : Nat) : Except Failure (List Value) :=
  if start ≤ args.length then .ok (args.drop start)
  else .error (.raised
    ("range start index " ++ toString start ++ " out of range for slice of length " ++
      toString args.length))

end Check

end Scrutiny
