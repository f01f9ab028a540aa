/-! # Scopes and control flags

A scope is a set of operations, such as creating or updating, that a rule applies to. Control flags
say when a rule ends the list it stands in. The two are different types, so that neither can be
taken for the other.
-/

namespace Scrutiny

/-- A set of operations, one bit for each. -/
structure Scope where
  bits : UInt32
  deriving Repr, DecidableEq, Inhabited

namespace Scope

/-- No operation. -/
def none : Scope := ⟨0⟩

def create : Scope := ⟨1⟩

def read : Scope := ⟨2⟩

def update : Scope := ⟨4⟩

def delete : Scope := ⟨8⟩

/-- Creating or updating. -/
def save : Scope := ⟨5⟩

/-- Every operation. -/
def all : Scope := ⟨0xFFFFFFFF⟩

/-- The operations of either scope. -/
def union (left right : Scope) : Scope :=
  ⟨left.bits ||| right.bits⟩

/-- The operations of both scopes. -/
def inter (left right : Scope) : Scope :=
  ⟨left.bits &&& right.bits⟩

/-- Whether a scope has no operation. -/
def isEmpty (scope : Scope) : Bool :=
  scope.bits == 0

/-- Whether two scopes share an operation. -/
def intersects (left right : Scope) : Bool :=
  left.bits &&& right.bits != 0

/-- The scope of a single bit, if the value is one. -/
def single? (value : Nat) : Option Scope :=
  if (List.range 32).any fun place => value == 1 <<< place then some ⟨value.toUInt32⟩
  else Option.none

/-- A scope with its bits in base two. -/
def render (scope : Scope) : String :=
  "Scope(0b" ++ String.ofList (Nat.toDigits 2 scope.bits.toNat) ++ ")"

end Scope

/-- When a rule ends the list it stands in. -/
structure Control where
  /-- After it has failed. -/
  exitOnFailure : Bool := false
  /-- After it has passed. -/
  exitOnSuccess : Bool := false
  /-- Before it runs, if there are errors already. -/
  exitIfAlreadyErrored : Bool := false
  deriving Repr, DecidableEq, Inhabited

namespace Control

/-- No flag. -/
def none : Control := {}

/-- The flags of either side. -/
def union (left right : Control) : Control where
  exitOnFailure := left.exitOnFailure || right.exitOnFailure
  exitOnSuccess := left.exitOnSuccess || right.exitOnSuccess
  exitIfAlreadyErrored := left.exitIfAlreadyErrored || right.exitIfAlreadyErrored

/-- Whether no flag is set. -/
def isEmpty (control : Control) : Bool :=
  !control.exitOnFailure && !control.exitOnSuccess && !control.exitIfAlreadyErrored

/-- Whether every flag of the right side is set on the left. -/
def contains (left right : Control) : Bool :=
  (!right.exitOnFailure || left.exitOnFailure) &&
    (!right.exitOnSuccess || left.exitOnSuccess) &&
    (!right.exitIfAlreadyErrored || left.exitIfAlreadyErrored)

/-- The names of the flags. -/
def names : List (String × Control) := [
  ("exit_on_failure", { exitOnFailure := true }),
  ("exit_on_success", { exitOnSuccess := true }),
  ("exit_if_already_errored", { exitIfAlreadyErrored := true })]

/-- The flag of a name. -/
def named? (name : String) : Option Control :=
  (names.find? fun entry => entry.1 == name).map Prod.snd

/-- The names of the flags that are set. -/
def render (control : Control) : String :=
  let set := (names.filter fun entry => control.contains entry.2).map Prod.fst
  "Control(" ++ String.intercalate "|" set ++ ")"

end Control

end Scrutiny
