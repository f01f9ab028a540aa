/-! # Outcomes of checks -/

namespace Scrutiny

/-- What a check says of a value. -/
inductive Outcome where
  | pass
  /-- The value is wrong for the given reasons; without any reason it passes. -/
  | errors (messages : List String)
  /-- The whole validation ends here and nothing is recorded. -/
  | abort
  deriving Repr, DecidableEq, Inhabited

namespace Outcome

/-- The outcome of one reason. -/
def error (message : String) : Outcome :=
  errors [message]

/-- The outcome of some reasons, which passes if there are none. -/
def ofMessages : List String → Outcome
  | [] => pass
  | messages => errors messages

/-- The outcome of one reason or none. -/
def ofMessage? : Option String → Outcome
  | none => pass
  | some message => error message

/-- Whether a value passes. -/
def isPass : Outcome → Bool
  | pass => true
  | errors messages => messages.isEmpty
  | abort => false

end Outcome

end Scrutiny
