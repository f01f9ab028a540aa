import Scrutiny.Check.Arguments
import Scrutiny.Word.Screen

/-! # Procedures

A check is carried out by a procedure. When a rule is resolved, its procedure looks at the arguments
and compiles what is to be compiled of them. Whenever the rule is tried, the procedure is given the
same arguments and reads them anew. What has been compiled is found in the memory of the registry,
and is compiled again if it is not there.
-/

namespace Scrutiny

/-- A pattern with the text that it was compiled from. -/
structure CompiledPattern where
  source : String
  pattern : Pattern

/-- What the checks of a registry have compiled so far, by the texts of the patterns and by the
words. -/
structure Memory where
  patterns : Entries CompiledPattern
  words : Entries Word.CompiledWord

namespace Memory

/-- A memory before anything is compiled. -/
def empty : Memory := ⟨[], []⟩

/-- A screen that keeps its words in a memory. -/
def screen (memory : Memory) (policy : Word.Policy) : Word.Screen :=
  ⟨policy, Word.Confusables.standard, memory.words⟩

end Memory

/-- How a check is carried out. -/
structure Procedure where
  /-- Look at the arguments of a rule. -/
  accept : List Value → Memory → Except DeclarationError Unit × Memory
  /-- Judge what a rule with some arguments is tried on. -/
  run : CheckInput → List Value → Memory → Except Failure Outcome × Memory

namespace Procedure

/-- A procedure that compiles nothing: the number of its arguments, what else they have to be, and
how it judges. -/
def plain (name : String) (arity : Arity) (rule : Check.ArgumentRule)
    (judge : CheckInput → List Value → Except Failure Outcome) : Procedure where
  accept args memory :=
    (do
      Check.expectCount name arity args
      (rule args).mapError (.invalidArgs name), memory)
  run input args memory := (judge input args, memory)

/-- The test that a rule comes to: the arguments are looked at once, and every time the rule is
tried the procedure runs with them and with what it has compiled. -/
def prepare (procedure : Procedure) (args : List Value) : Except DeclarationError Test :=
  match procedure.accept args .empty with
  | (.error error, _) => .error error
  | (.ok (), memory) => .ok fun input => (procedure.run input args memory).1

/-- The check that a procedure carries out. -/
def toCheck (procedure : Procedure) : Check := ⟨procedure.prepare⟩

instance : Coe Procedure Check := ⟨toCheck⟩

end Procedure

end Scrutiny
