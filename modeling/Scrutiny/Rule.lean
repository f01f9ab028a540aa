import Scrutiny.Check
import Scrutiny.RuleDecl

/-! # Rules

A resolved rule: its declaration, and the test that its check is with the declared arguments.
-/

namespace Scrutiny

/-- A rule that is ready to run. -/
structure Rule where
  decl : RuleDecl
  test : Test

/-- A rule in words. -/
def Rule.describe (rule : Rule) : String :=
  "Rule \x7b check: " ++ Text.quoted rule.decl.check ++ ", args: [" ++
    String.intercalate ", " (Value.describeItems rule.decl.args) ++ "], scope: " ++
    rule.decl.scope.render ++ ", control: " ++ rule.decl.control.render ++ " \x7d"

end Scrutiny
