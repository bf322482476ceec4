import ChangeImpact.Literal.Grammar.Bracket
import ChangeImpact.Literal.Grammar.Call
import ChangeImpact.Literal.Grammar.Diagnosis
import ChangeImpact.Literal.Grammar.Expression
import ChangeImpact.Literal.Grammar.Lambda
import ChangeImpact.Literal.Grammar.Target
/-!
# The grammar of expressions
-/
set_option autoImplicit false

namespace ChangeImpact.Literal

def Rule.alternatives : Rule → List Choice
  | expression rule => rule.alternatives
  | bracket rule => rule.alternatives
  | call rule => rule.alternatives
  | target rule => rule.alternatives
  | lambda rule => rule.alternatives
  | diagnosis rule => rule.alternatives

def Rule.keeping : Rule → Keeping
  | expression rule => rule.keeping
  | call rule => rule.keeping
  | target rule => rule.keeping
  | diagnosis rule => rule.keeping
  | bracket _ | lambda _ => .nothing

def Grammar.expressions : Grammar where
  alternatives := Rule.alternatives
  keeping := Rule.keeping
  undiagnosed rule := rule = .diagnosis .undiagnosedExpression

end ChangeImpact.Literal
