import ChangeImpact.Literal.Machine
/-!
# Targets of a loop

A loop assigns to names, to members of values, or to several of them in brackets, one of which may
have a star.
-/
set_option autoImplicit false

namespace ChangeImpact.Literal.TargetRule

open ExpressionRule (atom)
open BracketRule (generator)
open CallRule (arguments)
open Choice (unit)

def alternatives : TargetRule → List Choice
  | targets =>
      [unit [target, .notAhead ","], unit [target, .many nextTarget, .optional ","]]
  | nextTarget => [unit [",", target]]
  | target => [unit ["*", unstarred], unit [memberTarget]]
  | unstarred => [unit [.notAhead "*", target]]
  | tupleTargets =>
      [unit [target, .oneOrMore nextTarget, .optional ","], unit [target, ","]]
  | memberTarget =>
      [unit [targetPrimary, ".", Kind.name, .notAhead goesOn], unit [targetAtom]]
  | targetAtom =>
      [unit [Kind.name], unit ["(", memberTarget, ")"], unit ["(", .optional tupleTargets, ")"]]
  | targetPrimary =>
      [unit [targetPrimary, ".", Kind.name, .ahead goesOn],
        unit [targetPrimary, generator, .ahead goesOn],
        unit [targetPrimary, "(", .optional arguments, ")", .ahead goesOn],
        unit [atom, .ahead goesOn]]
  | goesOn => [unit ["("], unit ["["], unit ["."]]

def keeping : TargetRule → Keeping
  | target | memberTarget => .result
  | targetPrimary => .growing
  | _ => .nothing

end ChangeImpact.Literal.TargetRule
