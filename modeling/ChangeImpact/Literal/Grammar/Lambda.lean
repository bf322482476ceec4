import ChangeImpact.Literal.Machine
/-!
# Functions without a name

A function has parameters, a colon and an expression. Parameters before a slash go by place, those
after a star by name; a parameter with a star takes the other arguments by place, one with two stars
those by name. Parameters with a default follow those without.
-/
set_option autoImplicit false

namespace ChangeImpact.Literal.LambdaRule

open ExpressionRule (expression)
open Choice (unit compound diagnose)

/-- A parameter with something after it, up to a comma or before the colon. -/
def upToComma (items : List Item) : List Choice :=
  [unit (items ++ [.one ","]), unit (items ++ [.ahead ":"])]

def alternatives : LambdaRule → List Choice
  | function => [compound ["lambda", .optional checkedParameters, ":", expression] .lambda]
  | checkedParameters => [diagnose .lambdaParameters, unit [parameters]]
  | parameters =>
      [unit [slashPlain, .many plain, .many withDefault, .optional starred],
        unit [slashDefault, .many withDefault, .optional starred],
        unit [.oneOrMore plain, .many withDefault, .optional starred],
        unit [.oneOrMore withDefault, .optional starred], unit [starred]]
  | slashPlain => upToComma [.oneOrMore plain, "/"]
  | slashDefault => upToComma [.many plain, .oneOrMore withDefault, "/"]
  | starred =>
      [diagnose .lambdaStarred, unit ["*", plain, .many maybeDefault, .optional doubleStarred],
        unit ["*", ",", .oneOrMore maybeDefault, .optional doubleStarred], unit [doubleStarred]]
  | doubleStarred => [diagnose .lambdaDoubleStarred, unit ["**", plain]]
  | plain => upToComma [parameter]
  | withDefault => upToComma [parameter, default]
  | maybeDefault => upToComma [parameter, .optional default]
  | parameter => [unit [Kind.name]]
  | default => [unit ["=", expression], diagnose .default]

end ChangeImpact.Literal.LambdaRule
