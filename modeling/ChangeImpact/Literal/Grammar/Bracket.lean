import ChangeImpact.Literal.Machine
/-!
# What stands in brackets

Round brackets hold a tuple, a group or a generator; braces hold a dictionary, a set, or one of them
made by a loop.
-/
set_option autoImplicit false

namespace ChangeImpact.Literal.BracketRule

open ExpressionRule (expression namedExpression starNamedExpression starNamedExpressions
  assignment yieldExpression disjunction bitOr)
open TargetRule (targets)
open Choice (first second unit nodeOf compound diagnose withValue)

def loop (start : List Item) : Choice :=
  let rest : List Item := ["for", targets, "in", .commit, disjunction, .many condition]
  unit (start ++ rest)

def alternatives : BracketRule → List Choice
  | parenthesis => [first [tuple], first [group], first [generator]]
  | brace =>
      [first [dictionary], first [set], first [dictionaryComprehension], first [setComprehension]]
  | group => [second ["(", groupBody, ")"], diagnose .group]
  | groupBody => [first [yieldExpression], first [namedExpression]]
  | tuple => [nodeOf ["(", .optional tupleBody, ")"] fun nodes => some (.tuple nodes)]
  | tupleBody =>
      [withValue [starNamedExpression, ",", .optional starNamedExpressions] fun values =>
        some (.nodes (values.flatMap Value.nodesOf))]
  | set => [nodeOf ["\x7b", starNamedExpressions, "\x7d"] fun nodes => some (.set nodes)]
  | dictionary =>
      [withValue ["\x7b", .optional entries, "\x7d"] fun values =>
          some (.node (.dictionary (values.flatMap Value.entriesOf))),
        unit ["\x7b", DiagnosisRule.entries, "\x7d"]]
  | entries =>
      [withValue [.list entry, .optional ","] fun values =>
        some (.entries (values.flatMap Value.entriesOf))]
  | entry =>
      [withValue ["**", bitOr] fun values =>
          (values.flatMap Value.nodesOf).head?.map fun node => .entry (.spread node),
        first [pair]]
  | pair =>
      [withValue [expression, ":", expression] fun values =>
        match values.flatMap Value.nodesOf with
        | [key, value] => some (.entry (.pair key value))
        | _ => none]
  | clauses => [unit [.oneOrMore clause]]
  | clause => [loop ["async"], loop [], diagnose .loopTarget]
  | condition => [unit ["if", disjunction]]
  | setComprehension =>
      [compound ["\x7b", namedExpression, clauses, "\x7d"] .setComprehension,
        diagnose .comprehension]
  | generator =>
      [compound ["(", generatorItem, clauses, ")"] .generator, diagnose .comprehension]
  | generatorItem => [first [assignment], first [expression, .notAhead ":="]]
  | dictionaryComprehension =>
      [compound ["\x7b", pair, clauses, "\x7d"] .dictionaryComprehension,
        diagnose .dictionaryComprehension]

end ChangeImpact.Literal.BracketRule
