import ChangeImpact.Literal.Machine
/-!
# Arguments of a call

Arguments by place come first, then those by name. A star spreads the items of a value over the
arguments by place, two stars spread a dictionary over those by name.
-/
set_option autoImplicit false

namespace ChangeImpact.Literal.CallRule

open ExpressionRule (expression)
open BracketRule (generatorItem)
open Choice (first second nodeOf diagnose withValue)

def count (positional : Nat) (keywords : List KeywordArgument) : Value :=
  .arguments (positional + keywords.countP (· = .starred)) (keywords.contains .spread)

def argumentByName : Choice :=
  withValue [Kind.name, "=", expression] fun _ => some (.keyword .named)

def allKeywords (items : List Item) : Choice :=
  withValue items fun values => some (.keywords (values.flatMap Value.keywordsOf))

def alternatives : CallRule → List Choice
  | arguments => [first [positionals, .optional ",", .ahead ")"], diagnose .arguments]
  | positionals =>
      [withValue [.list positional, .optional laterKeywords] fun values =>
          some (count (values.flatMap Value.nodesOf).length (values.flatMap Value.keywordsOf)),
        withValue [keywords] fun values => some (count 0 (values.flatMap Value.keywordsOf))]
  | positional => [first [starred], first [generatorItem, .notAhead "="]]
  | laterKeywords => [second [",", keywords]]
  | keywords =>
      [allKeywords [.list keywordOrStarred, ",", .list keywordOrDoubleStarred],
        allKeywords [.list keywordOrStarred], allKeywords [.list keywordOrDoubleStarred]]
  | starred =>
      [nodeOf ["*", expression] fun nodes => nodes.head?.map .starred, .fault ["*"] .bareStar]
  | keywordOrStarred =>
      [diagnose .keyword, argumentByName, withValue [starred] fun _ => some (.keyword .starred)]
  | keywordOrDoubleStarred =>
      [diagnose .keyword, argumentByName,
        withValue ["**", expression] fun _ => some (.keyword .spread)]

def keeping : CallRule → Keeping
  | arguments => .result
  | _ => .nothing

end ChangeImpact.Literal.CallRule
