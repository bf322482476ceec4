import ChangeImpact.Literal.Grammar.Expression
/-!
# What is wrong with a source

When a source is no expression, it is read once more with rules that know common mistakes. A rule
that finds its mistake reports it; the others leave the source as it is.
-/
set_option autoImplicit false

namespace ChangeImpact.Literal.DiagnosisRule

open ExpressionRule (disjunction bitOr starExpressions starNamedExpression starNamedExpressions)
open BracketRule (clauses)
open CallRule (positionals)
open LambdaRule (plain withDefault maybeDefault parameter slashPlain slashDefault)
open Choice (first unit fault withValue)

def any : ExpressionRule := .expression

def reports (items : List Item) (find : List Value → Option GrammarFault) : Choice where
  items := items
  build := fun _ values =>
    match find values with
    | some fault => .error fault
    | none => .ok none
  diagnostic := false

/-- Words that were once statements of their own. -/
def legacyWords : List String := ["print", "exec"]

/-- A second expression after a first, inside brackets, misses a comma. -/
def twoExpressions : Choice where
  items := [.notAhead nameQuoted, disjunction, undiagnosedExpression]
  build := fun surroundings values =>
    let isLegacy :=
      match values.flatMap Value.nodesOf with
      | .name word :: _ => legacyWords.contains word
      | _ => false
    if isLegacy || surroundings.depth = 0 then .ok none
    else .error GrammarFault.forgottenComma
  diagnostic := false

def tokenWord? (values : List Value) : Option String :=
  (values.flatMap Value.tokensOf).head?.map fun token => String.ofList token.text

def firstNode? (values : List Value) : Option Node :=
  (values.flatMap Value.nodesOf).head?

def alternatives : DiagnosisRule → List Choice
  | expression =>
      [twoExpressions,
        fault [disjunction, "if", disjunction, .notAhead elseOrColon] .missingElse]
  | legacyCall =>
      [reports [Kind.name, .notAhead "(", starExpressions] fun values =>
        match tokenWord? values with
        | some word =>
            if legacyWords.contains word then some (.missingParentheses word) else none
        | none => none]
  | undiagnosedExpression => ExpressionRule.conditional :: ExpressionRule.unconditional
  | namedExpression =>
      [reports [any, ":=", any] fun values =>
          (firstNode? values).map fun node => .namedTarget node.kindName,
        fault [Kind.name, "=", bitOr, .notAhead equals] .equalsSign,
        reports [.notAhead displayOrConstant, bitOr, "=", bitOr, .notAhead equals] fun values =>
          (firstNode? values).map fun node => .assignedHere node.kindName]
  | arguments =>
      [fault [positionals, ",", "*"] .spreadAfterKeywords,
        fault [any, clauses, ",", .optional argumentsOrGenerator] .bareGenerator,
        fault [Kind.name, "=", any, clauses] .equalsSign,
        reports [positionals, clauses] fun
          | .arguments positional _ :: _ => if 1 < positional then some .bareGenerator else none
          | _ => none,
        fault [positionals, ",", any, clauses] .bareGenerator,
        reports [positionals, ",", positionals] fun
          | .arguments _ spread :: _ => some (.positionalAfterKeyword spread)
          | _ => none]
  | keyword =>
      [reports [fixedConstant, "="] fun values => (tokenWord? values).map .assigned,
        fault [Kind.name, "=", any, clauses] .equalsSign,
        fault [.notAhead nameEquals, any, "="] .assignmentInArguments]
  | group =>
      [fault ["(", CallRule.starred, ")"] .starHere, fault ["(", "**", any, ")"] .doubleStarHere]
  | comprehension =>
      [fault [opening, CallRule.starred, clauses] .spreadInComprehension,
        fault [openingBrace, starNamedExpression, ",", starNamedExpressions, clauses]
          .bareComprehensionTarget,
        fault [openingBrace, starNamedExpression, ",", clauses] .bareComprehensionTarget]
  | dictionaryComprehension =>
      [fault ["\x7b", "**", bitOr, clauses, "\x7d"] .dictionarySpreadInComprehension]
  | loopTarget =>
      [reports [.optional "async", "for", starExpressions] fun values =>
        ((firstNode? values).bind Node.wrongTarget?).map fun node => .assigned node.kindName]
  | entries =>
      [unit [.list BracketRule.entry, ",", pair], fault [any, ":", "*", bitOr] .starredValue,
        fault [any, ":", .ahead braceOrComma] .missingValue]
  | pair =>
      [fault [any, .notAhead ":"] .missingColon, fault [any, ":", "*", bitOr] .starredValue,
        fault [any, ":", .ahead braceOrComma] .missingValue]
  | lambdaParameters =>
      [fault [.many plain, defaults, plain] .defaultBeforeParameter,
        fault [.many plain, "(", .list parameter, .optional ",", ")"] .parenthesizedParameters,
        fault ["/", ","] .slashFirst, fault [slashes, .many maybeDefault, "/"] .slashTwice,
        fault [.optional slashes, .many maybeDefault, "*", commaOrPlain, .many maybeDefault, "/"]
          .slashAfterStar,
        fault [.oneOrMore maybeDefault, "/", "*"] .slashBeforeStar]
  | lambdaStarred =>
      [fault ["*", starEnd] .nothingAfterStar, fault ["*", parameter, "="] .starDefault,
        fault ["*", plainOrComma, .many maybeDefault, "*", plainOrComma] .starTwice]
  | lambdaDoubleStarred =>
      [fault ["**", parameter, "="] .doubleStarDefault,
        fault ["**", parameter, ",", parameter] .afterDoubleStar,
        fault ["**", parameter, ",", starOrSlash] .afterDoubleStar]
  | default => [fault ["=", .ahead closingOrComma] .missingDefault]
  | argumentsOrGenerator => [unit [positionals], unit [bareGenerator]]
  | bareGenerator => [unit [any, clauses]]
  | fixedConstant => [first ["True"], first ["False"], first ["None"]]
  | nameEquals => [unit [Kind.name, "="]]
  | nameQuoted =>
      [unit [Kind.name, Kind.quoted], unit [.one (.word ["_", "match", "case"])]]
  | elseOrColon => [unit ["else"], unit [":"]]
  | equals => [unit ["="], unit [":="]]
  | displayOrConstant =>
      [unit [BracketRule.tuple], unit [BracketRule.generator], unit ["True"], unit ["None"],
        unit ["False"]]
  | opening => [unit ["("], unit ["\x7b"]]
  | openingBrace => [unit ["\x7b"]]
  | closingOrComma => [unit [")"], unit [","]]
  | braceOrComma => [unit ["\x7d"], unit [","]]
  | defaults => [unit [slashDefault], unit [.oneOrMore withDefault]]
  | slashes => [unit [slashPlain], unit [slashDefault]]
  | commaOrPlain => [unit [","], unit [plain]]
  | plainOrComma => [unit [plain], unit [","]]
  | colonOrDoubleStar => [unit [":"], unit ["**"]]
  | commaThenEnd => [unit [",", colonOrDoubleStar]]
  | starEnd => [unit [":"], unit [commaThenEnd]]
  | starOrSlash => [unit ["*"], unit ["**"], unit ["/"]]

def keeping : DiagnosisRule → Keeping
  | namedExpression => .result
  | _ => .nothing

end ChangeImpact.Literal.DiagnosisRule
