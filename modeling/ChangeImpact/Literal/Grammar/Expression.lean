import ChangeImpact.Literal.Machine
/-!
# Expressions by precedence

Each kind of sign binds more tightly than the one before: conditions, functions, `or`, `and`, `not`,
comparisons, the signs on bits, sums, products, signs in front, powers, and calls. Signs between two
expressions group to the left.
-/
set_option autoImplicit false

namespace ChangeImpact.Literal.ExpressionRule

open Choice (first second unit nodeOf compound diagnose withValue)

/-- One expression is itself, more are a tuple. -/
def tupleOf (items : List Item) : Choice :=
  nodeOf items fun nodes => some (.tuple nodes)

def starredOf (items : List Item) : Choice :=
  nodeOf items fun nodes => nodes.head?.map .starred

def signed (left : ExpressionRule) (sign : String) (right : ExpressionRule) : Choice :=
  nodeOf [left, sign, right] fun
    | [left, right] => some (.binary sign left right)
    | _ => none

/-- A row of expressions with signs between them, grouped to the left. -/
def chain (rule : ExpressionRule) (signs : List String) (operand : ExpressionRule) :
    List Choice :=
  signs.map (signed rule · operand) ++ [first [operand]]

def inFront (sign : String) (operand : ExpressionRule) : Choice :=
  nodeOf [sign, operand] fun nodes => nodes.head?.map (.unary sign)

def comparing (signs : List String) : Choice :=
  withValue (signs.map (fun (sign : String) => (sign : Item)) ++ [(bitOr : Item)]) fun _ =>
    some (.membership (signs = ["in"]))

def conditional : Choice :=
  compound [disjunction, "if", disjunction, "else", expression] .conditional

def unconditional : List Choice :=
  [first [disjunction], first [LambdaRule.function]]

def numeralNode (text : List Char) : Except GrammarFault Node :=
  let digits := text.filter (· ≠ '_')
  if digits.all Char.isDigit then
    if Numeral.digitLimit < digits.length && digits.any (· ≠ '0') then
      .error (.tooManyDigits ⟨digits.length⟩)
    else .ok (.constant .real)
  else if text.getLast?.any (fun c => c.toLower = 'j') then .ok (.constant .imaginary)
  else .ok (.constant .real)

def numeral : Choice where
  items := [Kind.numeral]
  build := fun _ values =>
    match values.flatMap Value.tokensOf with
    | token :: _ =>
        match numeralNode token.text with
        | .error fault => .error fault
        | .ok node => .ok (some (.node node))
    | [] => .ok none
  diagnostic := false

def name : Choice :=
  withValue [Kind.name] fun values =>
    (values.flatMap Value.tokensOf).head?.map fun token =>
      .node (.name (String.ofList token.text))

def texts : Choice where
  items := [.oneOrMore Kind.quoted]
  build := fun surroundings values =>
    match surroundings.quoted (values.flatMap Value.tokensOf) with
    | .error fault => .error fault
    | .ok node => .ok (some (.node node))
  diagnostic := false

def alternatives : ExpressionRule → List Choice
  | source => [first [expressions, .many Kind.lineEnd, Kind.sourceEnd]]
  | template => [first [starExpressions]]
  | expressions =>
      [tupleOf [expression, .oneOrMore nextExpression, .optional ","], tupleOf [expression, ","],
        first [expression]]
  | nextExpression => [second [",", expression]]
  | expression =>
      diagnose .expression :: diagnose .legacyCall :: conditional :: unconditional
  | yieldExpression =>
      [compound ["yield", "from", expression] .yielded,
        compound ["yield", .optional starExpressions] .yielded]
  | starExpressions =>
      [tupleOf [starExpression, .oneOrMore nextStarExpression, .optional ","],
        tupleOf [starExpression, ","], first [starExpression]]
  | nextStarExpression => [second [",", starExpression]]
  | starExpression => [starredOf ["*", bitOr], first [expression]]
  | starNamedExpressions =>
      [withValue [.list starNamedExpression, .optional ","] fun values =>
        some (.nodes (values.flatMap Value.nodesOf))]
  | starNamedExpression => [starredOf ["*", bitOr], first [namedExpression]]
  | assignment => [compound [Kind.name, ":=", .commit, expression] .named]
  | namedExpression =>
      [first [assignment], diagnose .namedExpression, first [expression, .notAhead ":="]]
  | disjunction =>
      [compound [conjunction, .oneOrMore orOperand] .boolean, first [conjunction]]
  | orOperand => [second ["or", conjunction]]
  | conjunction => [compound [inversion, .oneOrMore andOperand] .boolean, first [inversion]]
  | andOperand => [second ["and", inversion]]
  | inversion => [inFront "not" inversion, first [comparison]]
  | comparison =>
      [withValue [bitOr, .oneOrMore comparePair] fun
        | [.node left, .many (.membership membership :: _)] =>
            some (.node (.comparison membership left))
        | _ => none,
        first [bitOr]]
  | comparePair =>
      [comparing ["=="], comparing ["!="], comparing ["<="], comparing ["<"], comparing [">="],
        comparing [">"], comparing ["not", "in"], comparing ["in"], comparing ["is", "not"],
        comparing ["is"]]
  | bitOr => chain bitOr ["|"] bitXor
  | bitXor => chain bitXor ["^"] bitAnd
  | bitAnd => chain bitAnd ["&"] shift
  | shift => chain shift ["<<", ">>"] sum
  | sum => chain sum ["+", "-"] term
  | term => chain term ["*", "/", "//", "%", "@"] factor
  | factor => [inFront "+" factor, inFront "-" factor, inFront "~" factor, first [power]]
  | power => [signed awaited "**" factor, first [awaited]]
  | awaited => [compound ["await", primary] .awaited, first [primary]]
  | primary =>
      [compound [primary, ".", Kind.name] .member,
        nodeOf [primary, BracketRule.generator] fun nodes => nodes.head?.map (.call · false),
        withValue [primary, "(", .optional CallRule.arguments, ")"] fun
          | [.node function, _, .unit, _] => some (.node (.call function true))
          | .node function :: _ => some (.node (.call function false))
          | _ => none,
        first [atom]]
  | atom =>
      [name, .node ["True"] (.constant .true), .node ["False"] (.constant .false),
        .node ["None"] (.constant .none), first [.ahead Kind.quoted, quotedTexts], numeral,
        first [.ahead "(", BracketRule.parenthesis], first [.ahead "\x7b", BracketRule.brace],
        .node ["..."] (.constant .ellipsis)]
  | quotedTexts => [texts]

def keeping : ExpressionRule → Keeping
  | expression | starExpression | disjunction | conjunction | inversion | factor | awaited
  | quotedTexts => .result
  | bitOr | bitXor | bitAnd | shift | sum | term | primary => .growing
  | _ => .nothing

end ChangeImpact.Literal.ExpressionRule
