import ChangeImpact.Literal.Node
/-!
# Rules of a grammar

A rule has alternatives, tried in order; the first that fits wins. An alternative is a row of items,
each a token or another rule, perhaps repeated or only looked at. When its items have been read, it
builds a value from theirs, fails after all, or reports a fault.
-/
set_option autoImplicit false

namespace ChangeImpact.Literal

inductive ExpressionRule where
  | source | template | expressions | nextExpression | expression | yieldExpression
  | starExpressions | nextStarExpression | starExpression | starNamedExpressions
  | starNamedExpression | assignment | namedExpression | disjunction | orOperand | conjunction
  | andOperand | inversion | comparison | comparePair | bitOr | bitXor | bitAnd | shift | sum | term
  | factor | power | awaited | primary | atom | quotedTexts
  deriving DecidableEq, Hashable

inductive BracketRule where
  | parenthesis | brace | group | groupBody | tuple | tupleBody | set | dictionary | entries | entry
  | pair | clauses | clause | condition | setComprehension | generator | generatorItem
  | dictionaryComprehension
  deriving DecidableEq, Hashable

inductive CallRule where
  | arguments | positionals | positional | laterKeywords | keywords | starred | keywordOrStarred
  | keywordOrDoubleStarred
  deriving DecidableEq, Hashable

inductive TargetRule where
  | targets | nextTarget | target | unstarred | tupleTargets | memberTarget | targetAtom
  | targetPrimary | goesOn
  deriving DecidableEq, Hashable

inductive LambdaRule where
  | function | checkedParameters | parameters | slashPlain | slashDefault | starred | doubleStarred
  | plain | withDefault | maybeDefault | parameter | default
  deriving DecidableEq, Hashable

/-- Rules that find out what is wrong, tried only when a source is known to be wrong, and what they
are made of. -/
inductive DiagnosisRule where
  | expression | legacyCall | undiagnosedExpression | namedExpression | arguments | keyword | group
  | comprehension | dictionaryComprehension | loopTarget | entries | pair | lambdaParameters
  | lambdaStarred | lambdaDoubleStarred | default
  | argumentsOrGenerator | bareGenerator | fixedConstant | nameEquals | nameQuoted | elseOrColon
  | equals | displayOrConstant | opening | openingBrace | closingOrComma | braceOrComma | defaults
  | slashes | commaOrPlain | plainOrComma | colonOrDoubleStar | commaThenEnd | starEnd | starOrSlash
  deriving DecidableEq, Hashable

inductive Rule where
  | expression (rule : ExpressionRule)
  | bracket (rule : BracketRule)
  | call (rule : CallRule)
  | target (rule : TargetRule)
  | lambda (rule : LambdaRule)
  | diagnosis (rule : DiagnosisRule)
  deriving DecidableEq, Hashable

/-! ## Values -/

inductive KeywordArgument where
  | named
  | spread
  | starred
  deriving DecidableEq

inductive Value where
  | unit
  | token (token : Token)
  | node (node : Node)
  | nodes (nodes : List Node)
  | entry (entry : Entry)
  | entries (entries : List Entry)
  /-- Whether a comparison is one for membership. -/
  | membership (membership : Bool)
  | keyword (argument : KeywordArgument)
  | keywords (arguments : List KeywordArgument)
  /-- Arguments: how many go by place, and whether the entries of a dictionary are among them. -/
  | arguments (positional : Nat) (spread : Bool)
  | many (values : List Value)

namespace Value

def node? : Value → Option Node
  | .node found => some found
  | _ => none

def nodesOf : Value → List Node
  | .node found => [found]
  | .nodes found => found
  | many values => values.filterMap node?
  | _ => []

def entriesOf : Value → List Entry
  | .entries found => found
  | many values => values.filterMap fun
      | .entry found => some found
      | _ => none
  | _ => []

def keywordsOf : Value → List KeywordArgument
  | .keywords found => found
  | many values => values.filterMap fun
      | .keyword found => some found
      | _ => none
  | _ => []

def tokensOf : Value → List Token
  | .token found => [found]
  | many values => values.filterMap fun
      | .token found => some found
      | _ => none
  | _ => []

end Value

/-! ## Items -/

inductive Part where
  | token (kind : Kind)
  | word (words : List String)
  | rule (rule : Rule)

inductive Item where
  | one (part : Part)
  | optional (part : Part)
  | many (part : Part)
  | oneOrMore (part : Part)
  | list (part : Part)
  /-- Reads nothing; the part has to follow. -/
  | ahead (part : Part)
  /-- Reads nothing; the part must not follow. -/
  | notAhead (part : Part)
  /-- From here on the later alternatives of the rule are out. -/
  | commit

instance : Coe Kind Part where
  coe := Part.token

instance : Coe String Part where
  coe text := Part.token (.symbol text)

instance : Coe ExpressionRule Part where
  coe rule := Part.rule (.expression rule)

instance : Coe BracketRule Part where
  coe rule := Part.rule (.bracket rule)

instance : Coe CallRule Part where
  coe rule := Part.rule (.call rule)

instance : Coe TargetRule Part where
  coe rule := Part.rule (.target rule)

instance : Coe LambdaRule Part where
  coe rule := Part.rule (.lambda rule)

instance : Coe DiagnosisRule Part where
  coe rule := Part.rule (.diagnosis rule)

instance : Coe Kind Item where
  coe kind := Item.one kind

instance : Coe String Item where
  coe text := Item.one text

instance : Coe ExpressionRule Item where
  coe rule := Item.one rule

instance : Coe BracketRule Item where
  coe rule := Item.one rule

instance : Coe CallRule Item where
  coe rule := Item.one rule

instance : Coe TargetRule Item where
  coe rule := Item.one rule

instance : Coe LambdaRule Item where
  coe rule := Item.one rule

instance : Coe DiagnosisRule Item where
  coe rule := Item.one rule

/-! ## Alternatives -/

structure Surroundings where
  /-- How many brackets are open after the token read last. -/
  depth : Nat
  quoted : List Token → Except ParseFault Node

structure Choice where
  items : List Item
  build : Surroundings → List Value → Except ParseFault (Option Value)
  diagnostic : Bool

namespace Choice

def withValue (items : List Item) (build : List Value → Option Value) : Choice :=
  ⟨items, fun _ values => .ok (build values), false⟩

def first (items : List Item) : Choice :=
  withValue items List.head?

def second (items : List Item) : Choice :=
  withValue items (·[1]?)

def unit (items : List Item) : Choice :=
  withValue items fun _ => some .unit

def node (items : List Item) (node : Node) : Choice :=
  withValue items fun _ => some (.node node)

def compound (items : List Item) (kind : Compound) : Choice :=
  node items (.compound kind)

def nodeOf (items : List Item) (build : List Node → Option Node) : Choice :=
  withValue items fun values => (build (values.flatMap Value.nodesOf)).map .node

def fault (items : List Item) (fault : GrammarFault) : Choice :=
  ⟨items, fun _ _ => .error fault, false⟩

def diagnose (rule : DiagnosisRule) : Choice :=
  ⟨[rule], fun _ values => .ok values.head?, true⟩

end Choice

end ChangeImpact.Literal
