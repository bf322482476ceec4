import ChangeImpact.Literal.Token
/-!
# Expressions

An expression is kept as far as its value or the name of its kind needs it: what can be a literal is
kept whole, of the rest only the kind.
-/
set_option autoImplicit false

namespace ChangeImpact.Literal

inductive Constant where
  | none
  | true
  | false
  | ellipsis
  | real
  | imaginary
  | text
  | bytes
  deriving DecidableEq

inductive Compound where
  | member
  | lambda
  | boolean
  | generator
  | yielded
  | awaited
  | setComprehension
  | dictionaryComprehension
  | conditional
  | named
  | template
  deriving DecidableEq

mutual

inductive Node where
  | name (word : String)
  | constant (value : Constant)
  | tuple (items : List Node)
  | set (items : List Node)
  | dictionary (entries : List Entry)
  | starred (inner : Node)
  | unary (sign : String) (operand : Node)
  | binary (sign : String) (left right : Node)
  /-- A comparison, the first sign of which may be the one of membership. -/
  | comparison (membership : Bool) (left : Node)
  | call (function : Node) (empty : Bool)
  | compound (kind : Compound)

inductive Entry where
  | pair (key value : Node)
  /-- The entries of another dictionary. -/
  | spread (value : Node)

end

def Constant.kindName : Constant → String
  | none => "None"
  | true => "True"
  | false => "False"
  | ellipsis => "ellipsis"
  | real | imaginary | text | bytes => "literal"

def Compound.kindName : Compound → String
  | member => "attribute"
  | lambda => "lambda"
  | boolean => "expression"
  | generator => "generator expression"
  | yielded => "yield expression"
  | awaited => "await expression"
  | setComprehension => "set comprehension"
  | dictionaryComprehension => "dict comprehension"
  | conditional => "conditional expression"
  | named => "named expression"
  | template => "f-string expression"

namespace Node

def kindName : Node → String
  | name _ => "name"
  | constant value => value.kindName
  | tuple _ => "tuple"
  | set _ => "set display"
  | dictionary _ => "dict literal"
  | starred _ => "starred"
  | unary _ _ | binary _ _ _ => "expression"
  | comparison _ _ => "comparison"
  | call _ _ => "function call"
  | compound kind => kind.kindName

mutual

/-- The first part of a loop's target that cannot be one. Of a comparison for membership the left
side is the target. -/
def wrongTarget? : Node → Option Node
  | tuple items => wrongTargetIn? items
  | starred inner => wrongTarget? inner
  | comparison membership left => if membership then wrongTarget? left else none
  | name _ | compound .member => none
  | other => some other

def wrongTargetIn? : List Node → Option Node
  | [] => none
  | item :: rest =>
      match wrongTarget? item with
      | some found => some found
      | none => wrongTargetIn? rest

end

end Node

end ChangeImpact.Literal
