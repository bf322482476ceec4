import ChangeImpact.Literal.Node
/-!
# The value of a literal

A literal is a constant, a number with a sign, a sum of a real and an imaginary number, or a tuple,
set or dictionary of literals. What goes into a set, or is a key of a dictionary, must not be a set
or dictionary or hold one in a tuple. Of a value only that is kept.
-/
set_option autoImplicit false

namespace ChangeImpact.Literal

/-- A value that cannot be in a set. -/
inductive Container where
  | set
  | dictionary
  deriving DecidableEq

def Container.name : Container → String
  | set => "set"
  | dictionary => "dict"

inductive ValueFault where
  | unhashable (container : Container)
  /-- The entries of another dictionary stand where a key should. -/
  | missingKey
  | notLiteral
  deriving DecidableEq

def ValueFault.message : ValueFault → String
  | unhashable container => "unhashable type: '" ++ container.name ++ "'"
  | missingKey => "malformed node or string: None"
  | notLiteral => "malformed node or string"

namespace Node

def isReal : Node → Bool
  | constant .real => true
  | unary sign (constant .real) => sign = "+" || sign = "-"
  | _ => false

def isSignedNumber : Node → Bool
  | unary sign (constant .real) | unary sign (constant .imaginary) => sign = "+" || sign = "-"
  | _ => false

def isComplex : Node → Bool
  | binary sign left (constant .imaginary) => (sign = "+" || sign = "-") && left.isReal
  | _ => false

def hashed (value : Option Container) : Except ValueFault Unit :=
  match value with
  | some container => .error (.unhashable container)
  | none => .ok ()

mutual

/-- The set or dictionary that a value is or, as a tuple, holds first. -/
def evaluate : Node → Except ValueFault (Option Container)
  | constant _ => .ok none
  | tuple items => evaluateItems items
  | set items => (evaluateHashed items).map fun _ => some .set
  | dictionary entries => (evaluateEntries entries).map fun _ => some .dictionary
  | call (name word) empty => if word = "set" && empty then .ok (some .set) else .error .notLiteral
  | node => if node.isSignedNumber || node.isComplex then .ok none else .error .notLiteral

def evaluateItems : List Node → Except ValueFault (Option Container)
  | [] => .ok none
  | item :: rest =>
      match evaluate item, evaluateItems rest with
      | .error fault, _ => .error fault
      | _, .error fault => .error fault
      | .ok first, .ok later => .ok (first.or later)

def evaluateHashed : List Node → Except ValueFault Unit
  | [] => .ok ()
  | item :: rest =>
      match evaluate item with
      | .error fault => .error fault
      | .ok value =>
          match hashed value with
          | .error fault => .error fault
          | .ok _ => evaluateHashed rest

def evaluateEntries : List Entry → Except ValueFault Unit
  | [] => .ok ()
  | entry :: rest =>
      match evaluateEntry entry with
      | .error fault => .error fault
      | .ok _ => evaluateEntries rest

def evaluateEntry : Entry → Except ValueFault Unit
  | .pair key value =>
      match evaluate key, evaluate value with
      | .error fault, _ => .error fault
      | _, .error fault => .error fault
      | .ok key, .ok _ => hashed key
  | .spread _ => .error .missingKey

end

end Node

end ChangeImpact.Literal
