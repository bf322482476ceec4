import ChangeImpact.Literal.Basic
import ChangeImpact.Text.Blank
import ChangeImpact.Text.Quoted
/-!
# Handlers

A tag in markup may name a handler for an event. Its parameter is the name of a function with
arguments in parentheses, or arguments alone, and the arguments have to be a literal.
-/
set_option autoImplicit false

namespace ChangeImpact.Console.Handler

def isNamePoint : CodePoint → Bool
  | .char c => Text.isWordChar c || c = '.'
  | .surrogate _ => false

/-- The arguments in a parameter: what stands in parentheses after a name, nothing in parentheses
after a name alone, and otherwise the whole parameter. -/
def arguments (parameter : Text) : Text :=
  let parameter := Text.trim parameter
  match parameter.dropWhile isNamePoint with
  | [] => "()"
  | .char '(' :: rest =>
      if rest.getLast? = some (.char ')') && !rest.contains (.char '\n') then .char '(' :: rest
      else parameter
  | _ => parameter

structure Error where
  parameter : Text
  fault : Literal.Fault
  deriving DecidableEq

/-- What is wrong. The arguments are shown if they could not be read. -/
def Error.message (error : Error) : Text :=
  let whole : Text := "error parsing " ++ Text.quoted error.parameter ++ "; "
  let part : Text :=
    "error parsing " ++ Text.quoted (arguments error.parameter) ++ " in " ++
      Text.quoted error.parameter ++ "; "
  match error.fault with
  | .surrogate fault => whole ++ fault.message
  | .value fault => whole ++ fault.message
  | .nullCharacter => part ++ "source code string cannot contain null bytes"
  | .parse fault => part ++ fault.message

/-- An empty parameter is one without arguments. -/
def check (parameter : Text) : Except Error Unit :=
  if parameter.isEmpty then .ok ()
  else
    match Literal.fault? (arguments parameter) with
    | some fault => .error ⟨parameter, fault⟩
    | none => .ok ()

end ChangeImpact.Console.Handler
