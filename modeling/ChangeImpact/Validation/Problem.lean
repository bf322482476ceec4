/-!
# What can be wrong with a record

A problem is a complaint and the path to the value that it is about. Checks of several parts of a
record gather the problems of all of them, in order.
-/
set_option autoImplicit false

namespace ChangeImpact.Validation

inductive Key where
  | field (name : String)
  | index (position : Nat)
  deriving DecidableEq

def Key.text : Key → String
  | .field name => name
  | .index position => toString position

inductive Complaint where
  | missing
  | notString
  | emptyString
  | loneSurrogate
  | notInteger
  | fractional
  | notIntegerText
  | tooManyDigits
  | notFinite
  | notNumber
  | notNumberText
  | below (least : Nat)
  | notPositive
  | notObject (model : String)
  | notAmong (choices : List String)
  | notLiteral (choices : List String)
  | notSet
  | notList
  | emptyList
  | startAfterEnd (start finish : Nat)
  deriving DecidableEq

namespace Complaint

def code : Complaint → String
  | missing => "missing"
  | notString => "string_type"
  | emptyString => "string_too_short"
  | loneSurrogate => "string_unicode"
  | notInteger => "int_type"
  | fractional => "int_from_float"
  | notIntegerText => "int_parsing"
  | tooManyDigits => "int_parsing_size"
  | notFinite => "finite_number"
  | notNumber => "float_type"
  | notNumberText => "float_parsing"
  | below _ => "greater_than_equal"
  | notPositive => "greater_than"
  | notObject _ => "model_type"
  | notAmong _ => "enum"
  | notLiteral _ => "literal_error"
  | notSet => "set_type"
  | notList => "list_type"
  | emptyList => "too_short"
  | startAfterEnd _ _ => "value_error"

def choiceText : List String → String
  | [] => ""
  | [only] => "'" ++ only ++ "'"
  | [first, last] => "'" ++ first ++ "' or '" ++ last ++ "'"
  | first :: rest => "'" ++ first ++ "', " ++ choiceText rest

def message : Complaint → String
  | missing => "Field required"
  | notString => "Input should be a valid string"
  | emptyString => "String should have at least 1 character"
  | loneSurrogate =>
      "Input should be a valid string, unable to parse raw data as a unicode string"
  | notInteger => "Input should be a valid integer"
  | fractional => "Input should be a valid integer, got a number with a fractional part"
  | notIntegerText => "Input should be a valid integer, unable to parse string as an integer"
  | tooManyDigits => "Unable to parse input string as an integer, exceeded maximum size"
  | notFinite => "Input should be a finite number"
  | notNumber => "Input should be a valid number"
  | notNumberText => "Input should be a valid number, unable to parse string as a number"
  | below least => "Input should be greater than or equal to " ++ toString least
  | notPositive => "Input should be greater than 0"
  | notObject model => "Input should be a valid dictionary or instance of " ++ model
  | notAmong choices => "Input should be " ++ choiceText choices
  | notLiteral choices => "Input should be " ++ choiceText choices
  | notSet => "Input should be a valid set"
  | notList => "Input should be a valid list"
  | emptyList => "List should have at least 1 item after validation, not 0"
  | startAfterEnd start finish =>
      "Value error, start_line (" ++ toString start ++ ") is after end_line (" ++
        toString finish ++ ")"

end Complaint

structure Problem where
  location : List Key
  complaint : Complaint
  deriving DecidableEq

def Problem.under (key : Key) (problem : Problem) : Problem :=
  { problem with location := key :: problem.location }

structure Problems where
  first : Problem
  rest : List Problem
  deriving DecidableEq

namespace Problems

def toList (problems : Problems) : List Problem :=
  problems.first :: problems.rest

def append (left right : Problems) : Problems :=
  ⟨left.first, left.rest ++ right.toList⟩

def under (key : Key) (problems : Problems) : Problems :=
  ⟨problems.first.under key, problems.rest.map (·.under key)⟩

end Problems

/-- A checked value, or all problems found. -/
abbrev Checked (α : Type) := Except Problems α

namespace Checked

def fail {α : Type} (location : List Key) (complaint : Complaint) : Checked α :=
  .error ⟨⟨location, complaint⟩, []⟩

def under {α : Type} (key : Key) : Checked α → Checked α
  | .ok value => .ok value
  | .error problems => .error (problems.under key)

/-- Both parts, or the problems of the first and then of the second. -/
def both {α β : Type} : Checked α → Checked β → Checked (α × β)
  | .ok a, .ok b => .ok (a, b)
  | .ok _, .error problems => .error problems
  | .error problems, .ok _ => .error problems
  | .error first, .error second => .error (first.append second)

def each {α β : Type} (check : α → Checked β) : (start : Nat) → List α → Checked (List β)
  | _, [] => .ok []
  | start, item :: rest =>
      match (under (.index start) (check item)).both (each check (start + 1) rest) with
      | .ok (value, values) => .ok (value :: values)
      | .error problems => .error problems

end Checked

end ChangeImpact.Validation
