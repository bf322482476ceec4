import ChangeImpact.Validation.Field
/-!
# Functions and their lines

The analyzer reports a function as a record with a qualifying name, a name, a file and the lines
that its definition takes, first and last included. A record is admitted only if it names a file and
its lines are in order, so every `SourceFunction` does.
-/
set_option autoImplicit false

namespace ChangeImpact

open Json (Value Members)
open Validation

structure SourceFunction where
  qualifiedName : Option Text
  name : Text
  file : NonEmptyString
  startLine : Nat
  endLine : Nat
  one_le_start : 1 ≤ startLine
  start_le_end : startLine ≤ endLine
  deriving DecidableEq

namespace SourceFunction

/-- The name under which a function is reported: the qualifying name unless it is empty. -/
def label (function : SourceFunction) : Text :=
  match function.qualifiedName with
  | some (point :: rest) => point :: rest
  | _ => function.name

def textOrNull : Check (Option Text)
  | .null => .ok none
  | .string value => .ok (some value)
  | _ => .error .notString

/-- The names of the fields, first the one that the analyzer writes. -/
def qualifiedNameKeys : List String := ["ControllerName", "qualified_name"]

def nameKeys : List String := ["FunctionName", "name"]

def fileKeys : List String := ["Filename", "file"]

def startLineKeys : List String := ["StartLine", "start_line"]

def endLineKeys : List String := ["EndLine", "end_line"]

def ofMembers (members : Members) : Checked SourceFunction :=
  let fields :=
    (optional qualifiedNameKeys none (plain textOrNull) members).both
      ((optional nameKeys [] (plain text) members).both
        ((required fileKeys (plain nonEmptyString) members).both
          ((required startLineKeys (plain lineNumber) members).both
            (required endLineKeys (plain lineNumber) members))))
  match fields with
  | .error problems => .error problems
  | .ok (qualifiedName, name, file, start, finish) =>
      if ordered : start.val ≤ finish.val then
        .ok ⟨qualifiedName, name, file, start.val, finish.val, start.property, ordered⟩
      else Checked.fail [] (.startAfterEnd start.val finish.val)

def ofValue : Value → Checked SourceFunction :=
  objectOf "FunctionRange" ofMembers

def toValue (function : SourceFunction) : Value :=
  Value.ofFields
    [("ControllerName",
        match function.qualifiedName with
        | some name => .string name
        | none => .null),
      ("FunctionName", .string function.name),
      ("Filename", Value.ofString function.file.text),
      ("StartLine", .int function.startLine),
      ("EndLine", .int function.endLine)]

/-- Reads a batch: an array of records, all of which have to be sound. -/
def batchOfValue : Value → Checked (List SourceFunction)
  | .array items => Checked.each ofValue 0 items
  | _ => Checked.fail [] .notList

end SourceFunction

end ChangeImpact
