import ChangeImpact.Validation.Field
/-!
# The ends of a range

A revision is a reference as the user wrote it, which is not empty, and the end of the range that it
names.
-/
set_option autoImplicit false

namespace ChangeImpact

open Json (Value Members)
open Validation

inductive Role where
  | base
  | head
  deriving DecidableEq

namespace Role

def name : Role → String
  | base => "base"
  | head => "head"

def all : List (String × Role) :=
  [("base", .base), ("head", .head)]

end Role

structure Revision where
  ref : NonEmptyString
  role : Role
  deriving DecidableEq

namespace Revision

def ofMembers (members : Members) : Checked Revision :=
  match
    (required ["ref"] (plain nonEmptyString) members).both
      (required ["role"] (plain (choice .notLiteral Role.all)) members) with
  | .ok (ref, role) => .ok ⟨ref, role⟩
  | .error problems => .error problems

def ofValue : Value → Checked Revision :=
  objectOf "RevisionSpec" ofMembers

def make (ref : Text) (role : Role) : Checked Revision :=
  match nonEmptyString (.string ref) with
  | .error complaint => Checked.fail [.field "ref"] complaint
  | .ok ref => .ok ⟨ref, role⟩

end Revision

end ChangeImpact
