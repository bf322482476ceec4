import ChangeImpact.Repository.Revision
/-!
# What to compare

The positional arguments name a repository and the two ends of a range; what is left out is the
current directory, the first parent of the head, and the head.
-/
set_option autoImplicit false

namespace ChangeImpact

open Validation

structure Target where
  path : Text
  base : Revision
  head : Revision
  deriving DecidableEq

namespace Target

def range (target : Target) : Text :=
  Text.ofString target.base.ref.text ++ ".." ++ target.head.ref.text

def make (path base head : Text) : Checked Target :=
  match Revision.make base .base with
  | .error problems => .error problems
  | .ok base =>
      match Revision.make head .head with
      | .error problems => .error problems
      | .ok head => .ok ⟨path, base, head⟩

/-- The target of some arguments; none if there are more than three. -/
def ofPositionals (directory : Text) : List Text → Option (Checked Target)
  | [] => some (make directory "HEAD^" "HEAD")
  | [path] => some (make path "HEAD^" "HEAD")
  | [path, base] => some (make path base "HEAD")
  | [path, base, head] => some (make path base head)
  | _ => none

end Target

end ChangeImpact
