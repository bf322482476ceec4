import ChangeImpact.Impact.Basic
import ChangeImpact.Validation.Field
/-!
# Impacts as records

An impact is written as an object with two arrays of labels; a missing array is empty, and a label
that comes again counts once.
-/
set_option autoImplicit false

namespace ChangeImpact

open Json (Value Members)
open Validation

namespace LabelSet

def ofValue : Value → Checked LabelSet
  | .array items =>
      match Checked.each (plain text) 0 items with
      | .ok labels => .ok (ofList labels)
      | .error problems => .error problems
  | _ => Checked.fail [] .notSet

end LabelSet

namespace Impact

def ofMembers (members : Members) : Checked Impact :=
  match
    (optional ["added"] .empty LabelSet.ofValue members).both
      (optional ["removed"] .empty LabelSet.ofValue members) with
  | .ok (added, removed) => .ok ⟨added, removed⟩
  | .error problems => .error problems

def ofValue : Value → Checked Impact :=
  objectOf "ImpactSets" ofMembers

end Impact

end ChangeImpact
