import ChangeImpact.Failure
import ChangeImpact.Impact.Basic
/-!
# The impact of the text of a patch
-/
set_option autoImplicit false

namespace ChangeImpact.Impact

open Patch (PatchedFile)

def ofPatch (room : Nat) (catalog : Catalog) (policy : PathPolicy) (files : List PatchedFile) :
    Except Failure Impact :=
  match ofFiles room catalog policy files with
  | .error error => .error (.ofFileError error)
  | .ok impact => .ok impact

def ofText (room : Nat) (catalog : Catalog) (policy : PathPolicy) (text : Text) :
    Except Failure Impact :=
  match Patch.parse text with
  | .error error => .error (.ofParseError error)
  | .ok files => ofPatch room catalog policy files

end ChangeImpact.Impact
