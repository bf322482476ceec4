import ChangeImpact.Text.Lines
/-!
# Matching an analyzer's path with a path of a patch

The analyzer names files as its machine does and a patch relative to the repository, so the two are
compared by a policy and never for equality.
-/
set_option autoImplicit false

namespace ChangeImpact

inductive PathPolicy where
  /-- The patch's path occurs anywhere in the analyzer's. -/
  | substring
  /-- The components of the patch's path are the last ones of the analyzer's. -/
  | suffix
  deriving DecidableEq

namespace PathPolicy

def name : PathPolicy → String
  | substring => "substring"
  | suffix => "suffix"

def all : List (String × PathPolicy) :=
  [("substring", .substring), ("suffix", .suffix)]

end PathPolicy

namespace PathMatch

def occursIn (word : Text) : Text → Bool
  | [] => word.isEmpty
  | point :: rest => word.isPrefixOf (point :: rest) || occursIn word rest

/-- The components of a path, between slashes of either kind; empty ones do not count. -/
def components (path : Text) : List Text :=
  let slashed := path.map fun (point : CodePoint) => if point = '\\' then .char '/' else point
  (Lines.pieces (.char '/') slashed).filter (!·.isEmpty)

def namesFile (policy : PathPolicy) (functionFile patchPath : Text) : Bool :=
  if patchPath.isEmpty then false
  else
    match policy with
    | .substring => occursIn patchPath functionFile
    | .suffix =>
        let wanted := components patchPath
        !wanted.isEmpty && wanted.isSuffixOf (components functionFile)

end PathMatch

end ChangeImpact
