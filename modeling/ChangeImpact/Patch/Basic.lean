import ChangeImpact.Text.CodePoint
/-!
# Patches

A patch is a list of files, each with the hunks that change it. The numbers of a hunk are those of
its header; its lines keep the text after their mark, line end included.
-/
set_option autoImplicit false

namespace ChangeImpact.Patch

inductive Mark where
  | context
  | added
  | removed
  /-- The remark that the line before it has no line end. -/
  | noLineEnd
  deriving DecidableEq

structure Line where
  mark : Mark
  value : Text
  deriving DecidableEq

structure Hunk where
  sourceStart : Nat
  sourceLength : Nat
  targetStart : Nat
  targetLength : Nat
  lines : List Line
  deriving DecidableEq

/-- A file of a patch. Its names are as the patch writes them, with quotes and the first component
that tells the two sides apart. -/
structure PatchedFile where
  source : Text
  target : Text
  binary : Bool
  hunks : List Hunk
  deriving DecidableEq

end ChangeImpact.Patch
