import ChangeImpact.Patch.Path
import ChangeImpact.Patch.Run
/-!
# The runs of a file

A file of a patch has a path and runs. The path has to be quoted soundly, and the gaps between the
hunks must not be too long to fill.
-/
set_option autoImplicit false

namespace ChangeImpact.Patch

inductive FileError where
  | path (error : PathError)
  | gap (error : GapError)
  deriving DecidableEq

/-- The path of a file and its runs, where there is room for so many lines in a gap. -/
def PatchedFile.pathAndRuns (file : PatchedFile) (room : Nat) :
    Except FileError (Text × List Run) :=
  match file.path with
  | .error error => .error (.path error)
  | .ok path =>
      match gapError? room file.hunks with
      | some error => .error (.gap error)
      | none => .ok (path, runs path file.hunks)

end ChangeImpact.Patch
