import ChangeImpact.Impact.PatchText
import ChangeImpact.Repository.Basic
/-!
# The patch between two commits

The repository is asked for the patch from one commit to another with a number of lines of context.
What it replies is decoded, whatever its bytes are, and ends with a line end unless it is empty.
-/
set_option autoImplicit false

namespace ChangeImpact

structure DiffRequest where
  base : Text
  head : Text
  contextLines : Int
  deriving DecidableEq

namespace DiffRequest

/-- The configuration with which the question is put: paths are not quoted for bytes beyond ASCII.
-/
def options : List (String × String) := [("c", "core.quotepath=false")]

def arguments (request : DiffRequest) : List Text :=
  [request.base, request.head, "--unified=" ++ Text.ofInt request.contextLines]

def switches : List (String × Bool) :=
  [("find_renames", true), ("no_color", true), ("no_ext_diff", true), ("stdout_as_string", false)]

/-- The report of a question that failed; a status of zero gives no reason. -/
def failureText (status : Int) (errorText : Text) : Text :=
  let reason : Text :=
    if status = 0 then "!" else " due to: exit code(" ++ Text.ofInt status ++ ")"
  "Cmd('git') failed" ++ reason ++ "\n  cmdline: git diff" ++
    (if errorText.isEmpty then [] else "\n  stderr: '" ++ errorText ++ "'" : Text)

def endLine (text : Text) : Text :=
  if text.isEmpty || text.getLast? = some (.char '\n') then text else text ++ "\n"

def text (request : DiffRequest) : DiffReply → Except Failure Text
  | .bytes output => .ok (endLine (Utf8.decodeLossy output))
  | .failed status errorText =>
      .error (.general ("error getting patch " ++ Failure.shownCommit request.base ++ ".." ++
        Failure.shownCommit request.head ++ ": " ++ failureText status errorText))
  | .interrupted => .error .cancelled

def impact (request : DiffRequest) (reply : DiffReply) (room : Nat) (catalog : Catalog)
    (policy : PathPolicy) : Except Failure Impact :=
  match request.text reply with
  | .error failure => .error failure
  | .ok text => Impact.ofText room catalog policy text

end DiffRequest

end ChangeImpact
