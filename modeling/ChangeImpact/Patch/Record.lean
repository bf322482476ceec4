import ChangeImpact.Patch.Run
import ChangeImpact.Validation.Field
/-!
# Runs and spans as records

A run is written as an object with a path, a kind and its content, and a span as one with a run and
two line numbers, which need not be in order.
-/
set_option autoImplicit false

namespace ChangeImpact.Patch

open Json (Value Members)
open Validation

namespace Run

def ofMembers (members : Members) : Checked Run :=
  match
    (required ["file_path"] (plain text) members).both
      ((required ["kind"] (plain (choice .notAmong Kind.all)) members).both
        (optional ["content"] [] (plain text) members)) with
  | .ok (path, kind, content) => .ok ⟨path, kind, content⟩
  | .error problems => .error problems

def ofValue : Value → Checked Run :=
  objectOf "DiffHunk" ofMembers

end Run

structure SpanRecord where
  run : Run
  start : Int
  finish : Int
  deriving DecidableEq

namespace SpanRecord

def ofMembers (members : Members) : Checked SpanRecord :=
  match
    (required ["hunk"] Run.ofValue members).both
      ((required ["start"] (plain integer) members).both
        (required ["end"] (plain integer) members)) with
  | .ok (run, start, finish) => .ok ⟨run, start, finish⟩
  | .error problems => .error problems

def ofValue : Value → Checked SpanRecord :=
  objectOf "HunkSpan" ofMembers

end SpanRecord

end ChangeImpact.Patch
