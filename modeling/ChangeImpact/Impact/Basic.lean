import ChangeImpact.Catalog.Basic
import ChangeImpact.Impact.LabelSet
import ChangeImpact.Patch.File
/-!
# The impact of a patch

The labels of the functions that a patch touches, by added and by deleted lines. A run of added
lines touches the functions that share a line with it; a run of deleted lines those that share one
with as many lines from where it lay. The impact of a patch is the union over its runs.
-/
set_option autoImplicit false

namespace ChangeImpact

open Patch (Run Span PatchedFile FileError)

structure Impact where
  added : LabelSet
  removed : LabelSet

namespace Impact

def empty : Impact := ⟨.empty, .empty⟩

def isEmpty (impact : Impact) : Bool :=
  impact.added.isEmpty && impact.removed.isEmpty

def union (left right : Impact) : Impact :=
  ⟨left.added.union right.added, left.removed.union right.removed⟩

def touched (catalog : Catalog) (policy : PathPolicy) (span : Span) : List Text :=
  (catalog.touching policy span.run.path span.start span.finish).map SourceFunction.label

def ofSpan (catalog : Catalog) (policy : PathPolicy) (span : Span) : Impact :=
  match span.run.kind with
  | .context => empty
  | .addition => ⟨.ofList (touched catalog policy span), .empty⟩
  | .deletion => ⟨.empty, .ofList (touched catalog policy span)⟩

def ofRuns (catalog : Catalog) (policy : PathPolicy) (runs : List Run) : Impact :=
  (Patch.spans runs).foldl (fun impact span => impact.union (ofSpan catalog policy span)) empty

/-- The impact of one file; a binary file has none, and its path is not looked at. -/
def ofFile (room : Nat) (catalog : Catalog) (policy : PathPolicy) (file : PatchedFile) :
    Except FileError Impact :=
  if file.binary then .ok empty
  else
    match file.pathAndRuns room with
    | .error error => .error error
    | .ok (_, runs) => .ok (ofRuns catalog policy runs)

def ofFiles (room : Nat) (catalog : Catalog) (policy : PathPolicy) :
    List PatchedFile → Except FileError Impact
  | [] => .ok empty
  | file :: rest =>
      match ofFile room catalog policy file with
      | .error error => .error error
      | .ok impact =>
          match ofFiles room catalog policy rest with
          | .error error => .error error
          | .ok others => .ok (impact.union others)

end Impact

end ChangeImpact
