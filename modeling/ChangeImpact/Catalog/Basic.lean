import ChangeImpact.Catalog.SourceFunction
import ChangeImpact.Catalog.PathMatch
/-!
# The catalog of functions

The functions that the analyzer reported, in the order in which they came, and the question which of
them share a line with a span of a file.
-/
set_option autoImplicit false

namespace ChangeImpact

/-- Whether two spans of lines, ends included, share a line, for spans that have one. -/
def sharesLine (startA endA startB endB : Int) : Bool :=
  startA ≤ endB && startB ≤ endA

structure Catalog where
  functions : List SourceFunction
  batches : Nat
  deriving DecidableEq

namespace Catalog

def empty : Catalog := ⟨[], 0⟩

/-- A catalog that starts with one batch, unless that batch is empty. -/
def ofFunctions (functions : List SourceFunction) : Catalog :=
  ⟨functions, if functions.isEmpty then 0 else 1⟩

/-- Appends a batch; an empty one counts as well. -/
def extend (catalog : Catalog) (batch : List SourceFunction) : Catalog :=
  ⟨catalog.functions ++ batch, catalog.batches + 1⟩

def labels (catalog : Catalog) : List Text :=
  catalog.functions.map SourceFunction.label

def touching (catalog : Catalog) (policy : PathPolicy) (path : Text) (start finish : Int) :
    List SourceFunction :=
  catalog.functions.filter fun function =>
    PathMatch.namesFile policy function.file.text path &&
      sharesLine start finish function.startLine function.endLine

@[simp] theorem functions_extend (catalog : Catalog) (batch : List SourceFunction) :
    (catalog.extend batch).functions = catalog.functions ++ batch := rfl

theorem touching_append (left right : List SourceFunction) (batches : Nat) (policy : PathPolicy)
    (path : Text) (start finish : Int) :
    touching ⟨left ++ right, batches⟩ policy path start finish =
      touching ⟨left, batches⟩ policy path start finish ++
        touching ⟨right, batches⟩ policy path start finish := by
  simp [touching]

end Catalog

end ChangeImpact
