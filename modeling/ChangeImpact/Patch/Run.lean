import ChangeImpact.Patch.Basic
import ChangeImpact.Text.Lines
/-!
# Runs of lines and where they lie

The hunks of a file fall into runs of lines of one kind. Where a hunk begins beyond the lines
accounted for, a run of blank context fills the gap, so that counting the lines of the runs gives
line numbers of the file after the change. Deleted lines have no such number: a run of them lies at
the line that follows it and moves nothing.
-/
set_option autoImplicit false

namespace ChangeImpact.Patch

inductive Kind where
  | context
  | addition
  | deletion
  deriving DecidableEq

namespace Kind

def name : Kind → String
  | context => "context"
  | addition => "addition"
  | deletion => "deletion"

def all : List (String × Kind) :=
  [("context", .context), ("addition", .addition), ("deletion", .deletion)]

end Kind

structure Run where
  path : Text
  kind : Kind
  content : Text
  deriving DecidableEq

namespace Run

def lines (run : Run) : List Text :=
  Lines.split (.char '\n') run.content

def lineCount (run : Run) : Nat :=
  run.lines.length

/-- How many lines of the changed file a run takes. -/
def advance (run : Run) : Nat :=
  if run.kind = .deletion then 0 else run.lineCount

end Run

/-! ## The runs of a file -/

def Line.kind? (line : Line) : Option Kind :=
  match line.mark with
  | .context => some .context
  | .added => some .addition
  | .removed => some .deletion
  | .noLineEnd => none

/-- The text of a line, with a line end put on if there is none. -/
def Line.text (line : Line) : Text :=
  if line.value.getLast? = some (.char '\n') then line.value else line.value ++ "\n"

def Hunk.typedLines (hunk : Hunk) : List (Kind × Line) :=
  hunk.lines.filterMap fun line => line.kind?.map fun kind => (kind, line)

def consGroup (typed : Kind × Line) (groups : List (Kind × List Line)) : List (Kind × List Line) :=
  match groups with
  | (kind, lines) :: rest =>
      if typed.1 = kind then (kind, typed.2 :: lines) :: rest
      else (typed.1, [typed.2]) :: (kind, lines) :: rest
  | [] => [(typed.1, [typed.2])]

def groupByKind (typed : List (Kind × Line)) : List (Kind × List Line) :=
  typed.foldr consGroup []

@[simp] theorem groupByKind_cons (typed : Kind × Line) (rest : List (Kind × Line)) :
    groupByKind (typed :: rest) = consGroup typed (groupByKind rest) := rfl

def ungroup (groups : List (Kind × List Line)) : List (Kind × Line) :=
  groups.flatMap fun group => group.2.map fun line => (group.1, line)

theorem ungroup_consGroup (typed : Kind × Line) (groups : List (Kind × List Line)) :
    ungroup (consGroup typed groups) = typed :: ungroup groups := by
  cases groups with
  | nil => simp [consGroup, ungroup]
  | cons group rest =>
      obtain ⟨kind, lines⟩ := group
      by_cases same : typed.1 = kind
      · simp [consGroup, ungroup, ← same]
      · simp [consGroup, ungroup, same]

theorem ungroup_groupByKind (typed : List (Kind × Line)) : ungroup (groupByKind typed) = typed := by
  induction typed with
  | nil => rfl
  | cons first rest ih => rw [groupByKind_cons, ungroup_consGroup, ih]

theorem ne_nil_of_mem_consGroup {typed : Kind × Line} {groups : List (Kind × List Line)}
    (nonEmpty : ∀ group ∈ groups, group.2 ≠ []) :
    ∀ group ∈ consGroup typed groups, group.2 ≠ [] := by
  cases groups with
  | nil => simp [consGroup]
  | cons first rest =>
      have tail : ∀ group ∈ rest, group.2 ≠ [] := fun group mem =>
        nonEmpty group (List.mem_cons_of_mem _ mem)
      obtain ⟨kind, lines⟩ := first
      intro group mem
      by_cases same : typed.1 = kind
      · rw [consGroup, if_pos same] at mem
        rcases List.mem_cons.mp mem with rfl | mem
        · simp
        · exact tail group mem
      · rw [consGroup, if_neg same] at mem
        rcases List.mem_cons.mp mem with rfl | mem
        · simp
        · exact nonEmpty group mem

theorem ne_nil_of_mem_groupByKind (typed : List (Kind × Line)) :
    ∀ group ∈ groupByKind typed, group.2 ≠ [] := by
  induction typed with
  | nil => simp [groupByKind]
  | cons first rest ih => exact ne_nil_of_mem_consGroup ih

def groupRun (path : Text) (group : Kind × List Line) : Run :=
  ⟨path, group.1, group.2.flatMap Line.text⟩

def Hunk.runs (path : Text) (hunk : Hunk) : List Run :=
  (groupByKind hunk.typedLines).map (groupRun path)

/-- The first line of the changed file that a hunk speaks of. A hunk without such lines names the
line before it. -/
def Hunk.firstLine (hunk : Hunk) : Nat :=
  if hunk.targetLength = 0 then hunk.targetStart + 1 else hunk.targetStart

def gapRuns (path : Text) (gap : Nat) : List Run :=
  if gap = 0 then [] else [⟨path, .context, List.replicate gap (.char '\n')⟩]

def totalAdvance (runs : List Run) : Nat :=
  runs.foldr (fun run total => run.advance + total) 0

@[simp] theorem totalAdvance_cons (run : Run) (rest : List Run) :
    totalAdvance (run :: rest) = run.advance + totalAdvance rest := rfl

theorem totalAdvance_append (first second : List Run) :
    totalAdvance (first ++ second) = totalAdvance first + totalAdvance second := by
  induction first with
  | nil => exact (Nat.zero_add _).symm
  | cons run rest ih =>
      rw [List.cons_append, totalAdvance_cons, totalAdvance_cons, ih, Nat.add_assoc]

/-- The runs of hunks when `cursor` is the next line of the changed file. -/
def runsFrom (path : Text) (cursor : Nat) : List Hunk → List Run
  | [] => []
  | hunk :: rest =>
      let gap := hunk.firstLine - cursor
      let runs := hunk.runs path
      gapRuns path gap ++ runs ++ runsFrom path (cursor + gap + totalAdvance runs) rest

def runs (path : Text) (hunks : List Hunk) : List Run :=
  runsFrom path 1 hunks

/-! ## Gaps that are too long -/

inductive GapError where
  | beyondIndex
  | beyondMemory
  deriving DecidableEq

namespace GapError

def message : GapError → String
  | beyondIndex => "cannot fit 'int' into an index-sized integer"
  | beyondMemory => ""

def largestIndex : Nat := 0x7fffffffffffffff

/-- The most blank lines that can be held where there is room for so many. -/
def mostLines (room : Nat) : Nat := min room largestIndex

def ofGap? (room gap : Nat) : Option GapError :=
  if gap ≤ mostLines room then none
  else if gap ≤ largestIndex then some beyondMemory
  else some beyondIndex

end GapError

def gapsFrom (cursor : Nat) : List Hunk → List Nat
  | [] => []
  | hunk :: rest =>
      let gap := hunk.firstLine - cursor
      gap :: gapsFrom (cursor + gap + totalAdvance (hunk.runs [])) rest

def gapError? (room : Nat) (hunks : List Hunk) : Option GapError :=
  (gapsFrom 1 hunks).findSome? (GapError.ofGap? room)

/-! ## Spans -/

/-- A run with its first and last line. The last line of an empty run is the one before its first.
-/
structure Span where
  run : Run
  start : Nat
  finish : Nat
  deriving DecidableEq

def spansFrom (cursor : Nat) : List Run → List Span
  | [] => []
  | run :: rest =>
      ⟨run, cursor, cursor + run.lineCount - 1⟩ :: spansFrom (cursor + run.advance) rest

theorem spansFrom_append (cursor : Nat) (first second : List Run) :
    spansFrom cursor (first ++ second) =
      spansFrom cursor first ++ spansFrom (cursor + totalAdvance first) second := by
  induction first generalizing cursor with
  | nil => rfl
  | cons run rest ih =>
      rw [List.cons_append, spansFrom, spansFrom, ih, totalAdvance_cons, Nat.add_assoc,
        List.cons_append]

def spans (runs : List Run) : List Span :=
  spansFrom 1 runs

end ChangeImpact.Patch
