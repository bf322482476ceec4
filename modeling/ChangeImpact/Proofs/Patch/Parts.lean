import Mathlib.Algebra.Ring.Nat
import ChangeImpact.Patch.File
import ChangeImpact.Proofs.Patch.WholeLines
/-!
# The parts of a file

Each hunk has a part in the runs of its file: blank context for the gap before it, and the runs of
its lines. The runs of a hunk begin where its header says, or after the lines accounted for if these
reach further. Nothing is asked of the headers, which may be wrong or out of order.
-/
set_option autoImplicit false

namespace ChangeImpact.Patch

/-- A hunk with the number of lines that are missing before it. -/
structure Part where
  gap : Nat
  hunk : Hunk
  deriving DecidableEq

namespace Part

def runs (path : Text) (part : Part) : List Run :=
  gapRuns path part.gap ++ part.hunk.runs path

def lineTotal (part : Part) : Nat :=
  part.gap + targetCount part.hunk.shown

end Part

/-- The parts of hunks when `cursor` is the next line of the changed file. -/
def partsFrom (cursor : Nat) (hunks : List Hunk) : List Part :=
  List.zipWith Part.mk (gapsFrom cursor hunks) hunks

def parts (hunks : List Hunk) : List Part :=
  partsFrom 1 hunks

def lineAfter (parts : List Part) : Nat :=
  1 + (parts.map Part.lineTotal).sum

/-! ## Hunks and their parts -/

theorem length_gapsFrom (cursor : Nat) (hunks : List Hunk) :
    (gapsFrom cursor hunks).length = hunks.length := by
  induction hunks generalizing cursor with
  | nil => rfl
  | cons hunk rest ih => rw [gapsFrom, List.length_cons, ih, List.length_cons]

theorem map_hunk_partsFrom (cursor : Nat) (hunks : List Hunk) :
    (partsFrom cursor hunks).map Part.hunk = hunks := by
  rw [partsFrom, ← List.map_uncurry_zip_eq_zipWith, List.map_map]
  exact List.map_snd_zip (Nat.le_of_eq (length_gapsFrom cursor hunks).symm)

theorem map_gap_partsFrom (cursor : Nat) (hunks : List Hunk) :
    (partsFrom cursor hunks).map Part.gap = gapsFrom cursor hunks := by
  rw [partsFrom, ← List.map_uncurry_zip_eq_zipWith, List.map_map]
  exact List.map_fst_zip (Nat.le_of_eq (length_gapsFrom cursor hunks))

/-- A file has runs if its path can be read and no gap is too long to fill. -/
theorem pathAndRuns_eq_ok_iff (room : Nat) (file : PatchedFile) (path : Text) (runs : List Run) :
    file.pathAndRuns room = .ok (path, runs) ↔
      file.path = .ok path ∧ (∀ part ∈ parts file.hunks, part.gap ≤ GapError.mostLines room) ∧
        runs = Patch.runs path file.hunks := by
  have fits : gapError? room file.hunks = none ↔
      ∀ part ∈ parts file.hunks, part.gap ≤ GapError.mostLines room := by
    rw [gapError?, List.findSome?_eq_none_iff, ← map_gap_partsFrom, List.forall_mem_map]
    simp only [gapError_eq_none_iff]
    rfl
  rw [← fits, PatchedFile.pathAndRuns]
  cases file.path with
  | error error => simp
  | ok path =>
      cases gapError? room file.hunks with
      | some error => simp
      | none =>
          constructor
          · intro same
            cases same
            exact ⟨rfl, rfl, rfl⟩
          · rintro ⟨same, -, rfl⟩
            cases same
            rfl

theorem exists_pathAndRuns_iff (room : Nat) (file : PatchedFile) :
    (∃ path runs, file.pathAndRuns room = .ok (path, runs)) ↔
      (∃ path, file.path = .ok path) ∧ ∀ part ∈ parts file.hunks,
        part.gap ≤ GapError.mostLines room := by
  simp only [pathAndRuns_eq_ok_iff]
  constructor
  · rintro ⟨path, runs, isPath, fits, -⟩
    exact ⟨⟨path, isPath⟩, fits⟩
  · rintro ⟨⟨path, isPath⟩, fits⟩
    exact ⟨path, Patch.runs path file.hunks, isPath, fits, rfl⟩

theorem partsFrom_cons {hunk : Hunk} (whole : ∀ line ∈ hunk.shown, line.Whole) (cursor : Nat)
    (rest : List Hunk) :
    partsFrom cursor (hunk :: rest) =
      ⟨hunk.firstLine - cursor, hunk⟩ ::
        partsFrom (cursor + Part.lineTotal ⟨hunk.firstLine - cursor, hunk⟩) rest := by
  rw [partsFrom, gapsFrom, Hunk.totalAdvance_runs whole, Nat.add_assoc]
  rfl

section Whole

variable {hunks : List Hunk} (whole : ∀ hunk ∈ hunks, ∀ line ∈ hunk.shown, line.Whole)

include whole

theorem runsFrom_eq_flatMap (path : Text) (cursor : Nat) :
    runsFrom path cursor hunks = (partsFrom cursor hunks).flatMap (Part.runs path) := by
  induction hunks generalizing cursor with
  | nil => rfl
  | cons hunk rest ih =>
      obtain ⟨wholeHunk, wholeRest⟩ := List.forall_mem_cons.mp whole
      rw [runsFrom, partsFrom_cons wholeHunk, List.flatMap_cons, ih wholeRest,
        Hunk.totalAdvance_runs wholeHunk, Nat.add_assoc]
      rfl

/-- A gap reaches from the lines accounted for to where the hunk begins. -/
theorem gap_eq_of_partsFrom {cursor : Nat} {before after : List Part} {part : Part}
    (split : partsFrom cursor hunks = before ++ part :: after) :
    part.gap = part.hunk.firstLine - (cursor + (before.map Part.lineTotal).sum) := by
  induction hunks generalizing cursor before with
  | nil => cases before <;> cases split
  | cons hunk rest ih =>
      obtain ⟨wholeHunk, wholeRest⟩ := List.forall_mem_cons.mp whole
      rw [partsFrom_cons wholeHunk] at split
      cases before with
      | nil =>
          cases split
          rfl
      | cons first others =>
          rw [List.cons_append, List.cons.injEq] at split
          obtain ⟨rfl, splitRest⟩ := split
          rw [ih wholeRest splitRest, List.map_cons, List.sum_cons, Nat.add_assoc]

theorem whole_of_mem_parts {cursor : Nat} {part : Part} (member : part ∈ partsFrom cursor hunks) :
    ∀ line ∈ part.hunk.shown, line.Whole := by
  apply whole
  rw [← map_hunk_partsFrom cursor hunks]
  exact List.mem_map_of_mem member

end Whole

theorem totalAdvance_flatMap_runs (path : Text) {parts : List Part}
    (whole : ∀ part ∈ parts, ∀ line ∈ part.hunk.shown, line.Whole) :
    totalAdvance (parts.flatMap (Part.runs path)) = (parts.map Part.lineTotal).sum := by
  induction parts with
  | nil => rfl
  | cons part rest ih =>
      obtain ⟨wholePart, wholeRest⟩ := List.forall_mem_cons.mp whole
      rw [List.flatMap_cons, totalAdvance_append, ih wholeRest, Part.runs, totalAdvance_append,
        totalAdvance_gapRuns, Hunk.totalAdvance_runs wholePart, List.map_cons, List.sum_cons,
        Part.lineTotal]

/-! ## Where the runs of a hunk lie -/

theorem pairwise_start_spansFrom (cursor : Nat) (runs : List Run) :
    (spansFrom cursor runs).Pairwise fun earlier later => earlier.start ≤ later.start := by
  induction runs generalizing cursor with
  | nil => exact .nil
  | cons run rest ih =>
      rw [spansFrom]
      apply List.Pairwise.cons
      · intro later member
        obtain ⟨before, other, after, -, rfl⟩ := (mem_spansFrom_iff ..).mp member
        change cursor ≤ cursor + run.advance + totalAdvance before
        omega
      · exact ih (cursor + run.advance)

section Whole

variable {hunks : List Hunk} (whole : ∀ hunk ∈ hunks, ∀ line ∈ hunk.shown, line.Whole)
  {before after : List Part} {part : Part} (split : parts hunks = before ++ part :: after)

include whole split

theorem getElem?_spans_of_parts {path : Text} {own others : List Run} {run : Run}
    (isRun : part.hunk.runs path = own ++ run :: others) :
    ∃ span,
      (spans (runs path hunks))[(before.flatMap (Part.runs path) ++ gapRuns path part.gap ++
        own).length]? = some span ∧
      span.run = run ∧
      span.start = max part.hunk.firstLine (lineAfter before) + totalAdvance own := by
  have wholeBefore : ∀ other ∈ before, ∀ line ∈ other.hunk.shown, line.Whole := by
    intro other member
    have isPart : other ∈ parts hunks := by
      rw [split]
      exact List.mem_append_left _ member
    exact whole_of_mem_parts whole isPart
  have sameRuns : runs path hunks =
      (before.flatMap (Part.runs path) ++ gapRuns path part.gap ++ own) ++
        run :: (others ++ after.flatMap (Part.runs path)) := by
    rw [runs, runsFrom_eq_flatMap whole, ← parts, split, List.flatMap_append, List.flatMap_cons,
      Part.runs, isRun]
    simp only [List.append_assoc, List.cons_append]
  have begins : 1 + totalAdvance (before.flatMap (Part.runs path) ++ gapRuns path part.gap ++ own) =
      max part.hunk.firstLine (lineAfter before) + totalAdvance own := by
    rw [totalAdvance_append, totalAdvance_append, totalAdvance_flatMap_runs path wholeBefore,
      totalAdvance_gapRuns, gap_eq_of_partsFrom whole split, lineAfter]
    omega
  have found := getElem?_spansFrom 1
    (before.flatMap (Part.runs path) ++ gapRuns path part.gap ++ own) run
    (others ++ after.flatMap (Part.runs path))
  rw [← sameRuns, begins] at found
  exact ⟨_, found, rfl, rfl⟩

end Whole

theorem runs_ne_nil {hunk : Hunk} (typed : hunk.typedLines ≠ []) (path : Text) :
    hunk.runs path ≠ [] := by
  rw [Hunk.runs, ne_eq, List.map_eq_nil_iff]
  exact groupByKind_ne_nil typed

/-- Reading a patch gives files with whole lines. Such a file has runs if its path can be read and
no gap is too long to fill. The spans of these runs come in order. Those of a hunk begin where its
header says, unless the lines accounted for before it reach further: those that the hunks before it
show, and their gaps. -/
theorem spans_start_at_headers :
    (∀ text files, parse text = .ok files → ∀ file ∈ files, file.Whole) ∧
    ∀ (room : Nat) (file : PatchedFile), file.Whole →
      ((∃ path runs, file.pathAndRuns room = .ok (path, runs)) ↔
        (∃ path, file.path = .ok path) ∧ ∀ part ∈ parts file.hunks,
          part.gap ≤ GapError.mostLines room) ∧
      (parts file.hunks).map Part.hunk = file.hunks ∧
      ∀ path runs, file.pathAndRuns room = .ok (path, runs) →
        runs = (parts file.hunks).flatMap (Part.runs path) ∧
        ((spans runs).Pairwise fun earlier later => earlier.start ≤ later.start) ∧
        ∀ before part after, parts file.hunks = before ++ part :: after →
          (part.hunk.typedLines ≠ [] → part.hunk.runs path ≠ []) ∧
          ∀ own run others, part.hunk.runs path = own ++ run :: others →
            ∃ span,
              (spans runs)[(before.flatMap (Part.runs path) ++ gapRuns path part.gap ++
                own).length]? = some span ∧
              span.run = run ∧
              span.start = max part.hunk.firstLine (lineAfter before) + totalAdvance own ∧
              (span.start ≠ part.hunk.firstLine + totalAdvance own ↔
                part.hunk.firstLine < lineAfter before) := by
  refine ⟨fun _ _ => whole_of_parse, ?_⟩
  intro room file whole
  refine ⟨exists_pathAndRuns_iff room file, map_hunk_partsFrom 1 file.hunks, ?_⟩
  intro path runs isRuns
  obtain ⟨-, -, rfl⟩ := (pathAndRuns_eq_ok_iff ..).mp isRuns
  refine ⟨runsFrom_eq_flatMap whole.shown path 1, pairwise_start_spansFrom 1 _, ?_⟩
  intro before part after split
  refine ⟨fun typed => runs_ne_nil typed path, ?_⟩
  intro own run others isRun
  obtain ⟨span, isSpan, sameRun, begins⟩ := getElem?_spans_of_parts whole.shown split isRun
  refine ⟨span, isSpan, sameRun, begins, ?_⟩
  rw [begins]
  omega

/-- A file whose hunks are out of order: a line replaced by one without its end, a line lost further
up, a remark alone, and a blank line before one that holds a return only. -/
def tangledFile : PatchedFile where
  source := "a/m"
  target := "b/m"
  binary := false
  hunks :=
    [⟨5, 1, 4, 1, [⟨.removed, "x\n"⟩, ⟨.added, "y"⟩]⟩,
      ⟨2, 1, 2, 0, [⟨.removed, "z\n"⟩]⟩,
      ⟨8, 0, 9, 0, [⟨.noLineEnd, " No newline at end of file\n"⟩]⟩,
      ⟨10, 1, 12, 2, [⟨.context, "\n"⟩, ⟨.added, "\r\n"⟩]⟩]

/-- A line replaced by one without its end. -/
def replacedLine : Text := "--- a/m\n+++ b/m\n@@ -1 +1 @@\n-x\n+y"

theorem spans_start_at_headers_tangledFile :
    (∃ files, parse replacedLine = .ok files ∧ ∀ file ∈ files, file.Whole) ∧
      tangledFile.Whole ∧
      ∃ runs, tangledFile.pathAndRuns 100 = .ok ("m", runs) ∧
        (∃ span, (spans runs)[3]? = some span ∧ span.run.kind = .deletion ∧ span.start = 5) ∧
        ∃ span, (spans runs)[6]? = some span ∧ span.run.kind = .context ∧ span.start = 12 := by
  obtain ⟨ofParsed, ofWhole⟩ := spans_start_at_headers
  have isParsed : parse replacedLine =
      .ok [⟨"a/m", "b/m", false, [⟨1, 1, 1, 1, [⟨.removed, "x\n"⟩, ⟨.added, "y"⟩]⟩]⟩] := rfl
  have whole : tangledFile.Whole := by decide
  have isRuns : tangledFile.pathAndRuns 100 = .ok ("m", runs "m" tangledFile.hunks) := rfl
  obtain ⟨-, -, located⟩ := ofWhole 100 tangledFile whole
  obtain ⟨-, -, ofHunk⟩ := located _ _ isRuns
  refine ⟨⟨_, isParsed, ofParsed _ _ isParsed⟩, whole, _, isRuns, ?_, ?_⟩
  · obtain ⟨-, ofRun⟩ := ofHunk ((parts tangledFile.hunks).take 1) _ _ rfl
    obtain ⟨span, isSpan, sameRun, begins, -⟩ := ofRun [] _ _ rfl
    exact ⟨span, isSpan, congrArg Run.kind sameRun, begins⟩
  · obtain ⟨-, ofRun⟩ := ofHunk ((parts tangledFile.hunks).take 3) _ _ rfl
    obtain ⟨span, isSpan, sameRun, begins, -⟩ := ofRun [] _ _ rfl
    exact ⟨span, isSpan, congrArg Run.kind sameRun, begins⟩

end ChangeImpact.Patch
