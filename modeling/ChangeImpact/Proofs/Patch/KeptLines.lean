import ChangeImpact.Proofs.Patch.Parts
/-!
# The lines that runs keep

The lines of a hunk are put into groups, each group becomes one text, and the text is split into
lines again. Every line that has a kind comes back, once and in order.
-/
set_option autoImplicit false

namespace ChangeImpact.Patch

/-- The lines of a run, each with the kind of the run. -/
def Run.typedLines (run : Run) : List (Kind × Text) :=
  run.lines.map (run.kind, ·)

/-- A line without its end, with its kind; none for a remark. -/
def Line.typedBare? (line : Line) : Option (Kind × Text) :=
  line.kind?.map (·, line.bare)

theorem flatMap_typedLines_groupRun (path : Text) {groups : List (Kind × List Line)}
    (whole : ∀ group ∈ groups, ∀ line ∈ group.2, line.Whole) :
    (groups.map (groupRun path)).flatMap Run.typedLines =
      (ungroup groups).map fun typed => (typed.1, typed.2.bare) := by
  induction groups with
  | nil => rfl
  | cons group rest ih =>
      obtain ⟨kind, lines⟩ := group
      obtain ⟨wholeGroup, wholeRest⟩ := List.forall_mem_cons.mp whole
      have first :
          (groupRun path (kind, lines)).typedLines = lines.map fun line => (kind, line.bare) := by
        rw [Run.typedLines, lines_groupRun path kind wholeGroup, List.map_map]
        rfl
      rw [List.map_cons, List.flatMap_cons, ih wholeRest, first, ungroup_cons, List.map_append,
        List.map_map]
      rfl

namespace Hunk

theorem flatMap_typedLines_runs {hunk : Hunk} (whole : ∀ line ∈ hunk.shown, line.Whole)
    (path : Text) :
    (hunk.runs path).flatMap Run.typedLines = hunk.lines.filterMap Line.typedBare? := by
  rw [runs, flatMap_typedLines_groupRun path (whole_groups whole fun _ member => member),
    ungroup_groupByKind, typedLines, List.map_filterMap]
  congr 1
  funext line
  simp [Line.typedBare?, Function.comp_def]

theorem lines_ne_nil_of_mem_runs {hunk : Hunk} (whole : ∀ line ∈ hunk.shown, line.Whole)
    {path : Text} {run : Run} (member : run ∈ hunk.runs path) : run.lines ≠ [] := by
  obtain ⟨⟨kind, lines⟩, isGroup, rfl⟩ := List.mem_map.mp member
  have wholeLines : ∀ line ∈ lines, line.Whole :=
    whole_groups whole (fun _ isMember => isMember) (kind, lines) isGroup
  rw [lines_groupRun path kind wholeLines, ne_eq, List.map_eq_nil_iff]
  exact ne_nil_of_mem_groupByKind hunk.typedLines (kind, lines) isGroup

theorem isChain_kind_runs (hunk : Hunk) (path : Text) :
    (hunk.runs path).IsChain fun first second => first.kind ≠ second.kind := by
  rw [runs, List.isChain_map]
  exact isChain_groupByKind hunk.typedLines

end Hunk

theorem flatMap_typedLines_parts {hunks : List Hunk}
    (whole : ∀ hunk ∈ hunks, ∀ line ∈ hunk.shown, line.Whole) (path : Text) :
    ((parts hunks).flatMap fun part => part.hunk.runs path).flatMap Run.typedLines =
      (hunks.flatMap Hunk.lines).filterMap Line.typedBare? := by
  have byPart : ∀ part ∈ parts hunks,
      (part.hunk.runs path).flatMap Run.typedLines = part.hunk.lines.filterMap Line.typedBare? := by
    intro part isPart
    exact Hunk.flatMap_typedLines_runs (whole_of_mem_parts whole isPart) path
  calc ((parts hunks).flatMap fun part => part.hunk.runs path).flatMap Run.typedLines
      = (parts hunks).flatMap fun part => (part.hunk.runs path).flatMap Run.typedLines :=
        List.flatMap_assoc
    _ = (parts hunks).flatMap fun part => part.hunk.lines.filterMap Line.typedBare? :=
        List.flatMap_congr byPart
    _ = ((parts hunks).map Part.hunk).flatMap fun hunk => hunk.lines.filterMap Line.typedBare? := by
        rw [List.flatMap_map]
    _ = (hunks.flatMap Hunk.lines).filterMap Line.typedBare? := by
        rw [parts, map_hunk_partsFrom, List.filterMap_flatMap]

theorem gapRuns_eq (path : Text) (firstLine next : Nat) :
    (gapRuns path (firstLine - next)).map (fun run => (run.kind, run.lines)) =
      if next < firstLine then [(.context, List.replicate (firstLine - next) [])] else [] := by
  unfold gapRuns
  split
  · rw [if_neg (by omega)]
    rfl
  · rw [if_pos (by omega), List.map_singleton, lines_blank]

theorem Part.lines_ne_nil_of_mem_runs {part : Part} (whole : ∀ line ∈ part.hunk.shown, line.Whole)
    {path : Text} {run : Run} (member : run ∈ part.runs path) : run.lines ≠ [] := by
  rcases List.mem_append.mp member with inGap | inHunk
  · obtain ⟨positive, rfl⟩ := mem_gapRuns_iff.mp inGap
    rw [lines_blank]
    simpa using positive
  · exact Hunk.lines_ne_nil_of_mem_runs whole inHunk

/-- A file has runs if its path can be read and no gap is too long to fill. Without those that fill
gaps, the runs hold the lines of the file that have a kind, once and in order. No run is empty,
those of a hunk change their kind from one to the next, and a gap is filled with as many blank lines
as are missing. -/
theorem runs_keep_lines (room : Nat) (file : PatchedFile) (whole : file.Whole) :
    ((∃ path runs, file.pathAndRuns room = .ok (path, runs)) ↔
      (∃ path, file.path = .ok path) ∧ ∀ part ∈ parts file.hunks,
        part.gap ≤ GapError.mostLines room) ∧
    (parts file.hunks).map Part.hunk = file.hunks ∧
    ∀ path runs, file.pathAndRuns room = .ok (path, runs) →
      file.path = .ok path ∧
      runs = (parts file.hunks).flatMap (Part.runs path) ∧
      ((parts file.hunks).flatMap fun part => part.hunk.runs path).flatMap Run.typedLines =
        (file.hunks.flatMap Hunk.lines).filterMap Line.typedBare? ∧
      (∀ run ∈ runs, run.path = path ∧ run.lines ≠ []) ∧
      (∀ part ∈ parts file.hunks,
        (part.hunk.runs path).IsChain fun first second => first.kind ≠ second.kind) ∧
      ∀ before part after, parts file.hunks = before ++ part :: after →
        (gapRuns path part.gap).map (fun run => (run.kind, run.lines)) =
          if lineAfter before < part.hunk.firstLine then
            [(.context, List.replicate (part.hunk.firstLine - lineAfter before) [])]
          else [] := by
  refine ⟨exists_pathAndRuns_iff room file, map_hunk_partsFrom 1 file.hunks, ?_⟩
  intro path runs isRuns
  obtain ⟨isPath, -, rfl⟩ := (pathAndRuns_eq_ok_iff ..).mp isRuns
  have inParts : Patch.runs path file.hunks = (parts file.hunks).flatMap (Part.runs path) :=
    runsFrom_eq_flatMap whole.shown path 1
  refine ⟨isPath, inParts, ?_, ?_, fun part _ => part.hunk.isChain_kind_runs path, ?_⟩
  · exact flatMap_typedLines_parts whole.shown path
  · intro run member
    refine ⟨path_of_mem_runsFrom member, ?_⟩
    rw [inParts] at member
    obtain ⟨part, isPart, inPart⟩ := List.mem_flatMap.mp member
    exact Part.lines_ne_nil_of_mem_runs (whole_of_mem_parts whole.shown isPart) inPart
  · intro before part after split
    rw [gap_eq_of_partsFrom whole.shown split]
    exact gapRuns_eq path part.hunk.firstLine (lineAfter before)

theorem runs_keep_lines_tangledFile :
    tangledFile.Whole ∧
      ∃ runs, tangledFile.pathAndRuns 100 = .ok ("m", runs) ∧
        (∀ run ∈ runs, run.path = "m" ∧ run.lines ≠ []) ∧
        ((parts tangledFile.hunks).flatMap fun part => part.hunk.runs "m").flatMap Run.typedLines =
          ([(.deletion, "x"), (.addition, "y"), (.deletion, "z"), (.context, ""),
            (.addition, "\r")] : List (Kind × Text)) := by
  have whole : tangledFile.Whole := by decide
  have isRuns : tangledFile.pathAndRuns 100 = .ok ("m", runs "m" tangledFile.hunks) := rfl
  obtain ⟨-, -, kept⟩ := runs_keep_lines 100 tangledFile whole
  obtain ⟨-, -, sameLines, nonEmpty, -⟩ := kept _ _ isRuns
  exact ⟨whole, _, isRuns, nonEmpty, sameLines⟩

end ChangeImpact.Patch
