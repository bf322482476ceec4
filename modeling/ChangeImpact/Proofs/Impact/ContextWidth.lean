import Mathlib.Data.List.Sort
import ChangeImpact.Proofs.Impact.TouchedLines
import ChangeImpact.Proofs.Patch.Cutting
/-!
# The impact of a script does not depend on how it is cut

The hunks of a file may show more or fewer of the kept lines around the changed ones. The impact is
the same for all of them, so any width of context gives the same labels.
-/
set_option autoImplicit false

namespace ChangeImpact

open Patch (Hunk PatchedFile EditScript Cut AddsAt RemovesAt targetCount hunksOfWidth)

theorem LabelSet.ext_of_mem {left right : LabelSet} (same : ∀ label, label ∈ left ↔ label ∈ right) :
    left = right := by
  obtain ⟨labels, increasing⟩ := left
  obtain ⟨others, increasingOthers⟩ := right
  congr
  exact increasing.eq_of_mem_iff increasingOthers same

namespace Impact

variable {room : Nat} {catalog : Catalog} {policy : PathPolicy} {path : Text}
  {script : EditScript}
  {hunks first second : List Hunk}

theorem mem_added_ofRuns_of_cut (cut : Cut 0 script.lines hunks) (label : Text) :
    label ∈ (ofRuns catalog policy (Patch.runs path hunks)).added ↔
      ∃ number, AddsAt 1 script.lines number ∧ catalog.HasOn policy path label number number := by
  rw [mem_added_ofRuns_iff (cut.sound script.whole) (cut.follows (Nat.le_refl 1))]
  constructor
  · rintro ⟨hunk, isHunk, number, adds, touches⟩
    exact ⟨number, (cut.exists_addsAt_iff number).mp ⟨hunk, isHunk, adds⟩, touches⟩
  · rintro ⟨number, adds, touches⟩
    obtain ⟨hunk, isHunk, addsInHunk⟩ := (cut.exists_addsAt_iff number).mpr adds
    exact ⟨hunk, isHunk, number, addsInHunk, touches⟩

theorem mem_removed_ofRuns_of_cut (cut : Cut 0 script.lines hunks) (label : Text) :
    label ∈ (ofRuns catalog policy (Patch.runs path hunks)).removed ↔
      ∃ start count, RemovesAt 1 script.lines start count ∧
        catalog.HasOn policy path label start (start + count - 1) := by
  rw [mem_removed_ofRuns_iff (cut.sound script.whole) (cut.follows (Nat.le_refl 1))]
  constructor
  · rintro ⟨hunk, isHunk, start, count, removes, touches⟩
    exact ⟨start, count, (cut.exists_removesAt_iff start count).mp ⟨hunk, isHunk, removes⟩, touches⟩
  · rintro ⟨start, count, removes, touches⟩
    obtain ⟨hunk, isHunk, removesInHunk⟩ := (cut.exists_removesAt_iff start count).mpr removes
    exact ⟨hunk, isHunk, start, count, removesInHunk, touches⟩

theorem ofRuns_eq_of_cut (cutFirst : Cut 0 script.lines first)
    (cutSecond : Cut 0 script.lines second) :
    ofRuns catalog policy (Patch.runs path first) =
      ofRuns catalog policy (Patch.runs path second) := by
  have sameAdded : (ofRuns catalog policy (Patch.runs path first)).added =
      (ofRuns catalog policy (Patch.runs path second)).added := by
    apply LabelSet.ext_of_mem
    intro label
    rw [mem_added_ofRuns_of_cut cutFirst, mem_added_ofRuns_of_cut cutSecond]
  have sameRemoved : (ofRuns catalog policy (Patch.runs path first)).removed =
      (ofRuns catalog policy (Patch.runs path second)).removed := by
    apply LabelSet.ext_of_mem
    intro label
    rw [mem_removed_ofRuns_of_cut cutFirst, mem_removed_ofRuns_of_cut cutSecond]
  calc ofRuns catalog policy (Patch.runs path first)
      = ⟨(ofRuns catalog policy (Patch.runs path first)).added,
          (ofRuns catalog policy (Patch.runs path first)).removed⟩ := rfl
    _ = ofRuns catalog policy (Patch.runs path second) := by rw [sameAdded, sameRemoved]

/-- A file of which the changed side has no more lines than a gap may be long. -/
theorem ofFile_of_cut (cut : Cut 0 script.lines hunks)
    (small : targetCount script.lines ≤ Patch.GapError.mostLines room) (file : PatchedFile) :
    ofFile room catalog policy { file with hunks := hunks } =
      if file.binary then .ok empty
      else
        match file.path with
        | .error error => .error (.path error)
        | .ok path => .ok (ofRuns catalog policy (Patch.runs path hunks)) := by
  have fits : Patch.gapError? room hunks = none :=
    (Patch.gapError?_eq_none_iff room (cut.sound script.whole) (cut.follows (Nat.le_refl 1))).mpr
      (cut.gapsFit (Nat.le_refl 1) (by omega))
  have samePath : PatchedFile.path { file with hunks := hunks } = file.path := rfl
  unfold ofFile PatchedFile.pathAndRuns
  rw [samePath]
  cases file.path with
  | error error => rfl
  | ok path => simp only [fits]

/-- Two ways to cut one script into hunks have the same impact, those of any two widths of context
among them, also as a file of which the lines can be counted. -/
theorem impact_eq_of_cuts (room : Nat) (script : EditScript) (catalog : Catalog)
    (policy : PathPolicy) :
    (∀ first second, Cut 0 script.lines first → Cut 0 script.lines second →
      (∀ path, ofRuns catalog policy (Patch.runs path first) =
        ofRuns catalog policy (Patch.runs path second)) ∧
      (targetCount script.lines ≤ Patch.GapError.mostLines room → ∀ file : PatchedFile,
        ofFile room catalog policy { file with hunks := first } =
          ofFile room catalog policy { file with hunks := second })) ∧
    ∀ width other, Cut 0 script.lines (hunksOfWidth width script.lines) ∧
      ∀ path, ofRuns catalog policy (Patch.runs path (hunksOfWidth width script.lines)) =
        ofRuns catalog policy (Patch.runs path (hunksOfWidth other script.lines)) := by
  refine ⟨fun first second cutFirst cutSecond => ⟨fun path => ?_, fun small file => ?_⟩,
    fun width other => ⟨Patch.cut_hunksOfWidth width script.clear, fun path => ?_⟩⟩
  · exact ofRuns_eq_of_cut cutFirst cutSecond
  · rw [ofFile_of_cut cutFirst small, ofFile_of_cut cutSecond small]
    simp only [ofRuns_eq_of_cut cutFirst cutSecond]
  · exact ofRuns_eq_of_cut (Patch.cut_hunksOfWidth width script.clear)
      (Patch.cut_hunksOfWidth other script.clear)

def twoChanges : EditScript where
  lines := [⟨.context, "a\n"⟩, ⟨.removed, "b\n"⟩, ⟨.context, "c\n"⟩, ⟨.context, "d\n"⟩,
    ⟨.removed, "e\n"⟩, ⟨.added, "f"⟩]
  clear := by decide
  whole := by decide

theorem impact_eq_of_cuts_twoChanges :
    hunksOfWidth 0 twoChanges.lines =
        [⟨2, 1, 1, 0, [⟨.removed, "b\n"⟩]⟩, ⟨5, 1, 4, 1, [⟨.removed, "e\n"⟩, ⟨.added, "f"⟩]⟩] ∧
      hunksOfWidth 1 twoChanges.lines = [⟨1, 5, 1, 4, twoChanges.lines⟩] ∧
      ∀ catalog policy, ofFile 100 catalog policy ⟨"a/m", "b/m", false,
        hunksOfWidth 0 twoChanges.lines⟩ =
        ofFile 100 catalog policy ⟨"a/m", "b/m", false, hunksOfWidth 1 twoChanges.lines⟩ := by
  refine ⟨by decide, by decide, fun catalog policy => ?_⟩
  have sameImpact := (impact_eq_of_cuts 100 twoChanges catalog policy).1 _ _
    (Patch.cut_hunksOfWidth 0 twoChanges.clear) (Patch.cut_hunksOfWidth 1 twoChanges.clear)
  exact sameImpact.2 (by decide) ⟨"a/m", "b/m", false, []⟩

end Impact

end ChangeImpact
