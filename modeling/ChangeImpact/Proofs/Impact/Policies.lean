import ChangeImpact.Proofs.Catalog.PathMatch
import ChangeImpact.Proofs.Impact.Unions
import ChangeImpact.Proofs.Patch.Parts
/-!
# The narrower policy

Where no path has backslashes or empty components, a function that matches by its last components
has the path of the patch in its own. So every label that the narrower policy finds is found by the
wider one, and both fail alike.
-/
set_option autoImplicit false

namespace ChangeImpact

open Patch (Run Kind PatchedFile)
open PathMatch (Tidy Relative namesFile)

theorem SourceFunction.Meets.widen {function : SourceFunction} (tidy : Tidy function.file.text)
    {kind : Kind} {lists : List (List Run)}
    (relative : ∀ runs ∈ lists, ∀ run ∈ runs, Relative run.path)
    (meets : function.Meets .suffix kind lists) : function.Meets .substring kind lists := by
  obtain ⟨runs, isRuns, span, isSpan, isKind, named, shares⟩ := meets
  have isRun : span.run ∈ runs := Patch.run_mem_of_mem_spansFrom isSpan
  have wider :=
    PathMatch.namesFile_substring_of_suffix tidy (relative runs isRuns span.run isRun) named
  exact ⟨runs, isRuns, span, isSpan, isKind, wider, shares⟩

namespace Patch.PatchedFile

/-- Runs that can touch functions carry the path of a file that is not binary. -/
theorem path_of_touchingRuns {room : Nat} {file : PatchedFile} {runs : List Run}
    (isRuns : file.touchingRuns room = .ok runs) {run : Run} (member : run ∈ runs) :
    file.binary = false ∧ file.path = .ok run.path := by
  unfold touchingRuns at isRuns
  cases binary : file.binary with
  | true =>
      rw [binary] at isRuns
      cases isRuns
      cases member
  | false =>
      rw [binary] at isRuns
      cases isFound : file.pathAndRuns room with
      | error error =>
          rw [isFound] at isRuns
          cases isRuns
      | ok found =>
          rw [isFound] at isRuns
          cases isRuns
          obtain ⟨isPath, -, same⟩ := (pathAndRuns_eq_ok_iff ..).mp isFound
          rw [same] at member
          rw [isPath, path_of_mem_runsFrom member]
          exact ⟨rfl, rfl⟩

theorem exists_file_of_mapM {room : Nat} {files : List PatchedFile} {lists : List (List Run)}
    (isLists : files.mapM (touchingRuns room) = .ok lists) {runs : List Run}
    (member : runs ∈ lists) :
    ∃ file ∈ files, file.touchingRuns room = .ok runs := by
  induction files generalizing lists with
  | nil =>
      cases isLists
      cases member
  | cons file rest ih =>
      rw [List.mapM_cons] at isLists
      cases isFirst : file.touchingRuns room with
      | error error =>
          rw [isFirst] at isLists
          cases isLists
      | ok first =>
          cases isRest : rest.mapM (touchingRuns room) with
          | error error =>
              rw [isFirst, isRest] at isLists
              cases isLists
          | ok others =>
              rw [isFirst, isRest] at isLists
              cases isLists
              rcases List.mem_cons.mp member with rfl | inOthers
              · exact ⟨file, List.mem_cons_self, isFirst⟩
              · obtain ⟨other, isOther, found⟩ := ih isRest inOthers
                exact ⟨other, List.mem_cons_of_mem _ isOther, found⟩

end Patch.PatchedFile

namespace Impact

/-- Every label of the one is in the other, on the same side. -/
def Within (narrow wide : Impact) : Prop :=
  (∀ label ∈ narrow.added, label ∈ wide.added) ∧ ∀ label ∈ narrow.removed, label ∈ wide.removed

variable {room : Nat} {catalog : Catalog} {files : List PatchedFile}

theorem within_ofRunLists {lists : List (List Run)}
    (tidy : ∀ function ∈ catalog.functions, Tidy function.file.text)
    (relative : ∀ runs ∈ lists, ∀ run ∈ runs, Relative run.path) :
    (ofRunLists catalog .suffix lists).Within (ofRunLists catalog .substring lists) := by
  have widen (kind : Kind) (label : Text)
      (narrow : ∃ function ∈ catalog.functions, function.label = label ∧
        function.Meets .suffix kind lists) :
      ∃ function ∈ catalog.functions, function.label = label ∧
        function.Meets .substring kind lists := by
    obtain ⟨function, member, isLabel, meets⟩ := narrow
    exact ⟨function, member, isLabel, meets.widen (tidy function member) relative⟩
  constructor
  · intro label
    rw [mem_added_ofRunLists_iff, mem_added_ofRunLists_iff]
    exact widen .addition label
  · intro label
    rw [mem_removed_ofRunLists_iff, mem_removed_ofRunLists_iff]
    exact widen .deletion label

theorem ofPatch_eq_error_of_policy (policy other : PathPolicy) (failure : Failure)
    (fails : ofPatch room catalog policy files = .error failure) :
    ofPatch room catalog other files = .error failure := by
  unfold ofPatch at fails ⊢
  rw [ofFiles_eq_map] at fails ⊢
  cases isLists : files.mapM (PatchedFile.touchingRuns room) with
  | error error =>
      rw [isLists] at fails
      exact fails
  | ok lists =>
      rw [isLists] at fails
      cases fails

theorem exists_within_of_ofPatch (tidy : ∀ function ∈ catalog.functions, Tidy function.file.text)
    (relative : ∀ file ∈ files, file.binary = false → ∀ path, file.path = .ok path → Relative path)
    {narrow : Impact} (isNarrow : ofPatch room catalog .suffix files = .ok narrow) :
    ∃ wide, ofPatch room catalog .substring files = .ok wide ∧ narrow.Within wide := by
  unfold ofPatch at isNarrow ⊢
  rw [ofFiles_eq_map] at isNarrow ⊢
  cases isLists : files.mapM (PatchedFile.touchingRuns room) with
  | error error =>
      rw [isLists] at isNarrow
      cases isNarrow
  | ok lists =>
      rw [isLists] at isNarrow
      cases isNarrow
      refine ⟨ofRunLists catalog .substring lists, rfl, ?_⟩
      apply within_ofRunLists tidy
      intro runs isRuns run isRun
      obtain ⟨file, isFile, found⟩ := PatchedFile.exists_file_of_mapM isLists isRuns
      obtain ⟨textual, isPath⟩ := PatchedFile.path_of_touchingRuns found isRun
      exact relative file isFile textual run.path isPath

/-- The path of a patch matches by its last components if the other path is the same, or ends with
it after a slash. Then it also stands in the other path, so the narrower policy finds no label that
the wider one does not, on either side, and both fail alike. Below any root a path is matched by
both. -/
theorem suffix_refines_substring :
    (∀ file path, Tidy file → Relative path →
      (namesFile .suffix file path = true ↔ file = path ∨ .char '/' :: path <:+ file) ∧
      (namesFile .suffix file path = true → namesFile .substring file path = true)) ∧
    (∀ (room : Nat) (catalog : Catalog) (files : List PatchedFile),
      (∀ function ∈ catalog.functions, Tidy function.file.text) →
      (∀ file ∈ files, file.binary = false → ∀ path, file.path = .ok path → Relative path) →
      (∀ failure, ofPatch room catalog .suffix files = .error failure ↔
        ofPatch room catalog .substring files = .error failure) ∧
      ∀ narrow, ofPatch room catalog .suffix files = .ok narrow →
        ∃ wide, ofPatch room catalog .substring files = .ok wide ∧ narrow.Within wide) ∧
    ∀ root path, Relative path →
      ∀ policy, namesFile policy (root ++ .char '/' :: path) path = true := by
  refine ⟨?_, ?_, ?_⟩
  · intro file path tidy relative
    exact ⟨PathMatch.namesFile_suffix_iff tidy relative,
      PathMatch.namesFile_substring_of_suffix tidy relative⟩
  · intro room catalog files tidy relative
    constructor
    · intro failure
      exact ⟨ofPatch_eq_error_of_policy .suffix .substring failure,
        ofPatch_eq_error_of_policy .substring .suffix failure⟩
    · intro narrow isNarrow
      exact exists_within_of_ofPatch tidy relative isNarrow
  · intro root path relative policy
    exact PathMatch.namesFile_append_slash relative root policy

theorem suffix_refines_substring_shortenedFile :
    namesFile .suffix "/repo/src/a.ts" "src/a.ts" = true ∧
      namesFile .substring "/repo/src/a.ts" "src/a.ts" = true ∧
      namesFile .suffix "C:\\work//src/a.ts" "src/a.ts" = true ∧
      ∃ narrow wide, ofPatch 100 functionsOfShortenedFile .suffix [shortenedFile] = .ok narrow ∧
        ofPatch 100 functionsOfShortenedFile .substring
          [shortenedFile] = .ok wide ∧ narrow.Within wide ∧
        Text.ofString "grown" ∈ narrow.added ∧ Text.ofString "lost" ∈ narrow.removed := by
  obtain ⟨ofPaths, ofPatches, ofRoots⟩ := suffix_refines_substring
  have relative : Relative "src/a.ts" := by decide
  obtain ⟨byEnd, wider⟩ := ofPaths "/repo/src/a.ts" "src/a.ts" (by decide) relative
  have named : namesFile .suffix "/repo/src/a.ts" "src/a.ts" = true :=
    byEnd.mpr (.inr ⟨"/repo", rfl⟩)
  have isNarrow : ofPatch 100 functionsOfShortenedFile .suffix [shortenedFile] =
      .ok ⟨⟨["grown"], by decide⟩, ⟨["lost"], by decide⟩⟩ := rfl
  have relativeFile : ∀ file ∈ [shortenedFile], file.binary = false →
      ∀ path, file.path = .ok path → Relative path := by
    intro file member _ path isPath
    obtain rfl := List.mem_singleton.mp member
    have isM : shortenedFile.path = .ok "m" := rfl
    rw [isM] at isPath
    cases isPath
    decide
  obtain ⟨-, widen⟩ :=
    ofPatches 100 functionsOfShortenedFile [shortenedFile] (by decide) relativeFile
  obtain ⟨wide, isWide, within⟩ := widen _ isNarrow
  exact ⟨named, wider named, ofRoots "C:\\work/" "src/a.ts" relative .suffix, _, wide, isNarrow,
    isWide, within, List.mem_cons_self, List.mem_cons_self⟩

end Impact

end ChangeImpact
