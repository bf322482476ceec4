import ChangeImpact.Impact.PatchText
import ChangeImpact.Proofs.Patch.Numbering
/-!
# The lines that a patch touches

The impact of a patch is given by line numbers alone. A label is added by an added line that a
function of that label has, and removed by a stretch of removed lines if such a function has one of
as many lines from where the stretch stood.
-/
set_option autoImplicit false

namespace ChangeImpact

open Patch (Run Span Hunk PatchedFile FileError Stretch Follows GapsFit AddsAt RemovesAt
  targetCount)

/-- Some function of this label, in the file of this path, has a line from `start` to `finish`. -/
def Catalog.HasOn (catalog : Catalog) (policy : PathPolicy) (path label : Text)
    (start finish : Nat) :
    Prop :=
  ∃ function ∈ catalog.functions, function.label = label ∧
    PathMatch.namesFile policy function.file.text path = true ∧
    function.startLine ≤ finish ∧ start ≤ function.endLine

/-- A file of which each hunk counts its lines, with the hunks in order. -/
structure Patch.PatchedFile.Sound (file : PatchedFile) : Prop where
  hunks : ∀ hunk ∈ file.hunks, hunk.Sound
  inOrder : Follows 1 file.hunks

instance (file : PatchedFile) : Decidable file.Sound :=
  decidable_of_iff ((∀ hunk ∈ file.hunks, hunk.Sound) ∧ Follows 1 file.hunks)
    ⟨fun sound => ⟨sound.1, sound.2⟩, fun sound => ⟨sound.hunks, sound.inOrder⟩⟩

namespace Impact

variable {room : Nat} {catalog : Catalog} {policy : PathPolicy} {label path : Text}
  {hunks : List Hunk}

/-! ## Unions -/

theorem mem_touched_iff (span : Span) :
    label ∈ touched catalog policy span ↔
      catalog.HasOn policy span.run.path label span.start span.finish := by
  simp only [touched, Catalog.touching, Catalog.HasOn, sharesLine, List.mem_map, List.mem_filter,
    Bool.and_eq_true, decide_eq_true_eq, Int.ofNat_le]
  constructor
  · rintro ⟨function, ⟨member, named, first, last⟩, rfl⟩
    exact ⟨function, member, rfl, named, last, first⟩
  · rintro ⟨function, member, rfl, named, last, first⟩
    exact ⟨function, ⟨member, named, first, last⟩, rfl⟩

section Side

-- The two sets of an impact are joined alike, so what holds of both is stated for either.
variable {side : Impact → LabelSet}
  (joined : ∀ left right, side (left.union right) = (side left).union (side right))

include joined

theorem mem_side_foldl (spans : List Span) (impact : Impact) :
    label ∈ side (spans.foldl (fun impact span =>
      impact.union (ofSpan catalog policy span)) impact) ↔
      label ∈ side impact ∨ ∃ span ∈ spans, label ∈ side (ofSpan catalog policy span) := by
  induction spans generalizing impact with
  | nil => simp
  | cons span rest ih =>
      rw [List.foldl_cons, ih, joined, LabelSet.mem_union]
      simp only [List.mem_cons, exists_eq_or_imp, or_assoc]

theorem mem_side_ofRuns (nothing : side empty = .empty) (runs : List Run) :
    label ∈ side (ofRuns catalog policy runs) ↔
      ∃ span ∈ Patch.spans runs, label ∈ side (ofSpan catalog policy span) := by
  rw [ofRuns, mem_side_foldl joined, nothing]
  simp

theorem mem_side_ofFiles (nothing : side empty = .empty) {files : List PatchedFile}
    {impact : Impact} (isImpact : ofFiles room catalog policy files = .ok impact) :
    label ∈ side impact ↔
      ∃ file ∈ files, ∃ part, ofFile room catalog policy file = .ok part ∧ label ∈ side part := by
  induction files generalizing impact with
  | nil =>
      cases isImpact
      simp [nothing]
  | cons file rest ih =>
      rw [ofFiles] at isImpact
      split at isImpact
      · cases isImpact
      · rename_i part isPart
        split at isImpact
        · cases isImpact
        · rename_i others isOthers
          cases isImpact
          rw [joined, LabelSet.mem_union, ih isOthers]
          simp [isPart]

end Side

theorem mem_added_ofSpan (span : Span) :
    label ∈ (ofSpan catalog policy span).added ↔
      span.run.kind = .addition ∧ label ∈ touched catalog policy span := by
  unfold ofSpan
  split <;> rename_i isKind <;> simp [isKind, empty, LabelSet.ofList]

theorem mem_removed_ofSpan (span : Span) :
    label ∈ (ofSpan catalog policy span).removed ↔
      span.run.kind = .deletion ∧ label ∈ touched catalog policy span := by
  unfold ofSpan
  split <;> rename_i isKind <;> simp [isKind, empty, LabelSet.ofList]

/-! ## The hunks of a file -/

theorem targetCount_of_added {lines : List Patch.Line}
    (added : ∀ line ∈ lines, line.kind? = some .addition) : targetCount lines = lines.length := by
  apply List.countP_eq_length.mpr
  intro line member
  have isKind := added line member
  obtain ⟨mark, value⟩ := line
  cases mark <;> first | rfl | cases isKind

theorem kind?_eq_addition_iff (line : Patch.Line) :
    line.kind? = some .addition ↔ line.mark = .added := by
  obtain ⟨mark, value⟩ := line
  cases mark <;> simp [Patch.Line.kind?]

/-- A stretch of added lines has a line of the range exactly if one of the lines does. -/
theorem hasOn_of_stretch {first : Nat} {all before lines after : List Patch.Line}
    (stretch : Stretch .addition all before lines after)
    (touches : catalog.HasOn policy path label (first + targetCount before)
      (first + targetCount before + lines.length - 1)) :
    ∃ number, AddsAt first all number ∧ catalog.HasOn policy path label number number := by
  obtain ⟨function, member, isLabel, named, startBelow, endAbove⟩ := touches
  have ordered := function.start_le_end
  have notEmpty := List.length_pos_iff.mpr stretch.nonEmpty
  generalize begins : first + targetCount before = start at *
  -- The first line of the stretch, or that of the function if it comes later.
  obtain ⟨index, inside, low, high⟩ : ∃ index, index < lines.length ∧
      function.startLine ≤ start + index ∧ start + index ≤ function.endLine :=
    ⟨function.startLine - start, by omega, by omega, by omega⟩
  have parts : lines = lines.take index ++ lines[index] :: lines.drop (index + 1) := by
    rw [List.getElem_cons_drop, List.take_append_drop]
  refine ⟨start + index, ⟨before ++ lines.take index, lines[index], lines.drop (index + 1) ++ after,
    ?_, ?_, ?_⟩, function, member, isLabel, named, low, high⟩
  · rw [stretch.parts, List.append_assoc, ← List.cons_append,
      ← List.append_assoc (lines.take index), ← parts]
  · exact (kind?_eq_addition_iff _).mp (stretch.uniform _ (List.getElem_mem inside))
  · have added : ∀ line ∈ lines.take index, line.kind? = some .addition :=
      fun line isLine => stretch.uniform line (List.mem_of_mem_take isLine)
    rw [Patch.targetCount_append, targetCount_of_added added, List.length_take_of_le (by omega),
      ← Nat.add_assoc, begins]

/-- What touches functions are the longest stretches of one kind in the hunks. -/
theorem exists_touching_span_iff {kind : Patch.Kind} (changed : kind ≠ .context)
    (sound : ∀ hunk ∈ hunks, hunk.Sound) (inOrder : Follows 1 hunks) :
    (∃ span ∈ Patch.spans (Patch.runs path hunks), span.run.kind = kind ∧
        label ∈ touched catalog policy span) ↔
      ∃ hunk ∈ hunks, ∃ before lines after, Stretch kind hunk.shown before lines after ∧
        catalog.HasOn policy path label (hunk.firstLine + targetCount before)
          (hunk.firstLine + targetCount before + lines.length - 1) := by
  simp only [mem_touched_iff]
  constructor
  · rintro ⟨span, member, rfl, touches⟩
    obtain ⟨hunk, isHunk, inHunk⟩ :=
      (Patch.mem_spansFrom_runsFrom_iff path sound inOrder changed).mp member
    obtain ⟨kind, before, lines, after, stretch, rfl⟩ :=
      ((sound hunk isHunk).mem_spansFrom_runs_iff ..).mp inHunk
    exact ⟨hunk, isHunk, before, lines, after, stretch, touches⟩
  · rintro ⟨hunk, isHunk, before, lines, after, stretch, touches⟩
    have inHunk := ((sound hunk isHunk).mem_spansFrom_runs_iff path hunk.firstLine _).mpr
      ⟨kind, before, lines, after, stretch, rfl⟩
    exact ⟨_, (Patch.mem_spansFrom_runsFrom_iff path sound inOrder changed).mpr
      ⟨hunk, isHunk, inHunk⟩, rfl, touches⟩

theorem mem_added_ofRuns_iff (sound : ∀ hunk ∈ hunks, hunk.Sound) (inOrder : Follows 1 hunks) :
    label ∈ (ofRuns catalog policy (Patch.runs path hunks)).added ↔
      ∃ hunk ∈ hunks, ∃ number, AddsAt hunk.firstLine hunk.shown number ∧
        catalog.HasOn policy path label number number := by
  have changed : Patch.Kind.addition ≠ .context := by decide
  rw [mem_side_ofRuns (fun _ _ => rfl) rfl]
  simp only [mem_added_ofSpan]
  rw [exists_touching_span_iff changed sound inOrder]
  constructor
  · rintro ⟨hunk, isHunk, before, lines, after, stretch, touches⟩
    exact ⟨hunk, isHunk, hasOn_of_stretch stretch touches⟩
  · rintro ⟨hunk, isHunk, number, ⟨before, line, after, parts, isAdded, rfl⟩, touches⟩
    obtain ⟨start, left, right, rest, rfl, rfl, stretch⟩ :=
      Patch.exists_stretch parts ((kind?_eq_addition_iff line).mpr isAdded)
    refine ⟨hunk, isHunk, start, left ++ line :: right, rest, stretch, ?_⟩
    have added : ∀ other ∈ left, other.kind? = some .addition :=
      fun other isLeft => stretch.uniform other (by simp [isLeft])
    obtain ⟨function, member, isLabel, named, startBelow, endAbove⟩ := touches
    rw [Patch.targetCount_append, targetCount_of_added added] at startBelow endAbove
    refine ⟨function, member, isLabel, named, ?_, ?_⟩
    · rw [List.length_append, List.length_cons]
      omega
    · omega

theorem mem_removed_ofRuns_iff (sound : ∀ hunk ∈ hunks, hunk.Sound) (inOrder : Follows 1 hunks) :
    label ∈ (ofRuns catalog policy (Patch.runs path hunks)).removed ↔
      ∃ hunk ∈ hunks, ∃ start count, RemovesAt hunk.firstLine hunk.shown start count ∧
        catalog.HasOn policy path label start (start + count - 1) := by
  have changed : Patch.Kind.deletion ≠ .context := by decide
  rw [mem_side_ofRuns (fun _ _ => rfl) rfl]
  simp only [mem_removed_ofSpan]
  rw [exists_touching_span_iff changed sound inOrder]
  constructor
  · rintro ⟨hunk, isHunk, before, lines, after, stretch, touches⟩
    exact ⟨hunk, isHunk, _, _, ⟨before, lines, after, stretch, rfl, rfl⟩, touches⟩
  · rintro ⟨hunk, isHunk, _, _, ⟨before, lines, after, stretch, rfl, rfl⟩, touches⟩
    exact ⟨hunk, isHunk, before, lines, after, stretch, touches⟩

/-! ## Files and patches -/

theorem ofFile_of_binary {file : PatchedFile} (binary : file.binary = true) :
    ofFile room catalog policy file = .ok empty := by
  rw [ofFile, if_pos binary]

theorem ofFile_eq_ok_iff {file : PatchedFile} (sound : file.Sound) (textual : file.binary = false)
    (impact : Impact) :
    ofFile room catalog policy file = .ok impact ↔
      ∃ path, file.path = .ok path ∧ GapsFit room 1 file.hunks ∧
        impact = ofRuns catalog policy (Patch.runs path file.hunks) := by
  rw [ofFile, if_neg (by simp [textual]), PatchedFile.pathAndRuns,
    ← Patch.gapError?_eq_none_iff room sound.hunks sound.inOrder]
  cases file.path with
  | error error => simp
  | ok path =>
      cases Patch.gapError? room file.hunks with
      | some error => simp
      | none => simp [eq_comm]

theorem exists_ofFiles_eq_ok_iff (files : List PatchedFile) :
    (∃ impact, ofFiles room catalog policy files = .ok impact) ↔
      ∀ file ∈ files, ∃ impact, ofFile room catalog policy file = .ok impact := by
  induction files with
  | nil => simp [ofFiles]
  | cons file rest ih =>
      rw [List.forall_mem_cons, ← ih, ofFiles]
      cases ofFile room catalog policy file with
      | error error => simp
      | ok part =>
          cases ofFiles room catalog policy rest with
          | error error => simp
          | ok others => simp

theorem ofPatch_eq_ok_iff (files : List PatchedFile) (impact : Impact) :
    ofPatch room catalog policy files = .ok impact ↔
      ofFiles room catalog policy files = .ok impact := by
  unfold ofPatch
  cases ofFiles room catalog policy files <;> simp

theorem exists_ofPatch_eq_ok_iff {files : List PatchedFile}
    (sound : ∀ file ∈ files, file.binary = false → file.Sound) :
    (∃ impact, ofPatch room catalog policy files = .ok impact) ↔
      ∀ file ∈ files, file.binary = false →
        (∃ path, file.path = .ok path) ∧ GapsFit room 1 file.hunks := by
  simp only [ofPatch_eq_ok_iff]
  rw [exists_ofFiles_eq_ok_iff]
  refine forall₂_congr fun file member => ?_
  cases textual : file.binary with
  | true => simp [ofFile_of_binary textual]
  | false => simp [ofFile_eq_ok_iff (sound file member textual) textual]

/-- A patch touches what the runs of its files touch that are not binary. -/
theorem mem_side_ofPatch {side : Impact → LabelSet}
    (joined : ∀ left right, side (left.union right) = (side left).union (side right))
    (nothing : side empty = .empty) {files : List PatchedFile}
    (sound : ∀ file ∈ files, file.binary = false → file.Sound) {impact : Impact}
    (isImpact : ofPatch room catalog policy files = .ok impact) :
    label ∈ side impact ↔
      ∃ file ∈ files, file.binary = false ∧ ∃ path, file.path = .ok path ∧
        label ∈ side (ofRuns catalog policy (Patch.runs path file.hunks)) := by
  have fits := (exists_ofPatch_eq_ok_iff sound).mp ⟨impact, isImpact⟩
  rw [mem_side_ofFiles joined nothing ((ofPatch_eq_ok_iff ..).mp isImpact)]
  refine exists_congr fun file => and_congr_right fun member => ?_
  cases textual : file.binary with
  | true => simp [ofFile_of_binary textual, nothing]
  | false =>
      simp [ofFile_eq_ok_iff (sound file member textual) textual, (fits file member textual).2]

/-- A patch has an impact if the paths of its files can be read and no gap between hunks is too
long. Its labels are then those of the functions that have an added line, and those that have one of
as many lines as were removed, from where they stood. -/
theorem ofPatch_touches_lines (room : Nat) (catalog : Catalog) (policy : PathPolicy)
    (files : List PatchedFile) (sound : ∀ file ∈ files, file.binary = false → file.Sound) :
    ((∃ impact, ofPatch room catalog policy files = .ok impact) ↔
      ∀ file ∈ files, file.binary = false →
        (∃ path, file.path = .ok path) ∧ GapsFit room 1 file.hunks) ∧
    ∀ impact, ofPatch room catalog policy files = .ok impact → ∀ label,
      (label ∈ impact.added ↔
        ∃ file ∈ files, file.binary = false ∧ ∃ path, file.path = .ok path ∧
          ∃ hunk ∈ file.hunks, ∃ number, AddsAt hunk.firstLine hunk.shown number ∧
            catalog.HasOn policy path label number number) ∧
      (label ∈ impact.removed ↔
        ∃ file ∈ files, file.binary = false ∧ ∃ path, file.path = .ok path ∧
          ∃ hunk ∈ file.hunks, ∃ start count, RemovesAt hunk.firstLine hunk.shown start count ∧
            catalog.HasOn policy path label start (start + count - 1)) := by
  refine ⟨exists_ofPatch_eq_ok_iff sound, fun impact isImpact label => ⟨?_, ?_⟩⟩
  · rw [mem_side_ofPatch (fun _ _ => rfl) rfl sound isImpact]
    refine exists_congr fun file => and_congr_right fun member => and_congr_right fun textual => ?_
    have soundFile := sound file member textual
    simp only [mem_added_ofRuns_iff soundFile.hunks soundFile.inOrder]
  · rw [mem_side_ofPatch (fun _ _ => rfl) rfl sound isImpact]
    refine exists_congr fun file => and_congr_right fun member => and_congr_right fun textual => ?_
    have soundFile := sound file member textual
    simp only [mem_removed_ofRuns_iff soundFile.hunks soundFile.inOrder]

/-- A file that loses its third line and has its last one, without a line end, replaced by two. -/
def shortenedFile : PatchedFile where
  source := "a/m"
  target := "b/m"
  binary := false
  hunks :=
    [⟨3, 1, 2, 0, [⟨.removed, "x\n"⟩]⟩,
      ⟨7, 1, 6, 2, [⟨.removed, "y"⟩, ⟨.noLineEnd, " No newline at end of file\n"⟩, ⟨.added, "y\n"⟩,
        ⟨.added, "z\n"⟩]⟩]

/-- One function at the line lost and one from the line added on. -/
def functionsOfShortenedFile : Catalog :=
  .ofFunctions [⟨none, "lost", ⟨"m", by decide⟩, 3, 3, by decide, by decide⟩,
    ⟨some "grown", "", ⟨"m", by decide⟩, 7, 9, by decide, by decide⟩]

theorem ofPatch_shortenedFile :
    (∀ file ∈ [shortenedFile], file.binary = false → file.Sound) ∧
      ∃ impact, ofPatch 100 functionsOfShortenedFile .suffix [shortenedFile] = .ok impact ∧
        Text.ofString "grown" ∈ impact.added ∧ Text.ofString "lost" ∈ impact.removed := by
  have sound : ∀ file ∈ [shortenedFile], file.binary = false → file.Sound := by decide
  have isPath : shortenedFile.path = .ok "m" := rfl
  obtain ⟨succeeds, touches⟩ :=
    ofPatch_touches_lines 100 functionsOfShortenedFile .suffix [shortenedFile] sound
  obtain ⟨impact, isImpact⟩ := succeeds.mpr (by
    intro file member _
    obtain rfl := List.mem_singleton.mp member
    exact ⟨⟨_, isPath⟩, by decide⟩)
  refine ⟨sound, impact, isImpact, ?_, ?_⟩
  · refine (touches impact isImpact "grown").1.mpr
      ⟨shortenedFile, by simp, rfl, "m", isPath, _, List.mem_cons_of_mem _ List.mem_cons_self, 7,
        ?_, ?_⟩
    · exact ⟨[⟨.removed, "y"⟩, ⟨.added, "y\n"⟩], ⟨.added, "z\n"⟩, [], by decide, rfl, by decide⟩
    · exact ⟨_,
        List.mem_cons_of_mem _ List.mem_cons_self, by decide, by decide, by decide, by decide⟩
  · refine (touches impact isImpact "lost").2.mpr
      ⟨shortenedFile, by simp, rfl, "m", isPath, _, List.mem_cons_self, 3, 1, ?_, ?_⟩
    · exact ⟨[], [⟨.removed, "x\n"⟩], [], ⟨by decide, by decide, by decide, by decide, by decide⟩,
        by decide, rfl⟩
    · exact ⟨_, List.mem_cons_self, by decide, by decide, by decide, by decide⟩

end Impact

end ChangeImpact
