import ChangeImpact.Patch.Parser
import ChangeImpact.Proofs.Patch.Numbering
/-!
# The lines of a patch that is read

Reading cuts the text of a patch after each line feed, and a line of a hunk is a piece of one of
these. So no line of a file that is read holds a line feed but at its end. The reader keeps this
from line to line.
-/
set_option autoImplicit false

namespace ChangeImpact.Patch

/-- A file of which no line holds a line feed but at its end. -/
def PatchedFile.Whole (file : PatchedFile) : Prop :=
  ∀ hunk ∈ file.hunks, ∀ line ∈ hunk.lines, line.Whole

instance (file : PatchedFile) : Decidable file.Whole :=
  inferInstanceAs (Decidable (∀ hunk ∈ file.hunks, _))

theorem PatchedFile.Whole.shown {file : PatchedFile} (whole : file.Whole) :
    ∀ hunk ∈ file.hunks, ∀ line ∈ hunk.shown, line.Whole := by
  intro hunk isHunk line member
  exact whole hunk isHunk line (List.mem_filter.mp member).1

/-! ## Pieces of a line -/

theorem notMem_dropLast_of_infix {point : CodePoint} {piece line : Text} (within : piece <:+: line)
    (atEnd : point ∉ line.dropLast) : point ∉ piece.dropLast := by
  obtain ⟨before, after, rfl⟩ := within
  intro member
  apply atEnd
  rcases List.eq_nil_or_concat after with rfl | ⟨init, last, rfl⟩
  · have notEmpty : piece ≠ [] := by
      rintro rfl
      cases member
    rw [List.append_nil, List.dropLast_append_of_ne_nil notEmpty]
    exact List.mem_append_right _ member
  · rw [List.concat_eq_append, ← List.append_assoc, List.dropLast_concat]
    exact List.mem_append_left _ (List.mem_append_right _ (List.dropLast_subset _ member))

theorem infix_of_hunkLine? {line : Text} {read : Line} (isRead : hunkLine? line = some read) :
    read.value <:+: line := by
  unfold hunkLine? at isRead
  split at isRead
  · cases isRead
    exact (List.suffix_cons _ _).isInfix
  · cases isRead
    exact (List.suffix_cons _ _).isInfix
  · cases isRead
    exact (List.suffix_cons _ _).isInfix
  · cases isRead
    exact (List.suffix_cons _ _).isInfix
  · split at isRead
    · cases isRead
    · rename_i ending _ isEnding
      cases isRead
      exact ((List.take_prefix 2 _).trans (List.takeWhile_prefix _)).isInfix

theorem whole_of_hunkLine? {line : Text} {read : Line} (isRead : hunkLine? line = some read)
    (atEnd : .char '\n' ∉ line.dropLast) : read.Whole :=
  notMem_dropLast_of_infix (infix_of_hunkLine? isRead) atEnd

/-! ## The reader -/

namespace Reader

structure Whole (reader : Reader) : Prop where
  complete : ∀ file ∈ reader.complete, file.Whole
  current : ∀ file ∈ reader.current, file.Whole
  hunk : ∀ hunk ∈ reader.hunk, ∀ line ∈ hunk.latest, line.Whole

theorem whole_start : start.Whole where
  complete := by simp [start]
  current := by simp [start]
  hunk := by simp [start]

variable {reader next : Reader}

namespace Whole

theorem leaveFile (whole : reader.Whole) : reader.leaveFile.Whole := by
  unfold Reader.leaveFile
  split
  · exact whole
  · rename_i file isCurrent
    refine ⟨?_, by simp, whole.hunk⟩
    exact List.forall_mem_cons.mpr ⟨whole.current file isCurrent, whole.complete⟩

theorem enterFile (whole : reader.Whole) (source target : Text) :
    (reader.enterFile source target).Whole where
  complete := whole.leaveFile.complete
  current := by
    intro file isFile
    cases isFile
    intro hunk member
    cases member
  hunk := whole.leaveFile.hunk

theorem addHunk (whole : reader.Whole) {hunk : Hunk} (wholeHunk : ∀ line ∈ hunk.lines, line.Whole) :
    (reader.addHunk hunk).Whole where
  complete := whole.complete
  current := by
    intro file isFile
    obtain ⟨before, isBefore, rfl⟩ := Option.map_eq_some_iff.mp isFile
    intro other isOther
    rcases List.mem_append.mp isOther with old | new
    · exact whole.current before isBefore other old
    · obtain rfl := List.mem_singleton.mp new
      exact wholeHunk
  hunk := by simp [Reader.addHunk]

theorem markBinary (whole : reader.Whole) {file : PatchedFile} (wholeFile : file.Whole) :
    (reader.markBinary file).Whole := by
  have marked : Whole { reader with current := some { file with binary := true } } := by
    refine ⟨whole.complete, ?_, whole.hunk⟩
    intro other isOther
    cases isOther
    exact wholeFile
  exact ⟨marked.leaveFile.complete, marked.leaveFile.current, marked.leaveFile.hunk⟩

theorem binaryRemark (whole : reader.Whole) (name : Text) (second : Option Text) :
    (reader.binaryRemark name second).Whole := by
  have named : Whole { reader with source := some name } :=
    ⟨whole.complete, whole.current, whole.hunk⟩
  unfold Reader.binaryRemark
  dsimp only
  split
  · rename_i file isCurrent
    exact named.markBinary (whole.current file isCurrent)
  · apply named.markBinary
    intro hunk member
    cases member

end Whole

/-- If the result is a reader, all its lines are whole. -/
def KeepsWhole (result : Except ParseError Reader) : Prop :=
  ∀ next, result = .ok next → next.Whole

theorem keepsWhole_ok (whole : reader.Whole) : KeepsWhole (.ok reader) := by
  intro next isNext
  cases isNext
  exact whole

theorem keepsWhole_error (error : ParseError) : KeepsWhole (.error error) := by
  intro next isNext
  cases isNext

theorem keepsWhole_otherLine (whole : reader.Whole) (line : Text) :
    KeepsWhole (reader.otherLine line) := by
  have between :
      Whole (if reader.inHeader then reader else { reader.leaveFile with inHeader := true }) := by
    split
    · exact whole
    · exact ⟨whole.leaveFile.complete, whole.leaveFile.current, whole.leaveFile.hunk⟩
  unfold otherLine
  dsimp only
  split
  · exact keepsWhole_ok (between.binaryRemark _ _)
  · split
    · split
      · exact keepsWhole_error _
      · rename_i file isCurrent
        exact keepsWhole_ok (between.markBinary (between.current file isCurrent))
    · exact keepsWhole_ok between

theorem keepsWhole_targetLine (whole : reader.Whole) (line name : Text) :
    KeepsWhole (reader.targetLine line name) := by
  unfold targetLine
  split
  · split
    · exact keepsWhole_ok whole
    · exact keepsWhole_error _
  · split
    · exact keepsWhole_error _
    · rename_i source _
      have entered := whole.enterFile source name
      exact keepsWhole_ok ⟨entered.complete, entered.current, entered.hunk⟩

theorem keepsWhole_markerLine (whole : reader.Whole) (line : Text) :
    KeepsWhole (reader.markerLine line) := by
  unfold markerLine
  split
  · exact keepsWhole_error _
  · split
    · exact keepsWhole_error _
    · exact keepsWhole_ok whole

theorem latest_of_openHunk {digits : Header.HunkDigits} {hunk : OpenHunk}
    (isHunk : openHunk digits = .ok hunk) :
    hunk.latest = [] := by
  unfold openHunk at isHunk
  split at isHunk
  · cases isHunk
    rfl
  all_goals cases isHunk

theorem keepsWhole_hunkHeaderLine (whole : reader.Whole) (line : Text)
    (digits : Header.HunkDigits) :
    KeepsWhole (reader.hunkHeaderLine line digits) := by
  unfold hunkHeaderLine
  split
  · exact keepsWhole_error _
  · split
    · exact keepsWhole_error _
    · rename_i hunk isHunk
      apply keepsWhole_ok
      refine ⟨whole.complete, whole.current, ?_⟩
      intro opened isOpened
      cases isOpened
      rw [latest_of_openHunk isHunk]
      intro line member
      cases member

theorem keepsWhole_inFileHeader (whole : reader.Whole) (error : ParseError)
    {change : PatchedFile → PatchedFile} (sameHunks : ∀ file, (change file).hunks = file.hunks) :
    KeepsWhole (reader.inFileHeader error change) := by
  unfold inFileHeader
  split
  · rename_i file isCurrent _
    apply keepsWhole_ok
    refine ⟨whole.complete, ?_, whole.hunk⟩
    intro changed isChanged
    cases isChanged
    rw [PatchedFile.Whole, sameHunks]
    exact whole.current file isCurrent
  · exact keepsWhole_error _

theorem keepsWhole_headerLine (whole : reader.Whole) (line : Text) :
    KeepsWhole (reader.headerLine line) := by
  unfold headerLine
  split
  · rename_i source target _
    have entered := whole.enterFile source target
    exact keepsWhole_ok ⟨entered.complete, entered.current, entered.hunk⟩
  split
  · exact keepsWhole_inFileHeader whole _ fun _ => rfl
  split
  · exact keepsWhole_inFileHeader whole _ fun _ => rfl
  split
  · exact keepsWhole_ok whole
  split
  · have between : Whole (if reader.inHeader then reader else reader.leaveFile) := by
      split
      · exact whole
      · exact whole.leaveFile
    exact keepsWhole_ok ⟨between.complete, between.current, between.hunk⟩
  split
  · exact keepsWhole_targetLine whole line _
  split
  · exact keepsWhole_hunkHeaderLine whole line _
  split
  · exact keepsWhole_markerLine whole line
  split
  · exact keepsWhole_ok whole
  · exact keepsWhole_otherLine whole line

theorem keepsWhole_bodyLine (whole : reader.Whole) {hunk : OpenHunk}
    (wholeHunk : ∀ line ∈ hunk.latest, line.Whole) {line : Text}
    (atEnd : .char '\n' ∉ line.dropLast) :
    KeepsWhole (reader.bodyLine hunk line) := by
  unfold bodyLine
  split
  · exact keepsWhole_error _
  · rename_i read isRead
    have pushed : ∀ other ∈ (hunk.push read).latest, other.Whole :=
      List.forall_mem_cons.mpr ⟨whole_of_hunkLine? isRead atEnd, wholeHunk⟩
    dsimp only
    split
    · exact keepsWhole_error _
    split
    · apply keepsWhole_ok
      apply whole.addHunk
      intro other member
      exact pushed other (List.mem_reverse.mp member)
    · apply keepsWhole_ok
      refine ⟨whole.complete, whole.current, ?_⟩
      intro opened isOpened
      cases isOpened
      exact pushed

theorem keepsWhole_step (whole : reader.Whole) {line : Text} (atEnd : .char '\n' ∉ line.dropLast) :
    KeepsWhole (reader.step line) := by
  unfold step
  split
  · rename_i hunk isHunk
    exact keepsWhole_bodyLine whole (whole.hunk hunk isHunk) atEnd
  · exact keepsWhole_headerLine whole line

theorem keepsWhole_readLines (whole : reader.Whole) {lines : List Text}
    (atEnd : ∀ line ∈ lines, .char '\n' ∉ line.dropLast) : KeepsWhole (readLines reader lines) := by
  induction lines generalizing reader with
  | nil => exact keepsWhole_ok whole
  | cons line rest ih =>
      obtain ⟨first, others⟩ := List.forall_mem_cons.mp atEnd
      rw [readLines]
      split
      · rename_i next isNext
        exact ih (keepsWhole_step whole first next isNext) others
      · exact keepsWhole_error _

theorem whole_of_finish (whole : reader.Whole) {files : List PatchedFile}
    (isFinished : reader.finish = .ok files) : ∀ file ∈ files, file.Whole := by
  unfold finish at isFinished
  split at isFinished
  · cases isFinished
    intro file member
    exact whole.leaveFile.complete file (List.mem_reverse.mp member)
  · rename_i hunk isHunk
    split at isFinished
    · cases isFinished
    · cases isFinished
      have added : Whole (reader.addHunk hunk.toHunk) := by
        apply whole.addHunk
        intro line member
        exact whole.hunk hunk isHunk line (List.mem_reverse.mp member)
      intro file member
      exact added.leaveFile.complete file (List.mem_reverse.mp member)

end Reader

/-- A file that is read from the text of a patch has whole lines. -/
theorem whole_of_parse {text : Text} {files : List PatchedFile}
    (isParsed : parse text = .ok files) :
    ∀ file ∈ files, file.Whole := by
  unfold parse at isParsed
  split at isParsed
  · rename_i reader isReader
    apply Reader.whole_of_finish _ isParsed
    apply Reader.keepsWhole_readLines Reader.whole_start _ reader isReader
    intro line member
    exact Lines.notMem_dropLast_of_mem_splitKeepingEnds member
  · cases isParsed

end ChangeImpact.Patch
