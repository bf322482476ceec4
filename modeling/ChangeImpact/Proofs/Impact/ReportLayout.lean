import ChangeImpact.Impact.Report
import ChangeImpact.Proofs.Text.Lines
import ChangeImpact.Proofs.Text.OneLine
/-!
# The layout of a report

The lines of a report tell its sections apart: a title never begins like the line for no changes, an
entry begins with a tab, and the line between the sections is empty. So the labels of both sections
can be read off the lines, whatever the range is called, and two impacts with the same report are
equal.
-/
set_option autoImplicit false

namespace ChangeImpact

/-- No label of the impact has a line end in it. -/
def Impact.LabelsOnOneLine (impact : Impact) : Prop :=
  (∀ label ∈ impact.added.toList, OneLine label) ∧ ∀ label ∈ impact.removed.toList, OneLine label

instance (impact : Impact) : Decidable impact.LabelsOnOneLine :=
  inferInstanceAs (Decidable (_ ∧ _))

theorem LabelSet.eq_of_toList_eq {left right : LabelSet} (same : left.toList = right.toList) :
    left = right := by
  cases left
  cases right
  cases same
  rfl

namespace Report

/-- The lines of a section with some labels: those of its title, and one for each label. -/
def blockLines (part : Section) (range : Text) (labels : List Text) : List Text :=
  Lines.pieces lineEnd (part.title range) ++ labels.map (tab :: ·)

/-- The lines of a report that lists these labels in its sections. -/
inductive Layout (range : Text) : (additions deletions lines : List Text) → Prop
  | unchanged : Layout range [] [] (Lines.pieces lineEnd (noChanges range))
  | additions {added : List Text} (isChanged : added ≠ []) :
      Layout range added [] (blockLines .additions range added)
  | deletions {removed : List Text} (isChanged : removed ≠ []) :
      Layout range [] removed (blockLines .deletions range removed)
  | both {added removed : List Text} (isAdded : added ≠ []) (isRemoved : removed ≠ []) :
      Layout range added removed
        (blockLines .additions range added ++ [] :: blockLines .deletions range removed)

/-! ## The lines of the text -/

theorem sectionLines_of_isEmpty (part : Section) (range : Text) {labels : LabelSet}
    (empty : labels.toList = []) : sectionLines part range labels = [] := by
  rw [sectionLines, if_pos (by simp [LabelSet.isEmpty, empty])]

theorem flatMap_pieces_sectionLines (part : Section) (range : Text) {labels : LabelSet}
    (nonEmpty : labels.toList ≠ []) (oneLine : ∀ label ∈ labels.toList, OneLine label) :
    (sectionLines part range labels).flatMap (Lines.pieces lineEnd) =
      blockLines part range labels.toList := by
  have whole : ∀ entry ∈ labels.toList.map (tab :: ·), lineEnd ∉ entry := by
    intro entry member
    obtain ⟨label, isLabel, rfl⟩ := List.mem_map.mp member
    rw [List.mem_cons, not_or]
    exact ⟨by decide, oneLine label isLabel⟩
  rw [sectionLines, if_neg (by simpa [LabelSet.isEmpty] using nonEmpty), List.flatMap_cons,
    Lines.flatMap_pieces_of_notMem whole, blockLines]

theorem layout_render {impact : Impact} (oneLine : impact.LabelsOnOneLine) (range : Text) :
    Layout range impact.added.toList impact.removed.toList
      (Lines.split lineEnd (render impact range)) := by
  rw [render, Lines.split_join_eq_flatMap]
  by_cases noAdded : impact.added.toList = []
  · by_cases noRemoved : impact.removed.toList = []
    · have isEmpty : impact.isEmpty = true := by
        simp [Impact.isEmpty, LabelSet.isEmpty, noAdded, noRemoved]
      rw [lines, if_pos isEmpty, noAdded, noRemoved, List.flatMap_singleton]
      exact .unchanged
    · have isChanged : ¬impact.isEmpty = true := by
        simp [Impact.isEmpty, LabelSet.isEmpty, noRemoved]
      have noGap : gapLines impact = [] := by simp [gapLines, LabelSet.isEmpty, noAdded]
      rw [lines, if_neg isChanged, sectionLines_of_isEmpty _ _ noAdded, noGap, noAdded,
        List.append_nil, List.nil_append, flatMap_pieces_sectionLines _ _ noRemoved oneLine.2]
      exact .deletions noRemoved
  · have isChanged : ¬impact.isEmpty = true := by
      simp [Impact.isEmpty, LabelSet.isEmpty, noAdded]
    by_cases noRemoved : impact.removed.toList = []
    · have noGap : gapLines impact = [] := by simp [gapLines, LabelSet.isEmpty, noRemoved]
      rw [lines, if_neg isChanged, sectionLines_of_isEmpty _ _ noRemoved, noGap, noRemoved,
        List.append_nil, List.append_nil, flatMap_pieces_sectionLines _ _ noAdded oneLine.1]
      exact .additions noAdded
    · have gap : gapLines impact = [[]] := by simp [gapLines, LabelSet.isEmpty, noAdded, noRemoved]
      rw [lines, if_neg isChanged, gap, List.flatMap_append, List.flatMap_append,
        flatMap_pieces_sectionLines _ _ noAdded oneLine.1,
        flatMap_pieces_sectionLines _ _ noRemoved oneLine.2, List.append_assoc]
      exact .both noAdded noRemoved

/-! ## Reading the labels off -/

/-- How the first line of a section begins. -/
def opening (part : Section) : Text :=
  "Functions with " ++ part.name ++ " in "

theorem title_eq (part : Section) (range : Text) :
    part.title range = opening part ++ (range ++ ":" : Text) :=
  List.append_assoc _ range _

theorem exists_first_line (part : Section) (range : Text) :
    ∃ more others, Lines.pieces lineEnd (part.title range) = (opening part ++ more) :: others := by
  rw [title_eq]
  apply Lines.exists_pieces_append
  cases part <;> decide

theorem exists_first_line_noChanges (range : Text) :
    ∃ more others, Lines.pieces lineEnd (noChanges range) =
      ("No functions changed in " ++ more : Text) :: others :=
  Lines.exists_pieces_append (by decide) range

theorem opening_append_ne {more other : Text} :
    opening .additions ++ more ≠ opening .deletions ++ other := by
  intro same
  have sameStart := congrArg (List.take 16) same
  rw [List.take_append_of_le_length (by decide),
    List.take_append_of_le_length (by decide)] at sameStart
  exact absurd sameStart (by decide)

theorem opening_append_ne_noChanges (part : Section) {more other : Text} :
    opening part ++ more ≠ "No functions changed in " ++ other := by
  intro same
  have sameStart := congrArg (List.take 1) same
  rw [List.take_append_of_le_length (by cases part <;> decide),
    List.take_append_of_le_length (by decide)] at sameStart
  cases part <;> exact absurd sameStart (by decide)

theorem blockLines_append_ne_noChanges (part : Section) (range : Text) (labels rest : List Text) :
    blockLines part range labels ++ rest ≠ Lines.pieces lineEnd (noChanges range) := by
  obtain ⟨more, others, shape⟩ := exists_first_line part range
  obtain ⟨otherMore, otherOthers, otherShape⟩ := exists_first_line_noChanges range
  rw [blockLines, shape, otherShape]
  intro same
  exact opening_append_ne_noChanges part (List.cons.inj same).1

theorem blockLines_append_ne_blockLines (range : Text) (added rest removed : List Text) :
    blockLines .additions range added ++ rest ≠ blockLines .deletions range removed := by
  obtain ⟨more, others, shape⟩ := exists_first_line .additions range
  obtain ⟨otherMore, otherOthers, otherShape⟩ := exists_first_line .deletions range
  rw [blockLines, blockLines, shape, otherShape]
  intro same
  exact opening_append_ne (List.cons.inj same).1

theorem blockLines_injective {part : Section} {range : Text} {labels others : List Text}
    (same : blockLines part range labels = blockLines part range others) : labels = others := by
  apply (List.map_inj_right _).mp (List.append_cancel_left same)
  intro label other sameEntry
  exact (List.cons.inj sameEntry).2

theorem nil_notMem_entries (labels : List Text) : [] ∉ labels.map (tab :: ·) := by
  simp

theorem blockLines_append_gap_inj {part : Section} {range : Text}
    {labels others rest otherRest : List Text}
    (same : blockLines part range labels ++ [] :: rest =
      blockLines part range others ++ [] :: otherRest) :
    labels = others ∧ rest = otherRest := by
  rw [blockLines, blockLines, List.append_assoc, List.append_assoc] at same
  have sameEntries := List.append_cancel_left same
  obtain ⟨sameLabels, sameRest⟩ :=
    Lines.append_cons_inj (nil_notMem_entries labels) (nil_notMem_entries others) sameEntries
  have sameBlock : blockLines part range labels = blockLines part range others := by
    rw [blockLines, blockLines, sameLabels]
  exact ⟨blockLines_injective sameBlock, sameRest⟩

theorem blockLines_ne_append_gap {part : Section} {range : Text} {labels others rest : List Text} :
    blockLines part range labels ≠ blockLines part range others ++ [] :: rest := by
  intro same
  rw [blockLines, blockLines, List.append_assoc] at same
  have sameEntries := List.append_cancel_left same
  apply nil_notMem_entries labels
  rw [sameEntries]
  simp

/-- The lines tell which labels are listed. -/
theorem Layout.unique {range : Text} {added removed otherAdded otherRemoved all : List Text}
    (layout : Layout range added removed all) (other : Layout range otherAdded otherRemoved all) :
    added = otherAdded ∧ removed = otherRemoved := by
  generalize isAll : all = otherAll at other
  cases layout with
  | unchanged =>
      cases other with
      | unchanged => exact ⟨rfl, rfl⟩
      | additions _ =>
          exact absurd isAll.symm (by simpa using blockLines_append_ne_noChanges _ _ _ [])
      | deletions _ =>
          exact absurd isAll.symm (by simpa using blockLines_append_ne_noChanges _ _ _ [])
      | both _ _ => exact absurd isAll.symm (blockLines_append_ne_noChanges _ _ _ _)
  | additions _ =>
      cases other with
      | unchanged => exact absurd isAll (by simpa using blockLines_append_ne_noChanges _ _ _ [])
      | additions _ => exact ⟨blockLines_injective isAll, rfl⟩
      | deletions _ => exact absurd isAll (by simpa using blockLines_append_ne_blockLines _ _ [] _)
      | both _ _ => exact absurd isAll blockLines_ne_append_gap
  | deletions _ =>
      cases other with
      | unchanged => exact absurd isAll (by simpa using blockLines_append_ne_noChanges _ _ _ [])
      | additions _ =>
          exact absurd isAll.symm (by simpa using blockLines_append_ne_blockLines _ _ [] _)
      | deletions _ => exact ⟨rfl, blockLines_injective isAll⟩
      | both _ _ => exact absurd isAll.symm (blockLines_append_ne_blockLines _ _ _ _)
  | both _ _ =>
      cases other with
      | unchanged => exact absurd isAll (blockLines_append_ne_noChanges _ _ _ _)
      | additions _ => exact absurd isAll.symm blockLines_ne_append_gap
      | deletions _ => exact absurd isAll (blockLines_append_ne_blockLines _ _ _ _)
      | both _ _ =>
          obtain ⟨sameAdded, sameBlock⟩ := blockLines_append_gap_inj isAll
          exact ⟨sameAdded, blockLines_injective sameBlock⟩

/-! ## The line for no changes -/

theorem noChanges_notMem_sectionLines (part : Section) (range : Text) (labels : LabelSet) :
    noChanges range ∉ sectionLines part range labels := by
  unfold sectionLines
  split
  · exact List.not_mem_nil
  · rw [List.mem_cons, not_or]
    constructor
    · rw [title_eq]
      exact (opening_append_ne_noChanges part).symm
    · intro member
      obtain ⟨label, -, same⟩ := List.mem_map.mp member
      have sameFirst := congrArg List.head? same
      exact absurd sameFirst (by simp [noChanges, tab, Text.ofString, Text.ofChars])

theorem noChanges_mem_lines_iff (impact : Impact) (range : Text) :
    noChanges range ∈ lines impact range ↔
      impact.added.toList = [] ∧ impact.removed.toList = [] := by
  unfold lines
  split
  · rename_i isEmpty
    simpa [Impact.isEmpty, LabelSet.isEmpty] using isEmpty
  · rename_i isChanged
    have notInGap : noChanges range ∉ gapLines impact := by
      unfold gapLines
      split <;> simp [noChanges, Text.ofString, Text.ofChars]
    rw [List.mem_append, List.mem_append]
    simp only [noChanges_notMem_sectionLines, notInGap, or_self, false_iff]
    simpa [Impact.isEmpty, LabelSet.isEmpty] using isChanged

theorem oneLine_of_mem_sectionLines {part : Section} {range : Text} {labels : LabelSet}
    (oneLineRange : OneLine range) (oneLine : ∀ label ∈ labels.toList, OneLine label) {line : Text}
    (member : line ∈ sectionLines part range labels) : OneLine line := by
  unfold sectionLines at member
  split at member
  · cases member
  · rcases List.mem_cons.mp member with rfl | isEntry
    · have oneLineOpening : OneLine (opening part) := by cases part <;> decide
      rw [title_eq, oneLine_append, oneLine_append]
      exact ⟨oneLineOpening, oneLineRange, by decide⟩
    · obtain ⟨label, isLabel, rfl⟩ := List.mem_map.mp isEntry
      rw [OneLine, List.mem_cons, not_or]
      exact ⟨by decide, oneLine label isLabel⟩

theorem oneLine_of_mem_lines {impact : Impact} {range : Text} (oneLine : impact.LabelsOnOneLine)
    (oneLineRange : OneLine range) {line : Text} (member : line ∈ lines impact range) :
    OneLine line := by
  unfold lines at member
  split at member
  · rw [List.mem_singleton.mp member, noChanges, oneLine_append]
    exact ⟨by decide, oneLineRange⟩
  · rcases List.mem_append.mp member with inFirst | inDeletions
    · rcases List.mem_append.mp inFirst with inAdditions | inGap
      · exact oneLine_of_mem_sectionLines oneLineRange oneLine.1 inAdditions
      · have isEmpty : line = [] := by
          unfold gapLines at inGap
          split at inGap
          · cases inGap
          · exact List.mem_singleton.mp inGap
        rw [isEmpty]
        exact List.not_mem_nil
    · exact oneLine_of_mem_sectionLines oneLineRange oneLine.2 inDeletions

/-- The report tells both sets of labels. Each section lists its labels once and in order, the
additions come first and one empty line stands between the sections, and the line for no changes is
there exactly if there are no labels. -/
theorem render_determines_impact (range : Text) :
    (∀ impact other : Impact, impact.LabelsOnOneLine → other.LabelsOnOneLine →
      render impact range = render other range →
        impact.added = other.added ∧ impact.removed = other.removed) ∧
    ∀ impact : Impact, impact.LabelsOnOneLine →
      (∃ additions deletions,
        Layout range additions deletions (Lines.split lineEnd (render impact range)) ∧
        additions.Pairwise (· < ·) ∧ (∀ label, label ∈ additions ↔ label ∈ impact.added) ∧
        deletions.Pairwise (· < ·) ∧ ∀ label, label ∈ deletions ↔ label ∈ impact.removed) ∧
      (noChanges range ∈ lines impact range ↔
        (∀ label, label ∉ impact.added) ∧ ∀ label, label ∉ impact.removed) ∧
      (OneLine range → Lines.split lineEnd (render impact range) = lines impact range) := by
  constructor
  · intro impact other oneLine otherOneLine same
    have layout := layout_render oneLine range
    rw [same] at layout
    obtain ⟨sameAdded, sameRemoved⟩ := layout.unique (layout_render otherOneLine range)
    exact ⟨LabelSet.eq_of_toList_eq sameAdded, LabelSet.eq_of_toList_eq sameRemoved⟩
  · intro impact oneLine
    refine ⟨⟨impact.added.toList, impact.removed.toList, layout_render oneLine range,
      impact.added.increasing, fun _ => Iff.rfl, impact.removed.increasing, fun _ => Iff.rfl⟩,
      ?_, ?_⟩
    · rw [noChanges_mem_lines_iff, List.eq_nil_iff_forall_not_mem, List.eq_nil_iff_forall_not_mem]
      rfl
    · intro oneLineRange
      exact Lines.split_join fun line member => oneLine_of_mem_lines oneLine oneLineRange member

/-- Labels that are empty, begin with a tab or read like another line of the report. -/
def confusingImpact : Impact :=
  ⟨.ofList ["\tGET /x", "", "No functions changed in a"],
    .ofList ["Functions with deletions in a:"]⟩

/-- The same labels, put in another order and more than once. -/
def repeatedImpact : Impact :=
  ⟨.ofList ["", "No functions changed in a", "\tGET /x", ""],
    .ofList ["Functions with deletions in a:"]⟩

theorem render_determines_confusingImpact :
    (confusingImpact.LabelsOnOneLine ∧ repeatedImpact.LabelsOnOneLine) ∧
      (confusingImpact.added = repeatedImpact.added ∧
        confusingImpact.removed = repeatedImpact.removed) ∧
      noChanges "a\nNo functions changed in a" ∉
        lines confusingImpact "a\nNo functions changed in a" := by
  have oneLine : confusingImpact.LabelsOnOneLine := by decide
  have otherOneLine : repeatedImpact.LabelsOnOneLine := by decide
  have facts := render_determines_impact "a\nNo functions changed in a"
  refine ⟨⟨oneLine, otherOneLine⟩, facts.1 _ _ oneLine otherOneLine (by rfl), ?_⟩
  rw [(facts.2 confusingImpact oneLine).2.1]
  intro empty
  have isLabel : [] ∈ confusingImpact.added.toList := by decide
  exact empty.1 [] isLabel

end Report

end ChangeImpact
