import Mathlib.Algebra.Ring.Nat
import ChangeImpact.Proofs.Impact.ContextWidth
/-!
# Deletions move nothing

A run lies after the lines of the runs before it that stay in the changed file. So the spans of
these runs follow each other from the first line on, and deletions can be put in, taken out or
replaced anywhere without a change to where the other runs lie, or to what is added.
-/
set_option autoImplicit false

namespace ChangeImpact

namespace Patch

/-- Whether the lines of a run stay in the changed file. -/
def Run.stays (run : Run) : Bool :=
  run.kind ≠ .deletion

def lineTotal (runs : List Run) : Nat :=
  (runs.map Run.lineCount).sum

/-- The numbers of the lines of a span. -/
def Span.numbers (span : Span) : List Nat :=
  List.range' span.start (span.finish + 1 - span.start)

theorem Run.advance_of_stays {run : Run} (stays : run.stays = true) :
    run.advance = run.lineCount := by
  rw [Run.advance, if_neg (by simpa [Run.stays] using stays)]

theorem Run.advance_of_not_stays {run : Run} (deleted : ¬run.stays = true) : run.advance = 0 := by
  rw [Run.advance, if_pos (by simpa [Run.stays] using deleted)]

/-! ## The runs that stay -/

theorem totalAdvance_eq_lineTotal (runs : List Run) :
    totalAdvance runs = lineTotal (runs.filter Run.stays) := by
  induction runs with
  | nil => rfl
  | cons run rest ih =>
      rw [totalAdvance_cons, ih]
      by_cases stays : run.stays = true
      · rw [List.filter_cons_of_pos stays, Run.advance_of_stays stays]
        rfl
      · rw [List.filter_cons_of_neg stays, Run.advance_of_not_stays stays, Nat.zero_add]

/-- The spans of the runs that stay are those that they have without the others. -/
theorem filter_spansFrom (cursor : Nat) (runs : List Run) :
    (spansFrom cursor runs).filter (·.run.stays) = spansFrom cursor (runs.filter Run.stays) := by
  induction runs generalizing cursor with
  | nil => rfl
  | cons run rest ih =>
      by_cases stays : run.stays = true
      · rw [List.filter_cons_of_pos stays, spansFrom, spansFrom, ← ih]
        exact List.filter_cons_of_pos stays
      · have same : cursor + run.advance = cursor := by
          rw [Run.advance_of_not_stays stays, Nat.add_zero]
        rw [List.filter_cons_of_neg stays, spansFrom, same, ← ih]
        exact List.filter_cons_of_neg stays

theorem flatMap_numbers_spansFrom {cursor : Nat} (positive : 0 < cursor) {runs : List Run}
    (stay : ∀ run ∈ runs, run.stays = true) :
    (spansFrom cursor runs).flatMap Span.numbers = List.range' cursor (lineTotal runs) := by
  induction runs generalizing cursor with
  | nil => rfl
  | cons run rest ih =>
      obtain ⟨stays, stayRest⟩ := List.forall_mem_cons.mp stay
      have own : Span.numbers ⟨run, cursor, cursor + run.lineCount - 1⟩ =
          List.range' cursor run.lineCount := by
        rw [Span.numbers]
        congr 1
        change cursor + run.lineCount - 1 + 1 - cursor = run.lineCount
        omega
      rw [spansFrom, List.flatMap_cons, own, Run.advance_of_stays stays,
        ih (Nat.add_pos_left positive _) stayRest, List.range'_append_1]
      rfl

/-! ## Editing deletions -/

abbrev Deletion := { run : Run // run.kind = .deletion }

/-- A place in a list of runs that is edited: a run left alone, or deletions that give way to
others. Either of their lists may be empty. -/
inductive Edit where
  | keep (run : Run)
  | replace (old new : List Deletion)

namespace Edit

def before : Edit → List Run
  | keep run => [run]
  | replace old _ => old.map Subtype.val

def after : Edit → List Run
  | keep run => [run]
  | replace _ new => new.map Subtype.val

end Edit

theorem filter_stays_deletions (deletions : List Deletion) :
    (deletions.map Subtype.val).filter Run.stays = [] := by
  rw [List.filter_eq_nil_iff, List.forall_mem_map]
  intro deletion _
  simp [Run.stays, deletion.property]

theorem filter_stays_edits (edits : List Edit) :
    (edits.flatMap Edit.before).filter Run.stays = (edits.flatMap Edit.after).filter Run.stays := by
  induction edits with
  | nil => rfl
  | cons edit rest ih =>
      rw [List.flatMap_cons, List.flatMap_cons, List.filter_append, List.filter_append, ih]
      congr 1
      cases edit with
      | keep run => rfl
      | replace old new =>
          exact (filter_stays_deletions old).trans (filter_stays_deletions new).symm

theorem totalAdvance_edits (edits : List Edit) :
    totalAdvance (edits.flatMap Edit.before) = totalAdvance (edits.flatMap Edit.after) := by
  rw [totalAdvance_eq_lineTotal, filter_stays_edits, ← totalAdvance_eq_lineTotal]

theorem getElem?_spans_edits (first : List Edit) (run : Run) (rest : List Edit) :
    ∃ span, span.run = run ∧
      (spans ((first ++ .keep run :: rest).flatMap Edit.before))[(first.flatMap
        Edit.before).length]? =
        some span ∧
      (spans ((first ++ .keep run :: rest).flatMap Edit.after))[(first.flatMap
        Edit.after).length]? =
        some span := by
  have foundBefore := getElem?_spansFrom 1 (first.flatMap Edit.before) run
    (rest.flatMap Edit.before)
  have foundAfter := getElem?_spansFrom 1 (first.flatMap Edit.after) run (rest.flatMap Edit.after)
  rw [← totalAdvance_edits] at foundAfter
  rw [List.flatMap_append, List.flatMap_append, List.flatMap_cons, List.flatMap_cons]
  exact ⟨⟨run, 1 + totalAdvance (first.flatMap Edit.before), _⟩, rfl, foundBefore, foundAfter⟩

theorem getElem?_spans {runs : List Run} {index : Nat} {run : Run}
    (isRun : runs[index]? = some run) :
    (spans runs)[index]? =
      some ⟨run, 1 + totalAdvance (runs.take index),
        1 + totalAdvance (runs.take index) + run.lineCount - 1⟩ := by
  obtain ⟨inside, same⟩ := List.getElem?_eq_some_iff.mp isRun
  have found := getElem?_spansFrom 1 (runs.take index) run (runs.drop (index + 1))
  rw [← same, List.getElem_cons_drop, List.take_append_drop,
    List.length_take_of_le (Nat.le_of_lt inside), same] at found
  exact found

end Patch

namespace Impact

open Patch (Run Edit Span spans lineTotal)

theorem added_ofRuns_filter (catalog : Catalog) (policy : PathPolicy) (runs : List Run) :
    (ofRuns catalog policy (runs.filter Run.stays)).added = (ofRuns catalog policy runs).added := by
  apply LabelSet.ext_of_mem
  intro label
  rw [mem_side_ofRuns (fun _ _ => rfl) rfl, mem_side_ofRuns (fun _ _ => rfl) rfl, spans, spans,
    ← Patch.filter_spansFrom]
  simp only [mem_added_ofSpan, List.mem_filter]
  constructor
  · rintro ⟨span, ⟨isSpan, -⟩, touches⟩
    exact ⟨span, isSpan, touches⟩
  · rintro ⟨span, isSpan, isAddition, touches⟩
    have stays : span.run.stays = true := by simp [Run.stays, isAddition]
    exact ⟨span, ⟨isSpan, stays⟩, isAddition, touches⟩

/-- The span of a run starts after the lines of the runs before it that stay in the changed file,
and is as long as the run. So the spans of runs that stay have the numbers from one on, each once.
If deletions are edited anywhere, every other run keeps its span, and the same labels are added. -/
theorem deletions_move_nothing :
    (∀ runs : List Run,
      (spans runs).length = runs.length ∧
      (∀ index run, runs[index]? = some run →
        ∃ span, (spans runs)[index]? = some span ∧ span.run = run ∧
          span.start = 1 + lineTotal ((runs.take index).filter Run.stays) ∧
          span.finish + 1 = span.start + run.lineCount) ∧
      ((spans runs).filter (·.run.stays)).flatMap Span.numbers =
        List.range' 1 (lineTotal (runs.filter Run.stays))) ∧
    ∀ edits : List Edit,
      (∀ first run rest, edits = first ++ .keep run :: rest →
        ∃ span, span.run = run ∧
          (spans (edits.flatMap Edit.before))[(first.flatMap Edit.before).length]? = some span ∧
          (spans (edits.flatMap Edit.after))[(first.flatMap Edit.after).length]? = some span) ∧
      ∀ catalog policy,
        (ofRuns catalog policy (edits.flatMap Edit.before)).added =
          (ofRuns catalog policy (edits.flatMap Edit.after)).added := by
  constructor
  · intro runs
    refine ⟨Patch.length_spansFrom 1 runs, ?_, ?_⟩
    · intro index run isRun
      refine ⟨_, Patch.getElem?_spans isRun, rfl, ?_, ?_⟩
      · rw [Patch.totalAdvance_eq_lineTotal]
      · change 1 + Patch.totalAdvance (runs.take index) + run.lineCount - 1 + 1 =
          1 + Patch.totalAdvance (runs.take index) + run.lineCount
        omega
    · rw [spans, Patch.filter_spansFrom]
      apply Patch.flatMap_numbers_spansFrom Nat.one_pos
      intro run member
      exact (List.mem_filter.mp member).2
  · intro edits
    constructor
    · intro first run rest isEdit
      rw [isEdit]
      exact Patch.getElem?_spans_edits first run rest
    · intro catalog policy
      rw [← added_ofRuns_filter, Patch.filter_stays_edits, added_ofRuns_filter]

/-- A deletion grows by two lines and is followed by an empty one; another is left alone. -/
def longerDeletion : List Edit :=
  [.keep ⟨"m", .context, "a\nb\n"⟩,
    .replace [⟨⟨"m", .deletion, "c\n"⟩, rfl⟩]
      [⟨⟨"m", .deletion, "c\nd\ne"⟩, rfl⟩, ⟨⟨"m", .deletion, ""⟩, rfl⟩],
    .keep ⟨"m", .deletion, "f\n"⟩,
    .keep ⟨"m", .addition, "\n\n"⟩]

theorem deletions_move_nothing_longerDeletion :
    (longerDeletion.flatMap Edit.before)[3]? = some ⟨"m", .addition, "\n\n"⟩ ∧
      ∃ span, (spans (longerDeletion.flatMap Edit.before))[3]? = some span ∧
        (spans (longerDeletion.flatMap Edit.after))[4]? = some span ∧
        span.start = 3 ∧ span.finish + 1 = 5 := by
  obtain ⟨ofRuns, ofEdits⟩ := deletions_move_nothing
  have isRun : (longerDeletion.flatMap Edit.before)[3]? = some ⟨"m", .addition, "\n\n"⟩ := rfl
  obtain ⟨-, located, -⟩ := ofRuns (longerDeletion.flatMap Edit.before)
  obtain ⟨span, isSpan, -, starts, ends⟩ := located 3 _ isRun
  obtain ⟨kept, -, before, after⟩ := (ofEdits longerDeletion).1 (longerDeletion.take 3) _ _ rfl
  obtain rfl : span = kept := Option.some.inj (isSpan.symm.trans before)
  rw [starts] at ends
  exact ⟨isRun, span, isSpan, after, starts, ends⟩

end Impact

end ChangeImpact
