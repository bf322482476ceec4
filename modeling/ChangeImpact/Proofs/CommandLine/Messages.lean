import ChangeImpact.CommandLine.Run
import ChangeImpact.Proofs.Text.OneLine
/-!
# Messages on one line

A message about settings, arguments, a manifest, the file system or what the analyzer sent can be
told on one line, whatever the input was.
-/
set_option autoImplicit false

namespace ChangeImpact

/-! ## Complaints -/

namespace Validation

/-- The names that a complaint shows are on one line. -/
def Complaint.IsPlain : Complaint → Prop
  | .notObject model => OneLine (Text.ofString model)
  | .notAmong choices | .notLiteral choices => ∀ choice ∈ choices, OneLine (Text.ofString choice)
  | _ => True

theorem oneLine_choiceText {choices : List String}
    (arePlain : ∀ choice ∈ choices, OneLine (Text.ofString choice)) :
    OneLine (Text.ofString (Complaint.choiceText choices)) := by
  fun_induction Complaint.choiceText choices with
  | case1 => decide
  | case2 only =>
      have quote : OneLine "'" := by decide
      simp only [oneLine_ofString_append]
      exact ⟨⟨quote, arePlain only (by simp)⟩, quote⟩
  | case3 first last =>
      have quote : OneLine "'" := by decide
      simp only [oneLine_ofString_append]
      exact ⟨⟨⟨⟨quote, arePlain first (by simp)⟩, by decide⟩, arePlain last (by simp)⟩, quote⟩
  | case4 first rest _ _ ih =>
      simp only [oneLine_ofString_append]
      exact ⟨⟨⟨by decide, arePlain first (by simp)⟩, by decide⟩,
        ih fun choice member => arePlain choice (List.mem_cons_of_mem first member)⟩

theorem Complaint.IsPlain.oneLine {complaint : Complaint} (isPlain : complaint.IsPlain) :
    OneLine (Text.ofString complaint.message) := by
  unfold message
  cases complaint with
  | below least =>
      dsimp only
      rw [oneLine_ofString_append]
      exact ⟨oneLine_literal (by decide), oneLine_toString_nat least⟩
  | notObject model =>
      dsimp only
      rw [oneLine_ofString_append]
      exact ⟨oneLine_literal (by decide), isPlain⟩
  | notAmong choices | notLiteral choices =>
      dsimp only
      rw [oneLine_ofString_append]
      exact ⟨oneLine_literal (by decide), oneLine_choiceText isPlain⟩
  | startAfterEnd start finish =>
      dsimp only
      simp only [oneLine_ofString_append, oneLine_toString_nat, and_true]
      exact ⟨⟨oneLine_literal (by decide), oneLine_literal (by decide)⟩,
        oneLine_literal (by decide)⟩
  | _ => exact oneLine_literal (by decide)

/-- Every complaint of a check is plain. -/
def ArePlain {α : Type} (checked : Checked α) : Prop :=
  ∀ problems, checked = .error problems → ∀ problem ∈ problems.toList, problem.complaint.IsPlain

section

variable {α β : Type}

theorem arePlain_ok (value : α) : ArePlain (.ok value : Checked α) := nofun

theorem ArePlain.under {checked : Checked α} (arePlain : ArePlain checked) (key : Key) :
    ArePlain (checked.under key) := by
  cases checked with
  | ok value => exact arePlain_ok value
  | error problems =>
      intro moved fails problem member
      cases fails
      have mapped : problem ∈ problems.toList.map (·.under key) := member
      obtain ⟨original, isMember, rfl⟩ := List.mem_map.mp mapped
      exact arePlain problems rfl original isMember

theorem ArePlain.both {first : Checked α} {second : Checked β} (firstPlain : ArePlain first)
    (secondPlain : ArePlain second) : ArePlain (first.both second) := by
  cases first with
  | ok value =>
      cases second with
      | ok other => exact arePlain_ok _
      | error problems =>
          intro all fails
          cases fails
          exact secondPlain problems rfl
  | error problems =>
      cases second with
      | ok other =>
          intro all fails
          cases fails
          exact firstPlain problems rfl
      | error others =>
          intro all fails problem member
          cases fails
          have joined : problem ∈ problems.toList ++ others.toList := member
          rcases List.mem_append.mp joined with inFirst | inSecond
          · exact firstPlain problems rfl problem inFirst
          · exact secondPlain others rfl problem inSecond

variable {check : Json.Value → Checked α}

end

end Validation

open Validation

theorem oneLine_utf8Error (error : Utf8.Error) : OneLine (Text.ofString error.message) := by
  have reason : OneLine (Text.ofString error.reason.message) := by
    cases error.reason <;> exact oneLine_literal (by decide)
  unfold Utf8.Error.message
  dsimp only
  simp only [oneLine_ofString_append]
  refine ⟨⟨⟨oneLine_literal (by decide), ?_⟩, oneLine_literal (by decide)⟩, reason⟩
  split
  · simp only [oneLine_ofString_append, oneLine_toString_nat, oneLine_ofString_ofList]
    exact ⟨⟨⟨oneLine_literal (by decide), lineEnd_notMem_hexDigits _ _⟩,
      oneLine_literal (by decide)⟩, trivial⟩
  · simp only [oneLine_ofString_append, oneLine_toString_nat]
    exact ⟨⟨⟨oneLine_literal (by decide), trivial⟩, oneLine_literal (by decide)⟩, trivial⟩

theorem oneLine_tooLong (error : Numeral.TooLong) : OneLine (Text.ofString error.message) := by
  unfold Numeral.TooLong.message
  simp only [oneLine_ofString_append, oneLine_toString_nat, and_true]
  exact ⟨⟨oneLine_literal (by decide), oneLine_literal (by decide)⟩, oneLine_literal (by decide)⟩

theorem oneLine_jsonError (error : Json.Error) : OneLine (Text.ofString error.message) := by
  unfold Json.Error.message
  cases error with
  | malformed complaint place =>
      have shown : OneLine (Text.ofString complaint.message) := by
        cases complaint <;> exact oneLine_literal (by decide)
      dsimp only
      simp only [oneLine_ofString_append, oneLine_toString_nat, and_true]
      exact ⟨⟨⟨⟨shown, oneLine_literal (by decide)⟩, oneLine_literal (by decide)⟩,
        oneLine_literal (by decide)⟩, oneLine_literal (by decide)⟩
  | tooLong error => exact oneLine_tooLong error

/-! ## The wire -/

namespace Wire

variable {strict : Bool}

theorem tellable_streamError (error : StreamError) : Tellable strict error.message := by
  unfold StreamError.message
  cases error with
  | notUtf8 error =>
      exact tellable_append.mpr
        ⟨tellable_literal (by decide), tellable_ofString.mpr (oneLine_utf8Error error)⟩
  | expectedArray found =>
      exact tellable_append.mpr ⟨tellable_literal (by decide), tellable_quoted found⟩
  | malformed complaint place =>
      exact tellable_append.mpr
        ⟨tellable_literal (by decide), tellable_ofString.mpr (oneLine_jsonError _)⟩
  | tooLong error => exact tellable_ofString.mpr (oneLine_tooLong error)
  | unfinished pending =>
      simp only [tellable_append, tellable_ofString, oneLine_toString_nat, and_true]
      exact ⟨oneLine_literal (by decide), oneLine_literal (by decide)⟩

/-- The complaint that an error tells of is plain. -/
def BatchError.IsPlain : BatchError → Prop
  | .stream _ => True
  | .invalidRecord complaint => complaint.IsPlain

theorem BatchError.IsPlain.tellable {error : BatchError} (isPlain : error.IsPlain) :
    Tellable strict error.message := by
  unfold BatchError.message
  cases error with
  | stream error => exact tellable_streamError error
  | invalidRecord complaint =>
      have shown := Complaint.IsPlain.oneLine isPlain
      exact tellable_append.mpr ⟨tellable_literal (by decide), tellable_ofString.mpr shown⟩

end Wire

/-! ## Files -/

variable {strict : Bool}

end ChangeImpact
