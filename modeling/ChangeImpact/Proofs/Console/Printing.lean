import ChangeImpact.Console.Terminal
import ChangeImpact.Proofs.Text.OneLine
/-!
# Printing one item after the other

A console that writes items writes the parts of a list of them one after the other. A terminal
prints what its console writes, if it takes all of it; if not, it prints the items before the first
that fails.
-/
set_option autoImplicit false

namespace ChangeImpact

/-! ## Writing in UTF-8 -/

theorem Utf8.encodeFrom_isOk_iff (position : Nat) (text : Text) :
    (encodeFrom position text).isOk = true ↔ ∀ point ∈ text, isSurrogate point = false := by
  induction text generalizing position with
  | nil => exact iff_of_true rfl (by simp)
  | cons point rest ih =>
      cases point with
      | surrogate offset => exact iff_of_false Bool.false_ne_true (by simp [isSurrogate])
      | char c =>
          have step : (encodeFrom position (.char c :: rest)).isOk =
              (encodeFrom (position + 1) rest).isOk := by
            rw [encodeFrom]
            cases encodeFrom (position + 1) rest with
            | error error => rfl
            | ok bytes => rfl
          rw [step, ih, List.forall_mem_cons, isSurrogate]
          simp

namespace Console

variable {console : Console} {item : Item} {items others : List Item} {written : Text}

theorem writeAll_cons_eq_ok_iff :
    console.writeAll (item :: items) = .ok written ↔
      ∃ text rest, console.write item = .ok text ∧ console.writeAll items = .ok rest ∧
        written = text ++ rest := by
  rw [writeAll]
  cases console.write item with
  | error error => simp
  | ok text =>
      cases console.writeAll items with
      | error error => simp [Except.map]
      | ok rest => simp [Except.map, eq_comm]

theorem writeAll_append_eq_ok_iff :
    console.writeAll (items ++ others) = .ok written ↔
      ∃ text rest, console.writeAll items = .ok text ∧ console.writeAll others = .ok rest ∧
        written = text ++ rest := by
  induction items generalizing written with
  | nil => simp [writeAll]
  | cons item items ih =>
      rw [List.cons_append, writeAll_cons_eq_ok_iff]
      constructor
      · intro printed
        obtain ⟨text, rest, isText, isRest, rfl⟩ := printed
        obtain ⟨more, last, isMore, isLast, rfl⟩ := ih.mp isRest
        refine ⟨text ++ more, last, ?_, isLast, (List.append_assoc ..).symm⟩
        exact writeAll_cons_eq_ok_iff.mpr ⟨text, more, isText, isMore, rfl⟩
      · intro printed
        obtain ⟨first, last, isFirst, isLast, rfl⟩ := printed
        obtain ⟨text, more, isText, isMore, rfl⟩ := writeAll_cons_eq_ok_iff.mp isFirst
        refine ⟨text, more ++ last, isText, ih.mpr ⟨more, last, isMore, isLast, rfl⟩, ?_⟩
        exact List.append_assoc ..

theorem writeAll_styled {α : Type} (console : Console) (styled : α → StyledText)
    (values : List α) :
    console.writeAll (values.map fun value => .styled (styled value)) =
      .ok (values.flatMap fun value => console.print (styled value)) := by
  induction values with
  | nil => rfl
  | cons value rest ih =>
      rw [List.map_cons, writeAll_cons_eq_ok_iff]
      exact ⟨_, _, rfl, ih, List.flatMap_cons⟩

end Console

namespace Terminal

open Console (Item)

variable {terminal : Terminal} {items : List Item} {text : Text}

theorem refusal?_eq_none_iff :
    terminal.refusal? text = none ↔
      (terminal.strict = true → ∀ point ∈ text, Utf8.isSurrogate point = false) := by
  rw [← Utf8.encodeFrom_isOk_iff 0]
  unfold refusal? Utf8.encode
  cases terminal.strict with
  | false => simp
  | true =>
      cases Utf8.encodeFrom 0 text with
      | error error => simp [Except.isOk, Except.toBool]
      | ok bytes => simp [Except.isOk, Except.toBool]

theorem refusal?_append_eq_none_iff {first second : Text} :
    terminal.refusal? (first ++ second) = none ↔
      terminal.refusal? first = none ∧ terminal.refusal? second = none := by
  simp only [refusal?_eq_none_iff, List.forall_mem_append, imp_and]

theorem print_eq_ok_iff {item : Item} :
    terminal.print item = .ok text ↔
      terminal.console.write item = .ok text ∧ terminal.refusal? text = none := by
  unfold print
  cases terminal.console.write item with
  | error error => simp
  | ok other =>
      dsimp only
      constructor
      · intro printed
        split at printed
        · cases printed
        · rename_i taken
          cases printed
          exact ⟨rfl, taken⟩
      · intro written
        obtain ⟨same, taken⟩ := written
        cases same
        simp [taken]

/-- A terminal prints all of the items if and only if its console writes them as text that the
terminal takes. -/
theorem printAll_eq_none_iff :
    terminal.printAll items = (text, none) ↔
      terminal.console.writeAll items = .ok text ∧ terminal.refusal? text = none := by
  induction items generalizing text with
  | nil =>
      have taken : terminal.refusal? [] = none := refusal?_eq_none_iff.mpr (by simp)
      constructor
      · intro printed
        cases printed
        exact ⟨rfl, taken⟩
      · intro written
        cases written.1
        rfl
  | cons item items ih =>
      rw [printAll, Console.writeAll_cons_eq_ok_iff]
      constructor
      · intro printed
        split at printed
        · cases printed
        · rename_i first isFirst
          obtain ⟨isWritten, taken⟩ := print_eq_ok_iff.mp isFirst
          cases isRest : terminal.printAll items with
          | mk rest failure =>
              rw [isRest] at printed
              cases printed
              obtain ⟨restWritten, restTaken⟩ := ih.mp isRest
              exact ⟨⟨first, rest, isWritten, restWritten, rfl⟩,
                refusal?_append_eq_none_iff.mpr ⟨taken, restTaken⟩⟩
      · intro written
        obtain ⟨⟨first, rest, isFirst, isRest, rfl⟩, taken⟩ := written
        obtain ⟨firstTaken, restTaken⟩ := refusal?_append_eq_none_iff.mp taken
        rw [print_eq_ok_iff.mpr ⟨isFirst, firstTaken⟩]
        dsimp only
        rw [ih.mpr ⟨isRest, restTaken⟩]

end Terminal

end ChangeImpact
