import ChangeImpact.Patch.Run
import ChangeImpact.Proofs.Text.Lines
/-!
# How many lines a run has

Joining the lines of a text gives the text back, with the line end put on that a last line may lack.
So a text has as many lines as line feeds, and one more if it ends inside a line. All line numbers
rest on this count, and no code point but the line feed has a say in it.
-/
set_option autoImplicit false

namespace ChangeImpact

namespace Lines

variable {α : Type}

/-- The list is empty or has the separator at its end: its last line is not left open. -/
def Ended (separator : α) (symbols : List α) : Prop :=
  symbols = [] ∨ symbols.getLast? = some separator

theorem join_eq_intercalate_append (separator : α) {lines : List (List α)} (nonEmpty : lines ≠ []) :
    join separator lines = [separator].intercalate lines ++ [separator] := by
  induction lines with
  | nil => exact absurd rfl nonEmpty
  | cons line rest ih =>
      cases rest with
      | nil => simp [join]
      | cons next more =>
          rw [join_cons, ih (by simp), List.intercalate_cons_cons]
          simp

theorem ended_append_iff (separator : α) (front : List α) {rest : List α} (nonEmpty : rest ≠ []) :
    Ended separator (front ++ rest) ↔ rest.getLast? = some separator := by
  obtain ⟨others, last, rfl⟩ := List.eq_nil_or_concat rest |>.resolve_left nonEmpty
  simp [Ended, ← List.append_assoc]

theorem ended_map_iff {separator : α} {change : α → α}
    (keeps : ∀ symbol, change symbol = separator ↔ symbol = separator) (symbols : List α) :
    Ended separator (symbols.map change) ↔ Ended separator symbols := by
  simp only [Ended, List.map_eq_nil_iff, List.getLast?_map, Option.map_eq_some_iff, keeps]
  simp

variable [DecidableEq α]

instance (separator : α) (symbols : List α) : Decidable (Ended separator symbols) :=
  inferInstanceAs (Decidable (_ ∨ _))

theorem split_of_ended {separator : α} {symbols : List α} (ended : Ended separator symbols) :
    split separator symbols = (pieces separator symbols).dropLast :=
  if_pos ((getLast?_pieces_iff separator symbols).mpr ended)

theorem split_of_not_ended {separator : α} {symbols : List α} (isOpen : ¬ Ended separator symbols) :
    split separator symbols = pieces separator symbols :=
  if_neg (mt (getLast?_pieces_iff separator symbols).mp isOpen)

theorem join_split (separator : α) (symbols : List α) :
    join separator (split separator symbols) =
      if Ended separator symbols then symbols else symbols ++ [separator] := by
  split
  · rename_i ended
    exact join_split_of_ended ((getLast?_pieces_iff separator symbols).mpr ended)
  · rename_i isOpen
    rw [split_of_not_ended isOpen,
      join_eq_intercalate_append separator (pieces_ne_nil separator symbols), intercalate_pieces]

theorem length_pieces (separator : α) (symbols : List α) :
    (pieces separator symbols).length = symbols.count separator + 1 := by
  induction symbols with
  | nil => rfl
  | cons symbol rest ih =>
      by_cases same : symbol = separator
      · rw [same, pieces_cons_self, List.length_cons, ih, List.count_cons_self]
      · obtain ⟨piece, others, shape, shapeCons⟩ := pieces_cons_of_ne same rest
        rw [shapeCons, List.count_cons_of_ne same, ← ih, shape, List.length_cons, List.length_cons]

theorem length_split (separator : α) (symbols : List α) :
    (split separator symbols).length =
      symbols.count separator + if Ended separator symbols then 0 else 1 := by
  split
  · rename_i ended
    rw [split_of_ended ended, List.length_dropLast, length_pieces, Nat.add_sub_cancel, Nat.add_zero]
  · rename_i isOpen
    rw [split_of_not_ended isOpen, length_pieces]

theorem count_map_of_keeps {separator : α} {change : α → α}
    (keeps : ∀ symbol, change symbol = separator ↔ symbol = separator) (symbols : List α) :
    (symbols.map change).count separator = symbols.count separator := by
  rw [List.count_eq_countP, List.countP_map, List.count_eq_countP]
  apply List.countP_congr
  intro symbol _
  simp [keeps]

theorem length_split_map {separator : α} {change : α → α}
    (keeps : ∀ symbol, change symbol = separator ↔ symbol = separator) (symbols : List α) :
    (split separator (symbols.map change)).length = (split separator symbols).length := by
  rw [length_split, length_split, count_map_of_keeps keeps]
  simp only [ended_map_iff keeps]

/-- A symbol that is no separator makes one more line only where it opens the last one. -/
theorem length_split_insert {separator symbol : α} (different : symbol ≠ separator)
    (front rest : List α) :
    (split separator (front ++ symbol :: rest)).length =
      (split separator (front ++ rest)).length +
        if rest = [] ∧ Ended separator front then 1 else 0 := by
  rw [length_split, length_split, List.count_append, List.count_append,
    List.count_cons_of_ne different]
  cases rest with
  | nil =>
      have isOpen : ¬ Ended separator (front ++ [symbol]) := by
        rw [ended_append_iff separator front (by simp)]
        simp [different]
      rw [if_neg isOpen, List.append_nil]
      by_cases ended : Ended separator front <;> simp [ended]
  | cons next more =>
      have sameEnd : Ended separator (front ++ symbol :: next :: more) ↔
          Ended separator (front ++ next :: more) := by
        rw [ended_append_iff separator front (by simp), ended_append_iff separator front (by simp),
          List.getLast?_cons_cons]
      simp [sameEnd]

end Lines

namespace Patch.Run

/-- Lines without line feeds come back from the content that joins them, and the lines of any
content join to it, up to a line end that its last line lacks. Hence the lines are counted by line
feeds; any other code point can stand for any other, and can be put in anywhere but at the end of a
content without an open line. -/
theorem lines_invert_join :
    (∀ path kind lines, (∀ line ∈ lines, .char '\n' ∉ line) →
      (⟨path, kind, Lines.join (.char '\n') lines⟩ : Run).lines = lines) ∧
    ∀ run : Run,
      Lines.join (.char '\n') run.lines =
        (if Lines.Ended (.char '\n') run.content then run.content
          else run.content ++ [.char '\n']) ∧
      run.lineCount = run.content.count (.char '\n') +
        (if Lines.Ended (.char '\n') run.content then 0 else 1) ∧
      (∀ change : CodePoint → CodePoint, (∀ point, change point = .char '\n' ↔ point = .char '\n') →
        { run with content := run.content.map change }.lineCount = run.lineCount) ∧
      ∀ front point rest, run.content = front ++ rest → point ≠ .char '\n' →
        { run with content := front ++ point :: rest }.lineCount =
          run.lineCount + (if rest = [] ∧ Lines.Ended (.char '\n') front then 1 else 0) := by
  refine ⟨fun path kind lines whole => Lines.split_join whole, fun run => ⟨Lines.join_split _ _,
    Lines.length_split _ _, fun change keeps => Lines.length_split_map keeps _, ?_⟩⟩
  intro front point rest isContent different
  rw [lineCount, lineCount, lines, lines, isContent]
  exact Lines.length_split_insert different front rest

/-- An empty line, a line with a return at its end, and a last line left open. -/
def openEnded : Run := ⟨"m", .addition, "\na\r\nb"⟩

def feedForReturn (point : CodePoint) : CodePoint :=
  if point = '\r' then '\x0c' else point

/-- No line ends with the return, the form feed put in its place or the line separator put behind
it. -/
theorem lines_invert_openEnded :
    (∀ line ∈ [[], Text.ofString "a\r", Text.ofString "b"], .char '\n' ∉ line) ∧
      (⟨"m", .addition, "\na\r\nb\n"⟩ : Run).lines = [[], "a\r", "b"] ∧
      { openEnded with content := openEnded.content.map feedForReturn }.lineCount = 3 ∧
      { openEnded with content := "\na\r\u2028\nb" }.lineCount = 3 := by
  obtain ⟨linesOfJoin, ofRun⟩ := lines_invert_join
  obtain ⟨-, -, exchanged, insertion⟩ := ofRun openEnded
  have whole : ∀ line ∈ [[], Text.ofString "a\r", Text.ofString "b"], .char '\n' ∉ line := by
    decide +kernel
  have keeps : ∀ point, feedForReturn point = .char '\n' ↔ point = .char '\n' := by
    intro point
    unfold feedForReturn
    split
    · rename_i isReturn
      rw [isReturn]
      decide
    · exact Iff.rfl
  exact ⟨whole, linesOfJoin "m" .addition _ whole, exchanged feedForReturn keeps,
    insertion "\na\r" (.char '\u2028') "\nb" rfl (by decide)⟩

end Patch.Run

end ChangeImpact
