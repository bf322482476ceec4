import ChangeImpact.Text.Lines
/-!
# Splitting and joining

Lines that hold no separator come back from splitting what joins them, and a list comes back from
its pieces with the separator between each two of them.
-/
set_option autoImplicit false

namespace ChangeImpact.Lines

variable {α : Type}

@[simp] theorem join_cons (separator : α) (line : List α) (lines : List (List α)) :
    join separator (line :: lines) = line ++ separator :: join separator lines := by
  simp [join]

theorem join_replicate_nil (separator : α) (count : Nat) :
    join separator (List.replicate count []) = List.replicate count separator := by
  induction count with
  | zero => rfl
  | succ count ih => rw [List.replicate_succ, join_cons, ih, List.nil_append, List.replicate_succ]

theorem suffix_intercalate_append (separator : α) {first second : List (List α)}
    (nonEmpty : first ≠ []) (others : second ≠ []) :
    separator :: [separator].intercalate second <:+ [separator].intercalate (first ++ second) := by
  induction first with
  | nil => exact absurd rfl nonEmpty
  | cons piece rest ih =>
      cases rest with
      | nil =>
          obtain ⟨next, more, rfl⟩ := List.exists_cons_of_ne_nil others
          rw [List.singleton_append, List.intercalate_cons_cons, List.append_assoc]
          exact List.suffix_append piece _
      | cons next more =>
          rw [List.cons_append, List.cons_append, List.intercalate_cons_cons]
          exact (ih (by simp)).trans (List.suffix_append _ _)

theorem intercalate_append_nil (separator : α) (lines : List (List α)) :
    [separator].intercalate (lines ++ [[]]) = join separator lines := by
  induction lines with
  | nil => rfl
  | cons line rest ih =>
      rw [join_cons, ← ih]
      cases rest with
      | nil => simp
      | cons next more => simp [List.intercalate_cons_cons]

theorem getLast?_join (separator : α) {lines : List (List α)} (nonEmpty : lines ≠ []) :
    (join separator lines).getLast? = some separator := by
  rw [← List.dropLast_concat_getLast nonEmpty]
  simp [join]

/-- Where a symbol first stands, what is before it and what is after it can be told apart. -/
theorem append_cons_inj {symbol : α} {front otherFront rest otherRest : List α}
    (isFirst : symbol ∉ front) (isOtherFirst : symbol ∉ otherFront)
    (same : front ++ symbol :: rest = otherFront ++ symbol :: otherRest) :
    front = otherFront ∧ rest = otherRest := by
  induction front generalizing otherFront with
  | nil =>
      cases otherFront with
      | nil => exact ⟨rfl, (List.cons.inj same).2⟩
      | cons other others =>
          rw [(List.cons.inj same).1] at isOtherFirst
          exact absurd List.mem_cons_self isOtherFirst
  | cons head front ih =>
      cases otherFront with
      | nil =>
          rw [(List.cons.inj same).1] at isFirst
          exact absurd List.mem_cons_self isFirst
      | cons other others =>
          obtain ⟨sameHead, sameTail⟩ := List.cons.inj same
          obtain ⟨sameFront, sameRest⟩ := ih (fun member => isFirst (List.mem_cons_of_mem _ member))
            (fun member => isOtherFirst (List.mem_cons_of_mem _ member)) sameTail
          exact ⟨by rw [sameHead, sameFront], sameRest⟩

variable [DecidableEq α]

theorem consPiece_append (separator symbol : α) {first : List (List α)} (nonEmpty : first ≠ [])
    (second : List (List α)) :
    consPiece separator symbol (first ++ second) = consPiece separator symbol first ++ second := by
  cases first with
  | nil => exact absurd rfl nonEmpty
  | cons piece rest =>
      rw [List.cons_append, consPiece, consPiece]
      split <;> rfl

theorem pieces_cons_self (separator : α) (rest : List α) :
    pieces separator (separator :: rest) = [] :: pieces separator rest := by
  rw [pieces_cons]
  exact if_pos rfl

theorem pieces_cons_of_ne {separator symbol : α} (different : symbol ≠ separator) (rest : List α) :
    ∃ piece others, pieces separator rest = piece :: others ∧
      pieces separator (symbol :: rest) = (symbol :: piece) :: others := by
  obtain ⟨piece, others, shape⟩ := List.exists_cons_of_ne_nil (pieces_ne_nil separator rest)
  refine ⟨piece, others, shape, ?_⟩
  rw [pieces_cons, shape, consPiece, if_neg different]

theorem pieces_append_cons (separator : α) (left right : List α) :
    pieces separator (left ++ separator :: right) = pieces separator left ++
      pieces separator right := by
  induction left with
  | nil => exact pieces_cons_self separator right
  | cons symbol rest ih =>
      rw [List.cons_append, pieces_cons, pieces_cons, ih,
        consPiece_append separator symbol (pieces_ne_nil separator rest)]

theorem pieces_of_notMem {separator : α} {line : List α} (whole : separator ∉ line) :
    pieces separator line = [line] := by
  induction line with
  | nil => rfl
  | cons symbol rest ih =>
      obtain ⟨different, wholeRest⟩ := not_or.mp (mt List.mem_cons.mpr whole)
      rw [pieces_cons, ih wholeRest, consPiece, if_neg (Ne.symm different)]

theorem flatMap_pieces_of_notMem {separator : α} {lines : List (List α)}
    (whole : ∀ line ∈ lines, separator ∉ line) : lines.flatMap (pieces separator) = lines := by
  induction lines with
  | nil => rfl
  | cons line rest ih =>
      rw [List.flatMap_cons, pieces_of_notMem (whole line (by simp)),
        ih fun other member => whole other (by simp [member]), List.singleton_append]

theorem pieces_join_eq_flatMap (separator : α) (lines : List (List α)) :
    pieces separator (join separator lines) = lines.flatMap (pieces separator) ++ [[]] := by
  induction lines with
  | nil => rfl
  | cons line rest ih =>
      rw [join_cons, pieces_append_cons, ih, List.flatMap_cons, List.append_assoc]

theorem split_join_eq_flatMap (separator : α) (lines : List (List α)) :
    split separator (join separator lines) = lines.flatMap (pieces separator) := by
  rw [split, pieces_join_eq_flatMap]
  simp

theorem split_join {separator : α} {lines : List (List α)}
    (whole : ∀ line ∈ lines, separator ∉ line) :
    split separator (join separator lines) = lines := by
  rw [split_join_eq_flatMap, flatMap_pieces_of_notMem whole]

/-- What holds no separator lies in the first piece of what it begins. -/
theorem exists_pieces_append {separator : α} {front : List α} (whole : separator ∉ front)
    (rest : List α) :
    ∃ more others, pieces separator (front ++ rest) = (front ++ more) :: others := by
  induction front with
  | nil =>
      obtain ⟨piece, others, shape⟩ := List.exists_cons_of_ne_nil (pieces_ne_nil separator rest)
      exact ⟨piece, others, shape⟩
  | cons symbol front ih =>
      obtain ⟨different, wholeFront⟩ := not_or.mp (mt List.mem_cons.mpr whole)
      obtain ⟨more, others, shape⟩ := ih wholeFront
      refine ⟨more, others, ?_⟩
      rw [List.cons_append, pieces_cons, shape, consPiece, if_neg (Ne.symm different),
        List.cons_append]

theorem intercalate_consPiece (separator symbol : α) {all : List (List α)} (nonEmpty : all ≠ []) :
    [separator].intercalate (consPiece separator symbol all) = symbol ::
    [separator].intercalate all := by
  cases all with
  | nil => exact absurd rfl nonEmpty
  | cons piece rest =>
      by_cases same : symbol = separator
      · rw [consPiece, if_pos same, List.intercalate_cons_cons, same]
        rfl
      · rw [consPiece, if_neg same]
        cases rest with
        | nil => simp
        | cons next others => simp

theorem intercalate_pieces (separator : α) (symbols : List α) :
    [separator].intercalate (pieces separator symbols) = symbols := by
  induction symbols with
  | nil => rfl
  | cons symbol rest ih =>
      rw [pieces_cons, intercalate_consPiece separator symbol (pieces_ne_nil separator rest), ih]

theorem notMem_of_mem_pieces {separator : α} {symbols piece : List α}
    (member : piece ∈ pieces separator symbols) : separator ∉ piece := by
  induction symbols generalizing piece with
  | nil =>
      rw [List.mem_singleton.mp member]
      exact List.not_mem_nil
  | cons symbol rest ih =>
      by_cases same : symbol = separator
      · rw [same, pieces_cons_self] at member
        rcases List.mem_cons.mp member with rfl | inRest
        · exact List.not_mem_nil
        · exact ih inRest
      · obtain ⟨first, others, shape, shapeCons⟩ := pieces_cons_of_ne same rest
        rw [shapeCons] at member
        rcases List.mem_cons.mp member with rfl | inOthers
        · rw [List.mem_cons, not_or]
          exact ⟨Ne.symm same, ih (shape ▸ List.mem_cons_self)⟩
        · exact ih (shape ▸ List.mem_cons_of_mem _ inOthers)

theorem pieces_intercalate {separator : α} {lines : List (List α)} (nonEmpty : lines ≠ [])
    (whole : ∀ line ∈ lines, separator ∉ line) :
    pieces separator ([separator].intercalate lines) = lines := by
  induction lines with
  | nil => exact absurd rfl nonEmpty
  | cons line rest ih =>
      have wholeLine := pieces_of_notMem (whole line (by simp))
      cases rest with
      | nil => simpa using wholeLine
      | cons next more =>
          rw [List.intercalate_cons_cons, List.append_assoc, List.singleton_append,
            pieces_append_cons, wholeLine, ih (by simp) fun other member =>
              whole other (by simp [member]),
            List.singleton_append]

/-- What ends with the separator, or is empty, is the join of its lines. -/
theorem join_split_of_ended {separator : α} {symbols : List α}
    (ended : (pieces separator symbols).getLast? = some []) :
    join separator (split separator symbols) = symbols := by
  obtain ⟨front, shape⟩ := List.getLast?_eq_some_iff.mp ended
  rw [split, if_pos ended, shape, List.dropLast_concat, ← intercalate_append_nil, ← shape,
    intercalate_pieces]

theorem getLast?_pieces_iff (separator : α) (symbols : List α) :
    (pieces separator symbols).getLast? = some [] ↔
      symbols = [] ∨ symbols.getLast? = some separator := by
  constructor
  · intro ended
    have joined := join_split_of_ended ended
    by_cases noLines : split separator symbols = []
    · left
      rw [← joined, noLines]
      rfl
    · right
      rw [← joined]
      exact getLast?_join separator noLines
  · rintro (rfl | ended)
    · rfl
    · obtain ⟨front, rfl⟩ := List.getLast?_eq_some_iff.mp ended
      rw [pieces_append_cons, pieces_nil, List.getLast?_concat]

/-- A line with its end kept holds the separator nowhere else. -/
theorem notMem_dropLast_of_mem_splitKeepingEnds {separator : α} {symbols line : List α}
    (member : line ∈ splitKeepingEnds separator symbols) : separator ∉ line.dropLast := by
  induction symbols generalizing line with
  | nil => cases member
  | cons symbol rest ih =>
      rw [splitKeepingEnds_cons] at member
      unfold consKept at member
      split at member
      · rcases List.mem_cons.mp member with rfl | inRest
        · exact List.not_mem_nil
        · exact ih inRest
      · rename_i different
        split at member
        · rw [List.mem_singleton.mp member]
          exact List.not_mem_nil
        · rename_i first others shape
          rcases List.mem_cons.mp member with rfl | inOthers
          · have tail := ih (shape ▸ List.mem_cons_self)
            cases first with
            | nil => exact List.not_mem_nil
            | cons next more =>
                rw [List.dropLast_cons_cons, List.mem_cons, not_or]
                exact ⟨Ne.symm different, tail⟩
          · exact ih (shape ▸ List.mem_cons_of_mem _ inOthers)

end ChangeImpact.Lines
