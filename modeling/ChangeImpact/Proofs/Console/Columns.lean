import ChangeImpact.Console.Layout
import ChangeImpact.Proofs.Text.CodeRanges
/-!
# Columns, counted from the beginning

The columns of text can be counted one code point after the other, if it is kept in mind whether a
picture mark would widen what is there. Counted so, the words of a line take no more columns than
the line, and a line that fits is not broken.
-/
set_option autoImplicit false

namespace ChangeImpact

namespace Text

theorem dropEndBlanks_prefix_self (text : Text) : dropEndBlanks text <+: text := by
  rw [← List.reverse_suffix, dropEndBlanks, List.reverse_reverse]
  exact List.dropWhile_suffix _

end Text

namespace Console

open Text (inRanges isBlank)

/-! ## Tables -/

theorem notPicture_of_pointWidth_eq_zero {point : CodePoint} (noWidth : pointWidth point = 0) :
    inRanges pictureRanges point.code = false := by
  have apart : ∀ range ∈ pictureRanges.toList, ∀ distance ∈ List.range (range.2 + 1 - range.1),
      inRanges zeroWidthRanges (range.1 + distance) = false := by
    decide +kernel
  rw [← Bool.not_eq_true]
  intro isPicture
  obtain ⟨range, isRange, low, high⟩ := Text.exists_of_inRanges isPicture
  have visible := apart range isRange (point.code - range.1) (List.mem_range.mpr (by omega))
  rw [Nat.add_sub_cancel' low] at visible
  rw [pointWidth, if_neg (by simp [visible])] at noWidth
  split at noWidth <;> cases noWidth

theorem notPicture_of_isBlank {point : CodePoint} (blank : isBlank point = true) :
    inRanges pictureRanges point.code = false := by
  have apart : ∀ blanks ∈ Text.blankRanges, ∀ range ∈ pictureRanges.toList,
      blanks.2 < range.1 ∨ range.2 < blanks.1 := by
    decide +kernel
  rw [← Bool.not_eq_true]
  intro isPicture
  obtain ⟨range, isRange, low, high⟩ := Text.exists_of_inRanges isPicture
  obtain ⟨blanks, isBlanks, inside⟩ := List.any_eq_true.mp blank
  have separate := apart blanks isBlanks range isRange
  simp only [Bool.and_eq_true, decide_eq_true_eq] at inside
  omega

/-! ## Columns -/

/-- The columns that a code point other than a joiner adds, after a symbol or not. -/
def added (symbol : Bool) (point : CodePoint) : Nat :=
  if point = pictureMark then (if symbol then 1 else 0) else pointWidth point

/-- Whether there is a symbol after one more code point. -/
def symbolAfter (symbol : Bool) (point : CodePoint) : Bool :=
  if point = pictureMark then false
  else if pointWidth point = 0 then symbol
  else inRanges pictureRanges point.code

/-- The columns that text adds, after a symbol or not. -/
def columns (symbol : Bool) : Text → Nat
  | [] => 0
  | point :: rest =>
      if point = joiner then
        match rest with
        | [] => 0
        | _ :: rest => columns symbol rest
      else added symbol point + columns (symbolAfter symbol point) rest

@[simp] theorem columns_nil (symbol : Bool) : columns symbol [] = 0 :=
  rfl

@[simp] theorem columns_joiner (symbol : Bool) : columns symbol [joiner] = 0 :=
  rfl

@[simp] theorem columns_joiner_cons (symbol : Bool) (next : CodePoint) (rest : Text) :
    columns symbol (joiner :: next :: rest) = columns symbol rest :=
  rfl

theorem columns_cons {point : CodePoint} (notJoiner : point ≠ joiner) (symbol : Bool)
    (rest : Text) :
    columns symbol (point :: rest) =
      added symbol point + columns (symbolAfter symbol point) rest := by
  rw [columns.eq_def]
  exact if_neg notJoiner

/-- A joiner takes the code point after it along. -/
theorem joined_induction {motive : Text → Prop} (nil : motive []) (lone : motive [joiner])
    (joined : ∀ next rest, motive rest → motive (joiner :: next :: rest))
    (cons : ∀ point rest, point ≠ joiner → motive rest → motive (point :: rest)) (text : Text) :
    motive text := by
  induction size : text.length using Nat.strongRecOn generalizing text with
  | ind size ih =>
      cases text with
      | nil => exact nil
      | cons point rest =>
          by_cases isJoiner : point = joiner
          · rw [isJoiner]
            cases rest with
            | nil => exact lone
            | cons next rest =>
                apply joined
                exact ih rest.length (by simp at size; omega) rest rfl
          · apply cons point rest isJoiner
            exact ih rest.length (by simp at size; omega) rest rfl

/-! ## The width of text -/

theorem foldl_clusterWidth (start : Nat) (parts : List Cluster) :
    parts.foldl (fun width cluster => width + cluster.width) start =
      start + clustersWidth parts := by
  induction parts generalizing start with
  | nil => rfl
  | cons cluster rest ih =>
      rw [clustersWidth, List.foldl_cons, List.foldl_cons, ih, ih]
      omega

theorem clustersWidth_cons (cluster : Cluster) (rest : List Cluster) :
    clustersWidth (cluster :: rest) = cluster.width + clustersWidth rest := by
  rw [clustersWidth, List.foldl_cons, foldl_clusterWidth]
  omega

theorem clustersWidth_singleton (cluster : Cluster) : clustersWidth [cluster] = cluster.width :=
  Nat.zero_add _

theorem clustersWidth_clustersFrom (latest : Cluster) (symbol : Bool) (text : Text) :
    clustersWidth (clustersFrom latest symbol text) = latest.width + columns symbol text := by
  fun_induction clustersFrom latest symbol text with
  | case1 latest symbol => rw [clustersWidth_singleton, columns_nil, Nat.add_zero]
  | case2 latest symbol => rw [clustersWidth_singleton, columns_joiner, Nat.add_zero]
  | case3 latest symbol next rest ih => rw [ih, columns_joiner_cons]
  | case4 latest symbol rest notJoiner ih =>
      rw [ih, columns_cons notJoiner, added, symbolAfter, if_pos rfl, if_pos rfl]
      dsimp only
      omega
  | case5 latest symbol point rest notJoiner notMark noWidth ih =>
      rw [ih, columns_cons notJoiner, added, symbolAfter, if_neg notMark, if_neg notMark,
        if_pos noWidth, noWidth]
      dsimp only
      omega
  | case6 latest symbol point rest notJoiner notMark wide ih =>
      rw [clustersWidth_cons, ih, columns_cons notJoiner, added, symbolAfter, if_neg notMark,
        if_neg notMark, if_neg wide]

theorem clustersWidth_clusters {point : CodePoint} (notJoiner : point ≠ joiner) (rest : Text) :
    clustersWidth (clusters (point :: rest)) = columns false (point :: rest) := by
  rw [clusters, clustersWidth_clustersFrom, columns_cons notJoiner]
  by_cases isMark : point = pictureMark
  · have notPicture : inRanges pictureRanges pictureMark.code = false := by decide +kernel
    simp [added, symbolAfter, isMark, notPicture]
  · by_cases noWidth : pointWidth point = 0
    · simp [added, symbolAfter, isMark, notJoiner, noWidth,
        notPicture_of_pointWidth_eq_zero noWidth]
    · simp [added, symbolAfter, isMark, notJoiner, noWidth]

theorem textWidth_eq_columns (text : Text) : textWidth text = columns false text := by
  induction text using joined_induction with
  | nil => rfl
  | lone => rfl
  | joined next rest ih =>
      rw [textWidth, if_pos rfl, ih, columns_joiner_cons]
  | cons point rest notJoiner ih =>
      rw [← clustersWidth_clusters notJoiner]
      cases rest with
      | nil => rfl
      | cons next rest => rw [textWidth, if_neg notJoiner]

/-! ## What is before -/

theorem columns_symbol_bounds (symbol : Bool) (text : Text) :
    columns false text ≤ columns symbol text ∧ columns symbol text ≤ columns false text + 1 := by
  cases symbol with
  | false => omega
  | true =>
      induction text using joined_induction with
      | nil => simp
      | lone => simp
      | joined next rest ih => simpa using ih
      | cons point rest notJoiner ih =>
          rw [columns_cons notJoiner, columns_cons notJoiner]
          by_cases isMark : point = pictureMark
          · simp [added, symbolAfter, isMark]
            omega
          · by_cases noWidth : pointWidth point = 0
            · simpa [added, symbolAfter, isMark, noWidth] using ih
            · simp [added, symbolAfter, isMark, noWidth]

theorem columns_append_ge (symbol : Bool) (front rest : Text) :
    columns symbol front ≤ columns symbol (front ++ rest) := by
  induction front using joined_induction generalizing symbol with
  | nil => exact Nat.zero_le _
  | lone => exact Nat.zero_le _
  | joined next front ih => exact ih symbol
  | cons point front notJoiner ih =>
      rw [List.cons_append, columns_cons notJoiner, columns_cons notJoiner]
      exact Nat.add_le_add_left (ih _) _

theorem added_le_two (symbol : Bool) (point : CodePoint) : added symbol point ≤ 2 := by
  have width : pointWidth point ≤ 2 := by
    unfold pointWidth
    split
    · omega
    · split <;> omega
  unfold added
  split
  · split <;> omega
  · exact width

theorem columns_le_twice_length (symbol : Bool) (text : Text) :
    columns symbol text ≤ 2 * text.length := by
  induction text using joined_induction generalizing symbol with
  | nil => simp
  | lone => simp
  | joined next rest ih =>
      have := ih symbol
      simp only [columns_joiner_cons, List.length_cons]
      omega
  | cons point rest notJoiner ih =>
      have := ih (symbolAfter symbol point)
      have := added_le_two symbol point
      rw [columns_cons notJoiner, List.length_cons]
      omega

/-! ## Blanks -/

theorem notJoiner_of_isBlank {point : CodePoint} (blank : isBlank point = true) :
    point ≠ joiner := by
  rintro rfl
  exact absurd blank (by decide)

theorem symbolAfter_of_isBlank {point : CodePoint} (blank : isBlank point = true) :
    symbolAfter false point = false := by
  unfold symbolAfter
  split
  · rfl
  · split
    · rfl
    · exact notPicture_of_isBlank blank

theorem columns_blanks_append {blanks : Text} (areBlank : blanks.all isBlank = true) (rest : Text) :
    columns false (blanks ++ rest) = columns false blanks + columns false rest := by
  induction blanks with
  | nil => simp
  | cons point blanks ih =>
      obtain ⟨blank, others⟩ := Bool.and_eq_true _ _ ▸ areBlank
      have notJoiner := notJoiner_of_isBlank blank
      rw [List.cons_append, columns_cons notJoiner, columns_cons notJoiner,
        symbolAfter_of_isBlank blank, ih others]
      omega

def space : CodePoint := ' '

theorem columns_space (symbol : Bool) (rest : Text) :
    columns symbol (space :: rest) = 1 + columns false rest := by
  have width : pointWidth space = 1 := by decide +kernel
  have notPicture : inRanges pictureRanges space.code = false := by decide +kernel
  have notMark : space ≠ pictureMark := by decide
  rw [columns_cons (by decide), added, symbolAfter, if_neg notMark, if_neg notMark, width,
    if_neg (by decide), notPicture]

theorem columns_append_space_le (symbol : Bool) (front rest : Text) :
    columns symbol (front ++ space :: rest) ≤
      columns symbol front + columns false (space :: rest) := by
  induction front using joined_induction generalizing symbol with
  | nil => simp [columns_space]
  | lone =>
      -- The joiner takes the space along.
      have bounds := columns_symbol_bounds symbol rest
      rw [List.singleton_append, columns_joiner_cons, columns_joiner, columns_space]
      omega
  | joined next front ih => exact ih symbol
  | cons point front notJoiner ih =>
      have := ih (symbolAfter symbol point)
      rw [List.cons_append, columns_cons notJoiner, columns_cons notJoiner]
      omega

/-! ## Words -/

/-- The columns of parts, each of which is taken alone. -/
def partsWidth : List Text → Nat
  | [] => 0
  | part :: rest => textWidth part + partsWidth rest

/-- The columns of parts of which the first comes after a symbol or not. -/
def partsColumns (symbol : Bool) : List Text → Nat
  | [] => 0
  | part :: rest => columns symbol part + partsWidth rest

theorem partsColumns_false (parts : List Text) : partsColumns false parts = partsWidth parts := by
  cases parts with
  | nil => rfl
  | cons part rest => rw [partsColumns, partsWidth, textWidth_eq_columns]

theorem consGroup_parted {point : CodePoint} {group : Text} {others : List Text}
    (parted : (isBlank point && !(group.head?.any isBlank)) = true) :
    consGroup point (group :: others) = [point] :: group :: others :=
  if_pos parted

theorem consGroup_unparted {point : CodePoint} {group : Text} {others : List Text}
    (unparted : ¬(isBlank point && !(group.head?.any isBlank)) = true) :
    consGroup point (group :: others) = (point :: group) :: others :=
  if_neg unparted

theorem consGroup_notBlank {point : CodePoint} (notBlank : isBlank point = false) (group : Text)
    (others : List Text) : consGroup point (group :: others) = (point :: group) :: others :=
  consGroup_unparted (by simp [notBlank])

/-- Groups are parted only before what begins anew, with no symbol before it. -/
theorem partsColumns_groups_le (symbol : Bool) (line : Text) :
    partsColumns symbol (line.foldr consGroup []) ≤ columns symbol line := by
  induction line using joined_induction generalizing symbol with
  | nil => exact Nat.zero_le _
  | lone => exact Nat.zero_le _
  | joined next rest ih =>
      have bounds := columns_symbol_bounds symbol rest
      have whole := ih symbol
      have anew := ih false
      rw [partsColumns_false] at anew
      rw [columns_joiner_cons, List.foldr_cons, List.foldr_cons]
      generalize rest.foldr consGroup [] = groups at whole anew
      have notBlank : isBlank joiner = false := by decide
      cases groups with
      | nil => exact Nat.zero_le _
      | cons group others =>
          rw [partsColumns] at whole
          by_cases parted : (isBlank next && !(group.head?.any isBlank)) = true
          · rw [consGroup_parted parted, consGroup_notBlank notBlank _ _, partsColumns,
              columns_joiner_cons, columns_nil]
            omega
          · rw [consGroup_unparted parted, consGroup_notBlank notBlank _ _, partsColumns,
              columns_joiner_cons]
            exact whole
  | cons point rest notJoiner ih =>
      have bounds := columns_symbol_bounds (symbolAfter symbol point) rest
      have whole := ih (symbolAfter symbol point)
      have anew := ih false
      rw [partsColumns_false] at anew
      rw [columns_cons notJoiner, List.foldr_cons]
      generalize rest.foldr consGroup [] = groups at whole anew
      cases groups with
      | nil =>
          simp only [consGroup, partsColumns, partsWidth, columns_cons notJoiner, columns_nil]
          omega
      | cons group others =>
          rw [partsColumns] at whole
          by_cases parted : (isBlank point && !(group.head?.any isBlank)) = true
          · rw [consGroup_parted parted, partsColumns, columns_cons notJoiner, columns_nil]
            omega
          · rw [consGroup_unparted parted, partsColumns, columns_cons notJoiner]
            omega

theorem partsWidth_words_le (line : Text) : partsWidth (words line) ≤ textWidth line := by
  have groups := partsColumns_groups_le false line
  rw [partsColumns_false, ← textWidth_eq_columns] at groups
  unfold words
  split
  · exact Nat.zero_le _
  · rename_i group isGroup
    split
    · exact Nat.zero_le _
    · rwa [isGroup] at groups
  · rename_i first second rest areGroups
    rw [areGroups, partsWidth, partsWidth] at groups
    split
    · rename_i areBlank
      rw [partsWidth, textWidth_eq_columns, columns_blanks_append areBlank, ← textWidth_eq_columns,
        ← textWidth_eq_columns]
      omega
    · rw [partsWidth, partsWidth]
      omega

/-! ## Lines that fit -/

theorem textWidth_dropEndBlanks_le (text : Text) :
    textWidth (Text.dropEndBlanks text) ≤ textWidth text := by
  obtain ⟨blanks, isText⟩ := Text.dropEndBlanks_prefix_self text
  rw [textWidth_eq_columns, textWidth_eq_columns]
  calc
    columns false (Text.dropEndBlanks text) ≤ columns false (Text.dropEndBlanks text ++ blanks) :=
      columns_append_ge false _ _
    _ = columns false text := by rw [isText]

theorem breaks_eq_nil {width column : Nat} {parts : List Text}
    (fits : column + partsWidth parts ≤ width) (position : Nat) :
    breaks width position column parts = [] := by
  induction parts generalizing position column with
  | nil => rfl
  | cons word rest ih =>
      rw [partsWidth] at fits
      have short := textWidth_dropEndBlanks_le word
      rw [breaks, if_pos (by omega)]
      apply ih
      omega

/-- Text that a line of a width shows whole. Of text with more code points than columns, blanks at
the end may be dropped. -/
structure Fits (width : Nat) (text : Text) : Prop where
  columns : textWidth text ≤ width
  blanks : text.length ≤ width ∨ Text.dropEndBlanks text = text

theorem crop_of_fits {width : Nat} {line : StyledText} (fits : Fits width line.text) :
    crop width line = line := by
  have kept :
      line.keep (line.text.length -
        min (line.text.length - (Text.dropEndBlanks line.text).length)
          (line.text.length - width)) = line := by
    rw [StyledText.keep, if_pos]
    rcases fits.blanks with short | noBlanks
    · omega
    · rw [noBlanks]
      omega
  simp only [crop, kept]
  rw [if_pos fits.columns]

theorem wrap_of_fits {width : Nat} {line : StyledText} (fits : Fits width line.text) :
    wrap width line = [line] := by
  have unbroken : breaks width 0 0 (words line.text) = [] := by
    apply breaks_eq_nil
    have := partsWidth_words_le line.text
    have := fits.columns
    omega
  rw [wrap, unbroken, StyledText.divide, if_pos List.isEmpty_nil, List.map_singleton,
    crop_of_fits fits]

end Console

end ChangeImpact
