import ChangeImpact.Console.Basic
import ChangeImpact.Proofs.Console.Columns
import Mathlib.Data.List.Sort
/-!
# What is seen on a console

Codes are written around the segments of a line and are not seen. The segments of a line make up its
text, so a console with room for a line shows its text, in whatever styles.
-/
set_option autoImplicit false

namespace ChangeImpact

namespace Console

/-! ## Codes -/

/-- What is seen of text: all but the codes, each of which goes from an escape character to the next
`m`. -/
def seenFrom (inCode : Bool) : Text → Text
  | [] => []
  | point :: rest =>
      if inCode then seenFrom (point ≠ 'm') rest
      else if point = escape then seenFrom true rest
      else point :: seenFrom false rest

def seen (written : Text) : Text :=
  seenFrom false written

/-- What is written is seen as a text, whatever is written after it. -/
def Shows (written text : Text) : Prop :=
  ∀ rest, seen (written ++ rest) = text ++ seen rest

theorem seen_of_shows {written text : Text} (shows : Shows written text) : seen written = text := by
  have alone := shows []
  rwa [List.append_nil, show seen [] = [] from rfl, List.append_nil] at alone

theorem shows_nil : Shows [] [] := by
  intro rest
  rfl

theorem Shows.append {first second text other : Text} (shows : Shows first text)
    (next : Shows second other) :
    Shows (first ++ second) (text ++ other) := by
  intro rest
  rw [List.append_assoc, shows, next, List.append_assoc]

theorem shows_flatMap {α : Type} {items : List α} {write text : α → Text}
    (shows : ∀ item ∈ items, Shows (write item) (text item)) :
    Shows (items.flatMap write) (items.flatMap text) := by
  induction items with
  | nil => exact shows_nil
  | cons item rest ih =>
      rw [List.flatMap_cons, List.flatMap_cons]
      apply (shows item List.mem_cons_self).append
      apply ih
      intro other member
      exact shows other (List.mem_cons_of_mem _ member)

theorem shows_self {text : Text} (noEscape : .char escape ∉ text) : Shows text text := by
  intro rest
  induction text with
  | nil => rfl
  | cons point text ih =>
      obtain ⟨different, others⟩ := not_or.mp (mt List.mem_cons.mpr noEscape)
      rw [List.cons_append, List.cons_append, ← ih others]
      exact if_neg (Ne.symm different)

theorem seenFrom_code {code : List Char} (noEnd : 'm' ∉ code) (rest : Text) :
    seenFrom true (Text.ofChars (code ++ ['m']) ++ rest) = seen rest := by
  induction code with
  | nil => rfl
  | cons c code ih =>
      obtain ⟨different, others⟩ := not_or.mp (mt List.mem_cons.mpr noEnd)
      have goesOn : decide (CodePoint.char c ≠ .char 'm') = true := by simpa using Ne.symm different
      have step : seenFrom true (Text.ofChars (c :: (code ++ ['m'])) ++ rest) =
          seenFrom (CodePoint.char c ≠ .char 'm') (Text.ofChars (code ++ ['m']) ++ rest) := rfl
      rw [List.cons_append, step, goesOn, ih others]

theorem shows_code {code : List Char} (noEnd : 'm' ∉ code) :
    Shows (Text.ofChars (escape :: code ++ ['m'])) [] := by
  intro rest
  exact seenFrom_code noEnd rest

/-! ## The codes of a style -/

theorem isDigit_of_mem_toString {number : Nat} {c : Char} (member : c ∈ (toString number).toList) :
    c.isDigit = true := by
  have same : (toString number).toList = Nat.toDigits 10 number := Nat.toList_repr
  rw [same] at member
  exact Nat.isDigit_of_mem_toDigits (by decide) (by decide) member

theorem isDigit_of_mem_colourCodes {ground : Bool} {colour : Colour} {code : String} {c : Char}
    (isCode : code ∈ colour.codes ground) (member : c ∈ code.toList) : c.isDigit = true := by
  have written (number : Nat) (same : code = toString number) : c.isDigit = true := by
    rw [same] at member
    exact isDigit_of_mem_toString member
  have two : "2" = toString 2 := by decide
  have five : "5" = toString 5 := by decide
  unfold Colour.codes at isCode
  dsimp only at isCode
  rw [two, five] at isCode
  split at isCode
  · exact written _ (List.mem_singleton.mp isCode)
  · split at isCode
    · exact written _ (List.mem_singleton.mp isCode)
    · split at isCode
      · exact written _ (List.mem_singleton.mp isCode)
      · simp only [List.mem_cons, List.not_mem_nil, or_false] at isCode
        rcases isCode with same | same | same <;> exact written _ same
  · simp only [List.mem_cons, List.not_mem_nil, or_false] at isCode
    rcases isCode with same | same | same | same | same <;> exact written _ same

theorem isDigit_of_mem_styleCodes {style : Style} {code : String} {c : Char}
    (isCode : code ∈ style.codes) (member : c ∈ code.toList) : c.isDigit = true := by
  have effects : ∀ effect ∈ Effect.all, effect.2.2.toList.all Char.isDigit = true := by decide
  rcases List.mem_append.mp isCode with ofEffect | ofColours
  · obtain ⟨effect, isEffect, rfl⟩ := List.mem_map.mp ofEffect
    exact List.all_eq_true.mp (effects effect (List.mem_of_mem_filter isEffect)) c member
  · have ofColour (ground : Bool) (colour : Option Colour)
        (inside : code ∈ (colour.map (Colour.codes ground)).getD []) : c.isDigit = true := by
      cases colour with
      | none => cases inside
      | some colour => exact isDigit_of_mem_colourCodes inside member
    rcases List.mem_append.mp ofColours with ofText | ofGround
    · exact ofColour _ _ ofText
    · exact ofColour _ _ ofGround

theorem mem_intercalate {α : Type} {separator : List α} {parts : List (List α)} {item : α}
    (member : item ∈ separator.intercalate parts) :
    item ∈ separator ∨ ∃ part ∈ parts, item ∈ part := by
  induction parts with
  | nil => cases member
  | cons part rest ih =>
      cases rest with
      | nil => exact .inr ⟨part, List.mem_cons_self, by simpa using member⟩
      | cons next more =>
          rw [List.intercalate_cons_cons, List.append_assoc, List.mem_append,
            List.mem_append] at member
          rcases member with inPart | inSeparator | inRest
          · exact .inr ⟨part, List.mem_cons_self, inPart⟩
          · exact .inl inSeparator
          · rcases ih inRest with inSeparator | ⟨other, isOther, inOther⟩
            · exact .inl inSeparator
            · exact .inr ⟨other, List.mem_cons_of_mem _ isOther, inOther⟩

theorem codeEnd_notMem_codes (style : Style) :
    'm' ∉ '[' :: (";".intercalate style.codes).toList := by
  intro member
  rcases List.mem_cons.mp member with same | inCodes
  · cases same
  · rw [String.toList_intercalate] at inCodes
    rcases mem_intercalate inCodes with isSeparator | ⟨code, isCode, inCode⟩
    · exact absurd isSeparator (by decide)
    · obtain ⟨written, isWritten, rfl⟩ := List.mem_map.mp isCode
      exact absurd (isDigit_of_mem_styleCodes isWritten inCode) (by decide)

theorem shows_writeSegment (style : Style) {text : Text} (noEscape : .char escape ∉ text) :
    Shows (writeSegment style text) text := by
  unfold writeSegment
  split
  · exact shows_self noEscape
  · have shown := ((shows_code (codeEnd_notMem_codes style)).append (shows_self noEscape)).append
      (shows_code (show 'm' ∉ ['[', '0'] by decide))
    simpa using shown

/-! ## Segments -/

namespace StyledText

/-- The text of each segment of a line. -/
def segmentTexts (styled : StyledText) : List Text :=
  styled.segments.map Prod.snd

theorem take_drop_append {text : Text} {low middle high : Nat} (first : low ≤ middle)
    (second : middle ≤ high) (inside : high ≤ text.length) :
    (text.take middle).drop low ++ (text.take high).drop middle = (text.take high).drop low := by
  have parted : text.take high = text.take middle ++ (text.take high).drop middle := by
    conv => lhs; rw [← List.take_append_drop middle (text.take high)]
    rw [List.take_take, Nat.min_eq_left second]
  conv => rhs; rw [parted]
  rw [List.drop_append_of_le_length]
  rw [List.length_take]
  omega

/-- The parts of a text between cuts. -/
def between (text : Text) (cuts : List Nat) : List Text :=
  (cuts.zip cuts.tail).map fun (low, high) => (text.take high).drop low

theorem segmentTexts_eq_between (styled : StyledText) :
    styled.segmentTexts = between styled.text styled.boundaries := by
  rw [segmentTexts, segments, List.map_map]
  rfl

theorem flatten_between {text : Text} {first last : Nat} {cuts : List Nat}
    (sorted : (first :: cuts).Pairwise (· < ·)) (isLast : (first :: cuts).getLast? = some last)
    (inside : last ≤ text.length) :
    (between text (first :: cuts)).flatten = (text.take last).drop first := by
  induction cuts generalizing first with
  | nil =>
      cases isLast
      simp [between]
  | cons next rest ih =>
      rw [List.getLast?_cons_cons] at isLast
      obtain ⟨isFirst, sortedRest⟩ := List.pairwise_cons.mp sorted
      have later : next ≤ last := by
        rcases List.mem_cons.mp (List.mem_of_getLast? isLast) with same | inRest
        · exact Nat.le_of_eq same.symm
        · exact Nat.le_of_lt ((List.pairwise_cons.mp sortedRest).1 last inRest)
      have cons : between text (first :: next :: rest) = (text.take next).drop first ::
          between text (next :: rest) :=
        rfl
      rw [cons, List.flatten_cons, ih sortedRest isLast]
      exact take_drop_append (Nat.le_of_lt (isFirst next List.mem_cons_self)) later inside

theorem boundaries_sorted (styled : StyledText) : styled.boundaries.Pairwise (· < ·) :=
  List.pairwise_lt_range.filter _

theorem mem_boundaries {styled : StyledText} {position : Nat} :
    position ∈ styled.boundaries ↔ position ≤ styled.text.length ∧
      (position = 0 ∨ position = styled.text.length ∨
        ∃ span ∈ styled.spans, span.start = position ∨ span.finish = position) := by
  rw [boundaries, List.mem_filter, List.mem_range, Nat.lt_succ_iff]
  simp [or_assoc]

theorem getLast?_boundaries (styled : StyledText) :
    styled.boundaries.getLast? = some styled.text.length := by
  rw [boundaries, List.range_succ, List.filter_append, List.filter_singleton]
  simp

theorem exists_boundaries_eq (styled : StyledText) : ∃ cuts, styled.boundaries = 0 :: cuts := by
  rw [boundaries, List.range_succ_eq_map]
  simp

theorem flatten_segmentTexts (styled : StyledText) : styled.segmentTexts.flatten = styled.text := by
  obtain ⟨cuts, shape⟩ := exists_boundaries_eq styled
  have sorted := boundaries_sorted styled
  have isLast := getLast?_boundaries styled
  rw [shape] at sorted isLast
  rw [segmentTexts_eq_between, shape, flatten_between sorted isLast (Nat.le_refl _),
    List.take_length, List.drop_zero]

/-! ## Given parts -/

/-- Where parts begin of which the first begins at a position, and where the last ends. -/
def partCuts (position : Nat) : List Text → List Nat
  | [] => [position]
  | part :: rest => position :: partCuts (position + part.length) rest

theorem le_of_mem_partCuts {position cut : Nat} {parts : List Text}
    (member : cut ∈ partCuts position parts) :
    position ≤ cut := by
  induction parts generalizing position with
  | nil => exact Nat.le_of_eq (List.mem_singleton.mp member).symm
  | cons part rest ih =>
      rcases List.mem_cons.mp member with same | inRest
      · exact Nat.le_of_eq same.symm
      · exact Nat.le_trans (Nat.le_add_right _ _) (ih inRest)

theorem partCuts_sorted {parts : List Text} (nonEmpty : [] ∉ parts) (position : Nat) :
    (partCuts position parts).Pairwise (· < ·) := by
  induction parts generalizing position with
  | nil => exact List.pairwise_singleton _ _
  | cons part rest ih =>
      obtain ⟨different, others⟩ := not_or.mp (mt List.mem_cons.mpr nonEmpty)
      have long : 0 < part.length := List.length_pos_iff.mpr (Ne.symm different)
      rw [partCuts, List.pairwise_cons]
      refine ⟨?_, ih others _⟩
      intro cut member
      have := le_of_mem_partCuts member
      omega

/-- The parts of a text that stand after a beginning are found between their cuts. -/
theorem between_partCuts (front : Text) (parts : List Text) :
    between (front ++ parts.flatten) (partCuts front.length parts) = parts := by
  induction parts generalizing front with
  | nil => rfl
  | cons part rest ih =>
      have shape :
          ∃ cuts, partCuts (front.length + part.length) rest =
            (front.length + part.length) :: cuts := by
        cases rest with
        | nil => exact ⟨[], rfl⟩
        | cons next more => exact ⟨_, rfl⟩
      obtain ⟨cuts, isCuts⟩ := shape
      have tail := ih (front ++ part)
      rw [List.append_assoc, ← List.flatten_cons, List.length_append, isCuts] at tail
      have cons : between (front ++ (part :: rest).flatten) (partCuts front.length (part :: rest)) =
          ((front ++ (part :: rest).flatten).take (front.length + part.length)).drop front.length ::
            between (front ++ (part :: rest).flatten) ((front.length + part.length) :: cuts) := by
        rw [partCuts, isCuts]
        rfl
      rw [cons, tail]
      simp [List.take_append, List.flatten_cons]

theorem self_mem_partCuts (position : Nat) (parts : List Text) :
    position ∈ partCuts position parts := by
  cases parts <;> exact List.mem_cons_self

theorem mem_partCuts_filter {position cut : Nat} {parts : List Text} :
    cut ∈ partCuts position (parts.filter (· ≠ [])) ↔ cut ∈ partCuts position parts := by
  induction parts generalizing position with
  | nil => rfl
  | cons part rest ih =>
      rw [partCuts, List.mem_cons, ← ih]
      by_cases empty : part = []
      · rw [List.filter_cons_of_neg (by simp [empty]), empty, List.length_nil, Nat.add_zero]
        constructor
        · exact .inr
        · rintro (rfl | inRest)
          · exact self_mem_partCuts _ _
          · exact inRest
      · rw [List.filter_cons_of_pos (by simp [empty]), partCuts, List.mem_cons]

theorem partsWidth_filter (parts : List Text) :
    partsWidth (parts.filter (· ≠ [])) = partsWidth parts := by
  induction parts with
  | nil => rfl
  | cons part rest ih =>
      rw [partsWidth, ← ih]
      by_cases empty : part = []
      · rw [List.filter_cons_of_neg (by simp [empty]), empty]
        exact (Nat.zero_add _).symm
      · rw [List.filter_cons_of_pos (by simp [empty]), partsWidth]

/-- A line whose spans end where its parts do has these parts for segments, but for the empty
ones. -/
theorem partsWidth_segmentTexts {styled : StyledText} {parts : List Text}
    (isText : parts.flatten = styled.text)
    (areCuts : ∀ cut, cut ∈ styled.boundaries ↔ cut ∈ partCuts 0 parts) :
    partsWidth styled.segmentTexts = partsWidth parts := by
  have nonEmpty : [] ∉ parts.filter (· ≠ []) := by simp
  have same : styled.boundaries = partCuts 0 (parts.filter (· ≠ [])) := by
    apply List.Pairwise.eq_of_mem_iff (boundaries_sorted styled) (partCuts_sorted nonEmpty 0)
    intro cut
    rw [areCuts, mem_partCuts_filter]
  have found := between_partCuts [] (parts.filter (· ≠ []))
  rw [List.nil_append, List.flatten_filter_ne_nil, isText, List.length_nil, ← same,
    ← segmentTexts_eq_between] at found
  rw [found, partsWidth_filter]

end StyledText

/-! ## Lines -/

theorem foldl_taken (start : Nat) (segments : List (Style × Text)) :
    segments.foldl (fun taken segment => taken + textWidth segment.2) start =
      start + partsWidth (segments.map Prod.snd) := by
  induction segments generalizing start with
  | nil => rfl
  | cons segment rest ih =>
      rw [List.foldl_cons, ih, List.map_cons, partsWidth]
      omega

/-- A console line of a width shows styled text whole. Segments count one by one. -/
structure HasRoom (width : Nat) (line : StyledText) : Prop where
  fits : Fits width line.text
  segments : partsWidth line.segmentTexts ≤ width

theorem partsWidth_le_twice_length (parts : List Text) :
    partsWidth parts ≤ 2 * parts.flatten.length := by
  induction parts with
  | nil => exact Nat.zero_le _
  | cons part rest ih =>
      have := columns_le_twice_length false part
      rw [partsWidth, textWidth_eq_columns, List.flatten_cons, List.length_append]
      omega

/-- A code point takes two columns at most, however text is parted. -/
theorem hasRoom_of_twice_length_le {width : Nat} {line : StyledText}
    (ample : 2 * line.text.length ≤ width) :
    HasRoom width line := by
  have whole := columns_le_twice_length false line.text
  rw [← textWidth_eq_columns] at whole
  have parted := partsWidth_le_twice_length line.segmentTexts
  rw [StyledText.flatten_segmentTexts] at parted
  exact ⟨⟨by omega, .inl (by omega)⟩, by omega⟩

theorem shows_write {width : Nat} {line : StyledText} (room : HasRoom width line)
    (noEscape : .char escape ∉ line.text) (colour : Bool) :
    Shows (line.write width colour) line.text := by
  have notCropped : line.fittingSegments width = line.segments := by
    have := room.segments
    unfold StyledText.fittingSegments
    rw [foldl_taken, if_neg]
    rw [StyledText.segmentTexts] at this
    omega
  have isText := StyledText.flatten_segmentTexts line
  rw [StyledText.segmentTexts, ← List.flatMap_def] at isText
  rw [StyledText.write, notCropped]
  conv => arg 2; rw [← isText]
  apply shows_flatMap
  intro segment member
  have clean : .char escape ∉ segment.2 := by
    intro inSegment
    apply noEscape
    rw [← isText]
    exact List.mem_flatMap.mpr ⟨segment, member, inSegment⟩
  cases colour with
  | true => exact shows_writeSegment segment.1 clean
  | false => exact shows_self clean

theorem positionsFrom_eq_nil {wanted : CodePoint} {text : Text} (absent : wanted ∉ text)
    (position : Nat) :
    StyledText.positionsFrom wanted position text = [] := by
  induction text generalizing position with
  | nil => rfl
  | cons point rest ih =>
      obtain ⟨different, others⟩ := not_or.mp (mt List.mem_cons.mpr absent)
      rw [StyledText.positionsFrom, if_neg (Ne.symm different), ih others]

theorem lines_of_oneLine {styled : StyledText} (oneLine : .char '\n' ∉ styled.text) :
    styled.lines = [styled] := by
  rw [StyledText.lines, positionsFrom_eq_nil oneLine]

theorem expandTabs_of_noTab {line : StyledText} (noTab : .char '\t' ∉ line.text) :
    expandTabs line = line := by
  rw [expandTabs, positionsFrom_eq_nil noTab]

/-- A console shows a line for which it has room when the tabs are expanded. -/
theorem shows_print {console : Console} {styled : StyledText} (positive : 0 < console.width)
    (oneLine : .char '\n' ∉ styled.text) (room : HasRoom console.width (expandTabs styled))
    (noEscape : .char escape ∉ (expandTabs styled).text) :
    Shows (console.print styled) ((expandTabs styled).text ++ [Report.lineEnd]) := by
  have isLine : layout console.width styled = [expandTabs styled] := by
    rw [layout, lines_of_oneLine oneLine, List.flatMap_singleton, wrap_of_fits room.fits]
  rw [print, if_neg (by omega), isLine, List.flatMap_singleton]
  apply (shows_write room noEscape console.colour).append
  exact shows_self (by decide)

end Console

end ChangeImpact
