import ChangeImpact.Proofs.Console.Literal
import ChangeImpact.Proofs.Console.Printing
import ChangeImpact.Proofs.Console.Visible
import ChangeImpact.Proofs.Impact.ReportLayout
/-!
# The report on a console

A console with room for the lines of a report shows what the plain report says, with blanks up to
the tab stop before each entry, if the name of the range is literal. It shows something else, or
fails, if it is not.
-/
set_option autoImplicit false

namespace ChangeImpact

namespace Console

open Markup (Literal)

/-! ## Clean text -/

def isControl (point : CodePoint) : Bool :=
  point.code < 0x20 || (0x7f ≤ point.code && point.code ≤ 0x9f)

/-- There is no control character in the text. -/
def Clean (text : Text) : Prop :=
  ∀ point ∈ text, isControl point = false

instance (text : Text) : Decidable (Clean text) :=
  inferInstanceAs (Decidable (∀ point ∈ text, isControl point = false))

theorem Clean.notMem {text : Text} (clean : Clean text) {point : CodePoint}
    (control : isControl point = true) :
    point ∉ text := by
  intro member
  rw [clean point member] at control
  cases control

theorem clean_append {first second : Text} :
    Clean (first ++ second) ↔ Clean first ∧ Clean second := by
  simp only [Clean, List.mem_append, or_imp, forall_and]

theorem sanitize_of_clean {text : Text} (clean : Clean text) : sanitize text = text := by
  rw [sanitize, List.filter_eq_self]
  intro point member
  have shown : ∀ code ∈ [7, 8, 11, 12, 13], code < 0x20 := by decide
  rw [Bool.not_eq_true']
  by_contra dropped
  rw [Bool.not_eq_false, isDroppedControl, List.contains_iff_mem] at dropped
  have control : isControl point = true := by simp [isControl, shown _ dropped]
  exact clean.notMem control member

/-! ## The parts of a line -/

def indent : Text := List.replicate tabStop space

theorem length_indent : indent.length = tabStop :=
  List.length_replicate

/-- The parts of an entry that are written in a style of their own. -/
def entryParts (label : Text) : List Text :=
  indent :: (Report.kindAndRest label).1 :: ((Report.kindAndRest label).2.map (space :: ·)).toList

/-- The parts of a line of a report, in which an entry has blanks in place of its tab. -/
def lineParts : Text → List Text
  | .char '\t' :: label => entryParts label
  | line => [line]

/-- A console line of a width shows parts of a line, each of which is taken alone. -/
structure RoomFor (width : Nat) (parts : List Text) : Prop where
  columns : partsWidth parts ≤ width
  blanks : parts.flatten.length ≤ width ∨ Text.dropEndBlanks parts.flatten = parts.flatten

instance (width : Nat) (parts : List Text) : Decidable (RoomFor width parts) :=
  decidable_of_iff (partsWidth parts ≤ width ∧
      (parts.flatten.length ≤ width ∨ Text.dropEndBlanks parts.flatten = parts.flatten))
    ⟨fun room => ⟨room.1, room.2⟩, fun room => ⟨room.columns, room.blanks⟩⟩

theorem flatten_kindAndRest (label : Text) :
    (Report.kindAndRest label).1 ++
      ((Report.kindAndRest label).2.map (space :: ·)).toList.flatten = label := by
  induction label with
  | nil => rfl
  | cons point rest ih =>
      rw [Report.kindAndRest]
      split
      · rename_i isSpace
        rw [isSpace]
        simp [space]
      · rw [List.cons_append, ih]

theorem flatten_entryParts (label : Text) : (entryParts label).flatten = indent ++ label := by
  rw [entryParts, List.flatten_cons, List.flatten_cons, flatten_kindAndRest]

theorem columns_indent (rest : Text) :
    columns false (indent ++ rest) = tabStop + columns false rest := by
  simp [indent, tabStop, List.replicate_succ, columns_space]
  omega

theorem textWidth_entry_le (label : Text) :
    textWidth (indent ++ label) ≤ partsWidth (entryParts label) := by
  have isIndent : textWidth indent = tabStop := by
    have alone := columns_indent []
    rwa [List.append_nil, ← textWidth_eq_columns, columns_nil, Nat.add_zero] at alone
  rw [textWidth_eq_columns, columns_indent, entryParts, partsWidth, partsWidth, isIndent]
  conv => lhs; rw [← flatten_kindAndRest label]
  cases (Report.kindAndRest label).2 with
  | none => simp [partsWidth, textWidth_eq_columns]
  | some name =>
      have whole := columns_append_space_le false (Report.kindAndRest label).1 name
      simpa [partsWidth, textWidth_eq_columns] using whole

/-! ## Titles and entries -/

theorem hasRoom_plain {width : Nat} {text : Text} (room : RoomFor width [text]) :
    HasRoom width ⟨text, []⟩ := by
  have isText : [text].flatten = text := List.flatten_singleton
  refine ⟨⟨?_, ?_⟩, ?_⟩
  · simpa [partsWidth] using room.columns
  · simpa using room.blanks
  · rw [StyledText.partsWidth_segmentTexts isText]
    · exact room.columns
    · intro cut
      rw [StyledText.mem_boundaries]
      simp [StyledText.partCuts]
      omega

/-- The spans of an entry with a kind of the given length, from the position where its label
begins. -/
def entrySpans (part : Report.Section) (start kindLength length : Nat) (hasRest : Bool) :
    List StyleSpan :=
  ⟨start, start + kindLength, sectionStyle part⟩ ::
    (if hasRest then [⟨start + kindLength, start + length, nameStyle⟩] else [])

theorem clean_kindAndRest {label : Text} (clean : Clean label) :
    Clean (Report.kindAndRest label).1 ∧
      ∀ name ∈ (Report.kindAndRest label).2, Clean (space :: name) := by
  rw [← flatten_kindAndRest label, clean_append] at clean
  refine ⟨clean.1, ?_⟩
  intro name isName
  rw [isName] at clean
  simpa using clean.2

theorem entry_eq {label : Text} (clean : Clean label) (part : Report.Section) :
    entry part label = ⟨Report.tab :: label,
      entrySpans part 1 (Report.kindAndRest label).1.length label.length
      (Report.kindAndRest label).2.isSome⟩ := by
  have isLabel := flatten_kindAndRest label
  obtain ⟨cleanKind, cleanRest⟩ := clean_kindAndRest clean
  have isTab : sanitize [Report.tab] = [Report.tab] := by decide
  unfold entry
  generalize Report.kindAndRest label = parts at isLabel cleanKind cleanRest
  obtain ⟨kind, rest⟩ := parts
  cases rest with
  | none =>
      have isKind : kind = label := by simpa using isLabel
      subst isKind
      simp [StyledText.append, StyledText.ofText, StyledText.styled, StyleSpan.shift, entrySpans,
        isTab, sanitize_of_clean cleanKind, Nat.add_comm]
  | some name =>
      have isWhole : kind ++ space :: name = label := by simpa using isLabel
      have isName : sanitize (Text.ofString " " ++ name) = space :: name :=
        sanitize_of_clean (cleanRest name rfl)
      subst isWhole
      simp [StyledText.append, StyledText.ofText, StyledText.styled, StyleSpan.shift, entrySpans,
        isTab, isName, sanitize_of_clean cleanKind]
      omega

theorem expandTabs_of_positions {line : StyledText} {first : Nat} {rest : List Nat}
    (tabs : StyledText.positionsFrom '\t' 0 line.text = first :: rest) :
    expandTabs line = .concat (expandParts 0 (line.divide ((first :: rest).map (· + 1)))) := by
  rw [expandTabs, tabs]

theorem expandTabs_tab_cons {label : Text} (noTab : Report.tab ∉ label) {spans : List StyleSpan}
    (after : ∀ span ∈ spans, 1 ≤ span.start) :
    expandTabs ⟨Report.tab :: label, spans⟩ =
      ⟨indent ++ label, (spans.filterMap (·.within? 1 (label.length + 1))).map
        (·.shift tabStop)⟩ := by
  have isTab : Report.tab = .char '\t' := rfl
  have tabs : StyledText.positionsFrom '\t' 0 (Report.tab :: label) = [0] := by
    rw [StyledText.positionsFrom, if_pos isTab, positionsFrom_eq_nil (isTab ▸ noTab)]
  have noSpans : spans.filterMap (·.within? 0 1) = [] := by
    rw [List.filterMap_eq_nil_iff]
    intro span member
    have := after span member
    rw [StyleSpan.within?]
    simp
    omega
  have parted : StyledText.divide ⟨Report.tab :: label, spans⟩ [1] =
      [⟨[Report.tab], []⟩, ⟨label, spans.filterMap (·.within? 1 (label.length + 1))⟩] := by
    simp [StyledText.divide, StyledText.slice, noSpans]
  have filled : expandTab 0 ⟨[Report.tab], []⟩ = ⟨indent, []⟩ := by decide +kernel
  have noTabLast : label.getLast? ≠ some (.char '\t') := by
    intro isLast
    exact noTab (List.mem_of_getLast? isLast)
  have tabLast : [Report.tab].getLast? = some (.char '\t') := rfl
  rw [expandTabs_of_positions tabs, List.map_singleton, parted, expandParts, expandParts,
    expandParts, if_pos tabLast, filled, if_neg noTabLast]
  simp [StyledText.concat, StyledText.append, StyledText.empty, length_indent]

theorem within?_afterTab (low : Nat) {high length : Nat} (inside : high ≤ length) (style : Style) :
    (StyleSpan.mk (1 + low) (1 + high) style).within? 1 (length + 1) =
      if low < high then some ⟨low, high, style⟩ else none := by
  have start : max 1 (1 + low) - 1 = low := by omega
  have finish : min (length + 1) (1 + high) - 1 = high := by omega
  simp only [StyleSpan.within?, start, finish]

theorem entrySpans_afterTab (part : Report.Section) {kindLength length : Nat} {hasRest : Bool}
    (inside : kindLength ≤ length) (more : hasRest = true → kindLength < length) :
    ((entrySpans part 1 kindLength length hasRest).filterMap (·.within? 1 (length + 1))).map
      (·.shift tabStop) =
      (if 0 < kindLength then [⟨tabStop, tabStop + kindLength, sectionStyle part⟩] else []) ++
        (if hasRest then [⟨tabStop + kindLength, tabStop + length, nameStyle⟩] else []) := by
  have ofKind := within?_afterTab 0 inside (sectionStyle part)
  have ofRest := within?_afterTab kindLength (Nat.le_refl length) nameStyle
  rw [Nat.add_zero] at ofKind
  rw [entrySpans, List.filterMap_cons, ofKind]
  cases hasRest with
  | false => by_cases noKind : 0 < kindLength <;> simp [noKind, StyleSpan.shift, Nat.add_comm]
  | true =>
      rw [if_pos (more rfl)] at ofRest
      rw [if_pos rfl, List.filterMap_cons, ofRest, List.filterMap_nil]
      by_cases noKind : 0 < kindLength <;> simp [noKind, StyleSpan.shift, Nat.add_comm]

theorem expandTabs_entry {label : Text} (clean : Clean label) (part : Report.Section) :
    expandTabs (entry part label) = ⟨indent ++ label,
      (if 0 < (Report.kindAndRest label).1.length then
          [⟨tabStop, tabStop + (Report.kindAndRest label).1.length, sectionStyle part⟩] else []) ++
        (if (Report.kindAndRest label).2.isSome then
          [⟨tabStop + (Report.kindAndRest label).1.length, tabStop + label.length, nameStyle⟩]
        else [])⟩ := by
  have noTab := clean.notMem (show isControl Report.tab = true by decide)
  have lengths := congrArg List.length (flatten_kindAndRest label)
  rw [List.length_append] at lengths
  rw [entry_eq clean, expandTabs_tab_cons noTab]
  · rw [entrySpans_afterTab part]
    · omega
    · intro hasRest
      obtain ⟨name, isName⟩ := Option.isSome_iff_exists.mp hasRest
      rw [isName] at lengths
      simp at lengths
      omega
  · intro span member
    rw [entrySpans] at member
    rcases List.mem_cons.mp member with rfl | inRest
    · exact Nat.le_refl 1
    · split at inRest
      · rw [List.mem_singleton.mp inRest]
        exact Nat.le_add_right _ _
      · cases inRest

theorem mem_boundaries_entry {label : Text} (clean : Clean label) (part : Report.Section)
    (cut : Nat) :
    cut ∈ (expandTabs (entry part label)).boundaries ↔
      cut ∈ StyledText.partCuts 0 (entryParts label) := by
  have isLabel := flatten_kindAndRest label
  rw [expandTabs_entry clean, StyledText.mem_boundaries, entryParts]
  generalize Report.kindAndRest label = parts at isLabel
  obtain ⟨kind, rest⟩ := parts
  have lengths := congrArg List.length isLabel
  rw [List.length_append] at lengths
  cases rest with
  | none =>
      by_cases noKind : 0 < kind.length
      · simp [noKind, StyledText.partCuts, length_indent] at lengths ⊢
        omega
      · simp [noKind, StyledText.partCuts, length_indent] at lengths ⊢
        omega
  | some name =>
      by_cases noKind : 0 < kind.length
      · simp [noKind, StyledText.partCuts, length_indent] at lengths ⊢
        omega
      · simp [noKind, StyledText.partCuts, length_indent] at lengths ⊢
        omega

theorem hasRoom_entry {width : Nat} {label : Text} (clean : Clean label)
    (room : RoomFor width (entryParts label)) (part : Report.Section) :
    HasRoom width (expandTabs (entry part label)) := by
  have isText : (entryParts label).flatten = (expandTabs (entry part label)).text := by
    rw [expandTabs_entry clean, flatten_entryParts]
  have columns := room.columns
  refine ⟨⟨?_, ?_⟩, ?_⟩
  · have := textWidth_entry_le label
    rw [← isText, flatten_entryParts]
    omega
  · rw [← isText]
    exact room.blanks
  · rw [StyledText.partsWidth_segmentTexts isText (mem_boundaries_entry clean part)]
    exact columns

/-! ## Printed lines -/

theorem shows_entry {console : Console} {label : Text} (positive : 0 < console.width)
    (clean : Clean label) (room : RoomFor console.width (entryParts label))
    (part : Report.Section) :
    Shows (console.print (entry part label)) (indent ++ label ++ [Report.lineEnd]) := by
  have isText : (expandTabs (entry part label)).text = indent ++ label := by
    rw [expandTabs_entry clean]
  have cleanIndent : Clean indent := by decide
  have cleanLine := clean_append.mpr ⟨cleanIndent, clean⟩
  rw [← isText]
  apply shows_print positive
  · rw [entry_eq clean, List.mem_cons, not_or]
    exact ⟨by decide, clean.notMem (by decide)⟩
  · exact hasRoom_entry clean room part
  · rw [isText]
    exact cleanLine.notMem (by decide)

theorem shows_plain {console : Console} {styled : StyledText} (positive : 0 < console.width)
    (clean : Clean styled.text) (room : HasRoom console.width styled) :
    Shows (console.print styled) (styled.text ++ [Report.lineEnd]) := by
  have noTabs := expandTabs_of_noTab (clean.notMem (show isControl (.char '\t') = true by decide))
  have shown := shows_print positive (clean.notMem (show isControl (.char '\n') = true by decide))
    (noTabs.symm ▸ room)
  rw [noTabs] at shown
  exact shown (clean.notMem (by decide))

theorem printMarkup_of_literal {console : Console} {line : Text} (positive : 0 < console.width)
    (clean : Clean line) (room : RoomFor console.width [line]) (literal : Literal line) :
    ∃ written, console.printMarkup line = .ok written ∧
      Shows written (line ++ [Report.lineEnd]) := by
  refine ⟨console.print ⟨line, []⟩, ?_, shows_plain positive clean (hasRoom_plain room)⟩
  rw [printMarkup, Markup.read_of_literal literal, sanitize_of_clean clean]

/-- On a console with two columns for each code point of a line, a line that is not literal is seen
shorter. -/
theorem shows_of_printMarkup {console : Console} {line written : Text}
    (positive : 0 < console.width) (clean : Clean line) (ample : 2 * line.length ≤ console.width)
    (printed : console.printMarkup line = .ok written) :
    ∃ text, Shows written (text ++ [Report.lineEnd]) ∧ text.length ≤ line.length ∧
      (¬Literal line → text.length < line.length) := by
  rw [printMarkup] at printed
  split at printed
  · cases printed
  · rename_i styled isRead
    cases printed
    obtain ⟨inLine, short, shorter⟩ := Markup.text_of_read isRead
    refine ⟨styled.text, ?_, short, shorter⟩
    apply shows_plain positive
    · intro point member
      exact clean point (inLine point member)
    · apply hasRoom_of_twice_length_le
      omega

/-! ## Blanks in place of tabs -/

def spaced (text : Text) : Text :=
  text.flatMap fun point => if point = Report.tab then indent else [point]

theorem spaced_of_clean {text : Text} (clean : Clean text) : spaced text = text := by
  have noTab := clean.notMem (show isControl Report.tab = true by decide)
  clear clean
  induction text with
  | nil => rfl
  | cons point rest ih =>
      obtain ⟨different, others⟩ := not_or.mp (mt List.mem_cons.mpr noTab)
      rw [spaced, List.flatMap_cons, if_neg (Ne.symm different), List.singleton_append, ← spaced,
        ih others]

theorem spaced_entry {label : Text} (clean : Clean label) :
    spaced (Report.tab :: label) = indent ++ label := by
  rw [spaced, List.flatMap_cons, if_pos rfl, ← spaced, spaced_of_clean clean]

/-- Lines as they are seen. -/
def shownLines (lines : List Text) : Text :=
  lines.flatMap fun line => spaced line ++ [Report.lineEnd]

theorem shownLines_append (first second : List Text) :
    shownLines (first ++ second) = shownLines first ++ shownLines second :=
  List.flatMap_append

theorem spaced_render (impact : Impact) (range : Text) :
    spaced (Report.render impact range) = shownLines (Report.lines impact range) := by
  rw [Report.render, Lines.join, spaced, List.flatMap_assoc, shownLines]
  congr 1
  funext line
  rw [List.flatMap_append]
  rfl

/-! ## Lines of a report -/

theorem clean_title {range : Text} (clean : Clean range) (part : Report.Section) :
    Clean (part.title range) := by
  rw [Report.title_eq, clean_append, clean_append]
  refine ⟨?_, clean, by decide⟩
  cases part <;> decide

theorem clean_noChanges {range : Text} (clean : Clean range) : Clean (Report.noChanges range) := by
  rw [Report.noChanges, clean_append]
  exact ⟨by decide, clean⟩

theorem literal_title_iff (part : Report.Section) (range : Text) :
    Literal (part.title range) ↔ Literal range := by
  rw [Report.title_eq, Markup.literal_append_iff_of_plain (by cases part <;> decide)]
  exact Markup.literal_append_point_iff (by decide) (by decide) range

theorem literal_noChanges_iff (range : Text) : Literal (Report.noChanges range) ↔ Literal range :=
  Markup.literal_append_iff_of_plain (by decide) range

theorem lineParts_title (part : Report.Section) (range : Text) :
    lineParts (part.title range) = [part.title range] := by
  cases part <;> rfl

theorem lineParts_noChanges (range : Text) :
    lineParts (Report.noChanges range) = [Report.noChanges range] :=
  rfl

theorem lineParts_entry (label : Text) : lineParts (Report.tab :: label) = entryParts label :=
  rfl

theorem positive_of_roomFor {width : Nat} {front rest : Text} (wide : 0 < textWidth front)
    (room : RoomFor width [front ++ rest]) : 0 < width := by
  have whole := columns_append_ge false front rest
  have columns := room.columns
  rw [partsWidth, partsWidth, textWidth_eq_columns] at columns
  rw [textWidth_eq_columns] at wide
  omega

theorem roomFor_of_twice_length_le {width : Nat} {parts : List Text}
    (ample : 2 * parts.flatten.length ≤ width) :
    RoomFor width parts := by
  have whole := partsWidth_le_twice_length parts
  exact ⟨by omega, .inl (by omega)⟩

/-! ## Sections -/

/-- A console line of a width has room for each of these lines of a report. -/
def RoomForAll (width : Nat) (lines : List Text) : Prop :=
  ∀ line ∈ lines, RoomFor width (lineParts line)

/-- A console line of a width has two columns for each code point of these lines of a report. -/
def AmpleForAll (width : Nat) (lines : List Text) : Prop :=
  ∀ line ∈ lines, 2 * (lineParts line).flatten.length ≤ width

instance (width : Nat) (lines : List Text) : Decidable (RoomForAll width lines) :=
  inferInstanceAs (Decidable (∀ line ∈ lines, RoomFor width (lineParts line)))

instance (width : Nat) (lines : List Text) : Decidable (AmpleForAll width lines) :=
  inferInstanceAs (Decidable (∀ line ∈ lines, 2 * (lineParts line).flatten.length ≤ width))

theorem AmpleForAll.roomForAll {width : Nat} {lines : List Text} (ample : AmpleForAll width lines) :
    RoomForAll width lines := by
  intro line member
  exact roomFor_of_twice_length_le (ample line member)

variable {console : Console} {part : Report.Section} {range : Text} {labels : LabelSet}
    {impact : Impact}

theorem shows_entries (positive : 0 < console.width) (clean : ∀ label ∈ labels.toList, Clean label)
    (room : RoomForAll console.width (labels.toList.map (Report.tab :: ·)))
    (part : Report.Section) :
    Shows (labels.toList.flatMap fun label => console.print (entry part label))
      (shownLines (labels.toList.map (Report.tab :: ·))) := by
  rw [shownLines, List.flatMap_map]
  apply shows_flatMap
  intro label member
  rw [spaced_entry (clean label member)]
  apply shows_entry positive (clean label member)
  rw [← lineParts_entry]
  exact room _ (List.mem_map_of_mem member)

theorem writeAll_sectionItems_eq_ok_iff (isListed : labels.isEmpty = false) {written : Text} :
    console.writeAll (sectionItems part range labels) = .ok written ↔
      ∃ title, console.printMarkup (part.title range) = .ok title ∧
        written = title ++ labels.toList.flatMap fun label => console.print (entry part label) := by
  rw [sectionItems, isListed, if_neg Bool.false_ne_true, writeAll_cons_eq_ok_iff, writeAll_styled]
  simp [write]

theorem writeAll_section_of_literal (positive : 0 < console.width) (cleanRange : Clean range)
    (clean : ∀ label ∈ labels.toList, Clean label)
    (room : RoomForAll console.width (Report.sectionLines part range labels))
    (literal : Literal range) :
    ∃ written, console.writeAll (sectionItems part range labels) = .ok written ∧
      Shows written (shownLines (Report.sectionLines part range labels)) := by
  unfold Report.sectionLines at room ⊢
  cases isListed : labels.isEmpty with
  | true =>
      rw [sectionItems, isListed, if_pos rfl, if_pos rfl]
      exact ⟨[], rfl, shows_nil⟩
  | false =>
      rw [isListed, if_neg Bool.false_ne_true] at room
      rw [if_neg Bool.false_ne_true]
      have roomTitle := room _ List.mem_cons_self
      rw [lineParts_title] at roomTitle
      have cleanTitle := clean_title cleanRange part
      have literalTitle := (literal_title_iff part range).mpr literal
      obtain ⟨title, printed, shows⟩ :=
        printMarkup_of_literal positive cleanTitle roomTitle literalTitle
      refine ⟨_, (writeAll_sectionItems_eq_ok_iff isListed).mpr ⟨title, printed, rfl⟩, ?_⟩
      have roomEntries : RoomForAll console.width (labels.toList.map (Report.tab :: ·)) := by
        intro line member
        exact room line (List.mem_cons_of_mem _ member)
      rw [← spaced_of_clean cleanTitle] at shows
      exact shows.append (shows_entries positive clean roomEntries part)

theorem shows_of_writeAll_section (positive : 0 < console.width) (cleanRange : Clean range)
    (clean : ∀ label ∈ labels.toList, Clean label)
    (ample : AmpleForAll console.width (Report.sectionLines part range labels)) {written : Text}
    (printed : console.writeAll (sectionItems part range labels) = .ok written) :
    ∃ text, Shows written text ∧
      text.length ≤ (shownLines (Report.sectionLines part range labels)).length ∧
      (labels.isEmpty = false → ¬Literal range →
        text.length < (shownLines (Report.sectionLines part range labels)).length) := by
  unfold Report.sectionLines at ample ⊢
  cases isListed : labels.isEmpty with
  | true =>
      rw [sectionItems, isListed, if_pos rfl] at printed
      cases printed
      rw [if_pos rfl]
      refine ⟨[], shows_nil, Nat.le_refl _, ?_⟩
      intro isFalse
      cases isFalse
  | false =>
      rw [isListed, if_neg Bool.false_ne_true] at ample
      rw [if_neg Bool.false_ne_true]
      have ampleTitle := ample _ List.mem_cons_self
      rw [lineParts_title, List.flatten_singleton] at ampleTitle
      have cleanTitle := clean_title cleanRange part
      obtain ⟨title, isTitle, rfl⟩ := (writeAll_sectionItems_eq_ok_iff isListed).mp printed
      obtain ⟨text, shows, short, shorter⟩ :=
        shows_of_printMarkup positive cleanTitle ampleTitle isTitle
      have roomEntries : RoomForAll console.width (labels.toList.map (Report.tab :: ·)) := by
        intro line member
        exact ample.roomForAll line (List.mem_cons_of_mem _ member)
      refine ⟨_, shows.append (shows_entries positive clean roomEntries part), ?_, ?_⟩
      · simp only [shownLines, List.flatMap_cons, List.length_append, spaced_of_clean cleanTitle]
        omega
      · intro _ notLiteral
        have := shorter (mt (literal_title_iff part range).mp notLiteral)
        simp only [shownLines, List.flatMap_cons, List.length_append, spaced_of_clean cleanTitle]
        omega

theorem shows_gap (positive : 0 < console.width) (impact : Impact) :
    Shows ((Report.gapLines impact).flatMap fun line => console.print (.ofText line))
      (shownLines (Report.gapLines impact)) := by
  unfold Report.gapLines
  split
  · exact shows_nil
  · have shows :
        Shows (console.print (.ofText [])) ((StyledText.ofText []).text ++ [Report.lineEnd]) := by
      apply shows_plain positive (by decide)
      exact hasRoom_of_twice_length_le (Nat.zero_le _)
    rw [List.flatMap_singleton]
    exact shows

/-! ## Reports -/

theorem exists_title_mem_lines (isChanged : impact.isEmpty = false) (range : Text) :
    ∃ part : Report.Section, part.title range ∈ Report.lines impact range := by
  have mem_sectionLines (part : Report.Section) {labels : LabelSet}
      (isListed : labels.isEmpty = false) :
      part.title range ∈ Report.sectionLines part range labels := by
    rw [Report.sectionLines, if_neg (by simp [isListed])]
    exact List.mem_cons_self
  rw [Report.lines, if_neg (by simp [isChanged])]
  rw [Impact.isEmpty, Bool.and_eq_false_iff] at isChanged
  rcases isChanged with isAdded | isRemoved
  · exact ⟨.additions, List.mem_append_left _ (List.mem_append_left _ (mem_sectionLines _ isAdded))⟩
  · exact ⟨.deletions, List.mem_append_right _ (mem_sectionLines _ isRemoved)⟩

theorem positive_of_roomForAll (room : RoomForAll console.width (Report.lines impact range)) :
    0 < console.width := by
  cases isEmpty : impact.isEmpty with
  | true =>
      have isLine : Report.noChanges range ∈ Report.lines impact range := by
        rw [Report.lines, if_pos isEmpty]
        exact List.mem_cons_self
      have roomLine := room _ isLine
      rw [lineParts_noChanges] at roomLine
      exact positive_of_roomFor (by decide +kernel) roomLine
  | false =>
      obtain ⟨part, isLine⟩ := exists_title_mem_lines isEmpty range
      have roomLine := room _ isLine
      rw [lineParts_title, Report.title_eq] at roomLine
      apply positive_of_roomFor _ roomLine
      cases part <;> decide +kernel

theorem printReport_of_isEmpty (isEmpty : impact.isEmpty = true) :
    console.printReport impact range = console.printMarkup (Report.noChanges range) := by
  rw [printReport, reportItems, if_pos isEmpty]
  cases isText : console.printMarkup (Report.noChanges range) with
  | error error => simp [writeAll, write, isText]
  | ok text => simp [writeAll, write, isText, Except.map]

theorem printReport_eq_ok_iff (isChanged : impact.isEmpty = false) {written : Text} :
    console.printReport impact range = .ok written ↔
      ∃ additions deletions,
        console.writeAll (sectionItems .additions range impact.added) = .ok additions ∧
        console.writeAll (sectionItems .deletions range impact.removed) = .ok deletions ∧
        written = additions ++
          ((Report.gapLines impact).flatMap fun line => console.print (.ofText line)) ++
          deletions := by
  rw [printReport, reportItems, isChanged, if_neg Bool.false_ne_true, writeAll_append_eq_ok_iff]
  constructor
  · intro printed
    obtain ⟨first, deletions, isFirst, isDeletions, rfl⟩ := printed
    obtain ⟨additions, gap, isAdditions, isGap, rfl⟩ := writeAll_append_eq_ok_iff.mp isFirst
    rw [writeAll_styled] at isGap
    cases isGap
    exact ⟨additions, deletions, isAdditions, isDeletions, rfl⟩
  · intro printed
    obtain ⟨additions, deletions, isAdditions, isDeletions, rfl⟩ := printed
    refine ⟨_, deletions, ?_, isDeletions, rfl⟩
    exact writeAll_append_eq_ok_iff.mpr ⟨additions, _, isAdditions, writeAll_styled .., rfl⟩

theorem printReport_of_literal (cleanRange : Clean range)
    (clean : ∀ label ∈ impact.added.toList ++ impact.removed.toList, Clean label)
    (room : RoomForAll console.width (Report.lines impact range)) (literal : Literal range) :
    ∃ written, console.printReport impact range = .ok written ∧
      Shows written (shownLines (Report.lines impact range)) := by
  have positive := positive_of_roomForAll room
  unfold Report.lines at room ⊢
  cases isChanged : impact.isEmpty with
  | true =>
      rw [if_pos isChanged] at room
      rw [if_pos rfl, printReport_of_isEmpty isChanged]
      have cleanLine := clean_noChanges cleanRange
      have roomLine := room _ List.mem_cons_self
      have literalLine := (literal_noChanges_iff range).mpr literal
      obtain ⟨written, printed, shows⟩ :=
        printMarkup_of_literal positive cleanLine roomLine literalLine
      refine ⟨written, printed, ?_⟩
      simpa [shownLines, spaced_of_clean cleanLine] using shows
  | false =>
      rw [isChanged, if_neg Bool.false_ne_true] at room
      rw [if_neg Bool.false_ne_true]
      have ofAdditions : ∃ written,
          console.writeAll (sectionItems .additions range impact.added) = .ok written ∧
          Shows written (shownLines (Report.sectionLines .additions range impact.added)) := by
        apply writeAll_section_of_literal positive cleanRange _ _ literal
        · intro label member
          exact clean label (List.mem_append_left _ member)
        · intro line member
          exact room line (List.mem_append_left _ (List.mem_append_left _ member))
      have ofDeletions : ∃ written,
          console.writeAll (sectionItems .deletions range impact.removed) = .ok written ∧
          Shows written (shownLines (Report.sectionLines .deletions range impact.removed)) := by
        apply writeAll_section_of_literal positive cleanRange _ _ literal
        · intro label member
          exact clean label (List.mem_append_right _ member)
        · intro line member
          exact room line (List.mem_append_right _ member)
      obtain ⟨additions, printedAdditions, showsAdditions⟩ := ofAdditions
      obtain ⟨deletions, printedDeletions, showsDeletions⟩ := ofDeletions
      rw [shownLines_append, shownLines_append]
      refine ⟨_, (printReport_eq_ok_iff isChanged).mpr
        ⟨additions, deletions, printedAdditions, printedDeletions, rfl⟩, ?_⟩
      exact (showsAdditions.append (shows_gap positive impact)).append showsDeletions

theorem length_seen_of_printReport (cleanRange : Clean range)
    (clean : ∀ label ∈ impact.added.toList ++ impact.removed.toList, Clean label)
    (ample : AmpleForAll console.width (Report.lines impact range)) (notLiteral : ¬Literal range)
    {written : Text} (printed : console.printReport impact range = .ok written) :
    (seen written).length < (shownLines (Report.lines impact range)).length := by
  have positive := positive_of_roomForAll ample.roomForAll
  unfold Report.lines at ample ⊢
  cases isChanged : impact.isEmpty with
  | true =>
      rw [if_pos isChanged] at ample
      rw [printReport_of_isEmpty isChanged] at printed
      rw [if_pos rfl]
      have cleanLine := clean_noChanges cleanRange
      have ampleLine := ample _ List.mem_cons_self
      rw [lineParts_noChanges, List.flatten_singleton] at ampleLine
      obtain ⟨text, shows, -, shorter⟩ := shows_of_printMarkup positive cleanLine ampleLine printed
      have := shorter (mt (literal_noChanges_iff range).mp notLiteral)
      rw [seen_of_shows shows]
      simpa [shownLines, spaced_of_clean cleanLine] using this
  | false =>
      rw [isChanged, if_neg Bool.false_ne_true] at ample
      rw [if_neg Bool.false_ne_true]
      obtain ⟨additions, deletions, isAdditions, isDeletions, rfl⟩ :=
        (printReport_eq_ok_iff isChanged).mp printed
      obtain ⟨text, shows, short, shorter⟩ := shows_of_writeAll_section positive cleanRange
        (fun label member => clean label (List.mem_append_left _ member))
        (fun line member => ample line (List.mem_append_left _ (List.mem_append_left _ member)))
        isAdditions
      obtain ⟨other, showsOther, shortOther, shorterOther⟩ :=
        shows_of_writeAll_section positive cleanRange
          (fun label member => clean label (List.mem_append_right _ member))
          (fun line member => ample line (List.mem_append_right _ member)) isDeletions
      rw [seen_of_shows ((shows.append (shows_gap positive impact)).append showsOther),
        shownLines_append, shownLines_append]
      simp only [List.length_append]
      rw [Impact.isEmpty, Bool.and_eq_false_iff] at isChanged
      rcases isChanged with isAdded | isRemoved
      · have := shorter isAdded notLiteral
        omega
      · have := shorterOther isRemoved notLiteral
        omega

/-- On a console with room for its lines a report is seen as it is rendered if the name of its range
is literal, and with ample room only then. -/
theorem printReport_shows_render {console : Console} {impact : Impact} {range : Text}
    (cleanRange : Clean range)
    (clean : ∀ label ∈ impact.added.toList ++ impact.removed.toList, Clean label) :
    (RoomForAll console.width (Report.lines impact range) → Literal range →
      (console.printReport impact range).map seen = .ok (spaced (Report.render impact range))) ∧
    (AmpleForAll console.width (Report.lines impact range) →
      ((console.printReport impact range).map seen = .ok (spaced (Report.render impact range)) ↔
        Literal range)) := by
  have agrees (room : RoomForAll console.width (Report.lines impact range))
      (literal : Literal range) :
      (console.printReport impact range).map seen = .ok (spaced (Report.render impact range)) := by
    obtain ⟨written, printed, shows⟩ := printReport_of_literal cleanRange clean room literal
    rw [printed, spaced_render, ← seen_of_shows shows]
    rfl
  refine ⟨agrees, ?_⟩
  intro ample
  refine ⟨?_, agrees ample.roomForAll⟩
  intro same
  by_contra notLiteral
  cases printed : console.printReport impact range with
  | error error =>
      rw [printed] at same
      cases same
  | ok written =>
      have shorter := length_seen_of_printReport cleanRange clean ample notLiteral printed
      rw [printed, spaced_render] at same
      have isSeen : seen written = shownLines (Report.lines impact range) := Except.ok.inj same
      rw [isSeen] at shorter
      exact Nat.lt_irrefl _ shorter

/-- Labels that look like markup, hold nothing, or take more columns than code points. -/
def markedImpact : Impact :=
  ⟨⟨["", " x", "GET /[red]", "世界"], by decide⟩, ⟨["[/b] y "], by decide⟩⟩

theorem printReport_shows_markedImpact :
    ((Console.mk 37 true).printReport markedImpact "[1]..[B]").map seen =
        .ok (spaced (Report.render markedImpact "[1]..[B]")) ∧
      ¬((Console.mk 200 true).printReport markedImpact "a[red]b").map seen =
        .ok (spaced (Report.render markedImpact "a[red]b")) := by
  constructor
  · apply (printReport_shows_render (by decide) (by decide)).1
    · decide +kernel
    · decide
  · rw [(printReport_shows_render (by decide) (by decide)).2 (by decide)]
    decide

theorem printReport_markedRange :
    Clean "a[/red]b" ∧ AmpleForAll 200 (Report.lines markedImpact "a[/red]b") ∧
      (Console.mk 200 false).printReport markedImpact "a[/red]b" =
        .error (.unmatched ⟨"/red"⟩ 29) := by
  refine ⟨by decide, by decide, ?_⟩
  rfl

end Console

end ChangeImpact
