import ChangeImpact.Proofs.Patch.Groups
import ChangeImpact.Proofs.Text.Lines
/-!
# The numbers of the lines of a hunk

The runs of a file lie where the headers of its hunks say. The first line of a hunk has the number
that the header gives, every line after it as many more as lines of the changed file stand in
between. This needs headers that count the lines of their hunks and hunks that come in order.
-/
set_option autoImplicit false

namespace ChangeImpact.Patch

/-! ## Lines -/

namespace Line

/-- Whether a line is one of the changed file. -/
def inTarget (line : Line) : Bool :=
  line.mark = .context || line.mark = .added

/-- A line that holds no line feed but at its end. -/
def Whole (line : Line) : Prop :=
  .char '\n' ∉ line.value.dropLast

instance (line : Line) : Decidable line.Whole :=
  inferInstanceAs (Decidable (_ ∉ _))

/-- A line with its kind, a remark counting as context. -/
def typed (line : Line) : Kind × Line :=
  (line.kind?.getD .context, line)

theorem kind?_eq_some_fst_typed {line : Line} (clear : line.mark ≠ .noLineEnd) :
    line.kind? = some line.typed.1 := by
  obtain ⟨mark, value⟩ := line
  cases mark with
  | noLineEnd => exact absurd rfl clear
  | _ => rfl

theorem inTarget_eq {line : Line} (clear : line.mark ≠ .noLineEnd) :
    line.inTarget = decide (line.typed.1 ≠ .deletion) := by
  obtain ⟨mark, value⟩ := line
  cases mark with
  | noLineEnd => exact absurd rfl clear
  | _ => rfl

/-- A line without its end. -/
def bare (line : Line) : Text :=
  if line.value.getLast? = some (.char '\n') then line.value.dropLast else line.value

theorem text_eq_bare_append (line : Line) : line.text = line.bare ++ [.char '\n'] := by
  unfold text bare
  split
  · rename_i ends
    exact (List.dropLast_append_getLast? _ ends).symm
  · rfl

theorem Whole.notMem_bare {line : Line} (whole : line.Whole) : .char '\n' ∉ line.bare := by
  unfold bare
  split
  · exact whole
  · rename_i noEnd
    rcases List.eq_nil_or_concat line.value with empty | ⟨init, last, same⟩
    · simp [empty]
    · rw [List.concat_eq_append] at same
      unfold Whole at whole
      simp only [same, List.dropLast_concat, List.getLast?_concat, Option.some.injEq] at whole noEnd
      simp [same, whole, Ne.symm noEnd]

end Line

/-- How many of the lines are lines of the changed file. -/
def targetCount (lines : List Line) : Nat :=
  lines.countP Line.inTarget

theorem targetCount_append (first second : List Line) :
    targetCount (first ++ second) = targetCount first + targetCount second :=
  List.countP_append

/-- Lines without remarks. -/
def Clear (lines : List Line) : Prop :=
  ∀ line ∈ lines, line.mark ≠ .noLineEnd

instance (lines : List Line) : Decidable (Clear lines) :=
  inferInstanceAs (Decidable (∀ line ∈ lines, _))

theorem targetCount_eq_countP {lines : List Line} (clear : Clear lines) :
    targetCount lines = (lines.map Line.typed).countP (·.1 ≠ .deletion) := by
  rw [List.countP_map]
  apply List.countP_congr
  intro line member
  rw [Line.inTarget_eq (clear line member)]
  rfl

/-! ## Runs -/

theorem flatMap_text_eq_join (lines : List Line) :
    lines.flatMap Line.text = Lines.join (.char '\n') (lines.map Line.bare) := by
  rw [Lines.join, List.flatMap_map]
  exact congrArg (lines.flatMap ·) (funext Line.text_eq_bare_append)

theorem lines_groupRun (path : Text) (kind : Kind) {lines : List Line}
    (whole : ∀ line ∈ lines, line.Whole) :
    (groupRun path (kind, lines)).lines = lines.map Line.bare := by
  rw [Run.lines, groupRun, flatMap_text_eq_join]
  apply Lines.split_join
  intro bare member
  obtain ⟨line, isLine, rfl⟩ := List.mem_map.mp member
  exact (whole line isLine).notMem_bare

theorem lineCount_groupRun (path : Text) (kind : Kind) {lines : List Line}
    (whole : ∀ line ∈ lines, line.Whole) :
    (groupRun path (kind, lines)).lineCount = lines.length := by
  rw [Run.lineCount, lines_groupRun path kind whole, List.length_map]

theorem lines_blank (path : Text) (gap : Nat) :
    (⟨path, .context, List.replicate gap (.char '\n')⟩ : Run).lines = List.replicate gap [] := by
  have noEnds : ∀ line ∈ List.replicate gap ([] : Text), CodePoint.char '\n' ∉ line := by simp
  rw [Run.lines, ← Lines.join_replicate_nil, Lines.split_join noEnds]

theorem mem_gapRuns_iff {path : Text} {gap : Nat} {run : Run} :
    run ∈ gapRuns path gap ↔ gap ≠ 0 ∧ run = ⟨path, .context, List.replicate gap (.char '\n')⟩ := by
  unfold gapRuns
  split <;> simp [*]

theorem totalAdvance_gapRuns (path : Text) (gap : Nat) : totalAdvance (gapRuns path gap) = gap := by
  unfold gapRuns
  split
  · rename_i zero
    exact zero.symm
  · simp [totalAdvance, Run.advance, Run.lineCount, lines_blank]

theorem totalAdvance_map_groupRun (path : Text) {groups : List (Kind × List Line)}
    (whole : ∀ group ∈ groups, ∀ line ∈ group.2, line.Whole) :
    totalAdvance (groups.map (groupRun path)) = (ungroup groups).countP (·.1 ≠ .deletion) := by
  induction groups with
  | nil => rfl
  | cons group rest ih =>
      obtain ⟨kind, lines⟩ := group
      have advance : (groupRun path (kind, lines)).advance =
          (lines.map (kind, ·)).countP (·.1 ≠ .deletion) := by
        rw [Run.advance, lineCount_groupRun path kind (whole _ List.mem_cons_self), List.countP_map]
        by_cases deleted : kind = .deletion
        · simp [groupRun, deleted, Function.comp_def]
        · simp [groupRun, deleted, Function.comp_def]
      rw [List.map_cons, totalAdvance_cons, advance, ih fun other member =>
        whole other (by simp [member]), ungroup_cons, List.countP_append]

theorem mem_spansFrom_iff (cursor : Nat) (runs : List Run) (span : Span) :
    span ∈ spansFrom cursor runs ↔
      ∃ before run after, runs = before ++ run :: after ∧
        span = ⟨run, cursor + totalAdvance before,
          cursor + totalAdvance before + run.lineCount - 1⟩ := by
  induction runs generalizing cursor with
  | nil => simp [spansFrom]
  | cons first rest ih =>
      rw [spansFrom, List.mem_cons, ih]
      constructor
      · rintro (rfl | ⟨before, run, after, rfl, rfl⟩)
        · exact ⟨[], first, rest, rfl, rfl⟩
        · refine ⟨first :: before, run, after, rfl, ?_⟩
          rw [totalAdvance_cons, ← Nat.add_assoc]
      · rintro ⟨before, run, after, parts, rfl⟩
        cases before with
        | nil =>
            cases parts
            exact .inl rfl
        | cons other before =>
            cases parts
            refine .inr ⟨before, run, after, rfl, ?_⟩
            rw [totalAdvance_cons, ← Nat.add_assoc]

theorem run_mem_of_mem_spansFrom {cursor : Nat} {runs : List Run} {span : Span}
    (member : span ∈ spansFrom cursor runs) : span.run ∈ runs := by
  obtain ⟨before, run, after, rfl, rfl⟩ := (mem_spansFrom_iff ..).mp member
  exact List.mem_append_right _ List.mem_cons_self

theorem length_spansFrom (cursor : Nat) (runs : List Run) :
    (spansFrom cursor runs).length = runs.length := by
  induction runs generalizing cursor with
  | nil => rfl
  | cons run rest ih => rw [spansFrom, List.length_cons, ih, List.length_cons]

theorem getElem?_spansFrom (cursor : Nat) (before : List Run) (run : Run) (after : List Run) :
    (spansFrom cursor (before ++ run :: after))[before.length]? =
      some ⟨run, cursor + totalAdvance before,
        cursor + totalAdvance before + run.lineCount - 1⟩ := by
  have sameLength := length_spansFrom cursor before
  rw [spansFrom_append, List.getElem?_append_right (Nat.le_of_eq sameLength), sameLength,
    Nat.sub_self, spansFrom]
  rfl

/-! ## Stretches of a hunk -/

/-- A longest stretch of lines of one kind, with the lines before and after it. -/
structure Stretch (kind : Kind) (all before lines after : List Line) : Prop where
  parts : all = before ++ (lines ++ after)
  nonEmpty : lines ≠ []
  uniform : ∀ line ∈ lines, line.kind? = some kind
  before_apart : ∀ line ∈ before.getLast?, line.kind? ≠ some kind
  after_apart : ∀ line ∈ after.head?, line.kind? ≠ some kind

/-- When `first` is the number of the first line, an added line has the number `number`. -/
def AddsAt (first : Nat) (lines : List Line) (number : Nat) : Prop :=
  ∃ before line after, lines = before ++ line :: after ∧ line.mark = .added ∧
    number = first + targetCount before

/-- When `first` is the number of the first line, a longest stretch of `count` removed lines stands
before the line `start`. -/
def RemovesAt (first : Nat) (lines : List Line) (start count : Nat) : Prop :=
  ∃ before removed after, Stretch .deletion lines before removed after ∧
    start = first + targetCount before ∧ count = removed.length

theorem clear_append {first second : List Line} :
    Clear (first ++ second) ↔ Clear first ∧ Clear second :=
  List.forall_mem_append

theorem exists_end_stretch (kind : Kind) (lines : List Line) :
    ∃ before stretch, lines = before ++ stretch ∧ (∀ line ∈ stretch, line.kind? = some kind) ∧
      ∀ line ∈ before.getLast?, line.kind? ≠ some kind := by
  induction lines using List.reverseRecOn with
  | nil => exact ⟨[], [], rfl, by simp, by simp⟩
  | append_singleton rest last ih =>
      by_cases same : last.kind? = some kind
      · obtain ⟨before, stretch, rfl, uniform, apart⟩ := ih
        refine ⟨before, stretch ++ [last], by rw [List.append_assoc], ?_, apart⟩
        exact List.forall_mem_append.mpr ⟨uniform, by simpa using same⟩
      · exact ⟨rest ++ [last], [], by rw [List.append_nil], by simp, by simpa using same⟩

theorem exists_start_stretch (kind : Kind) (lines : List Line) :
    ∃ stretch after, lines = stretch ++ after ∧ (∀ line ∈ stretch, line.kind? = some kind) ∧
      ∀ line ∈ after.head?, line.kind? ≠ some kind := by
  induction lines with
  | nil => exact ⟨[], [], rfl, by simp, by simp⟩
  | cons first rest ih =>
      by_cases same : first.kind? = some kind
      · obtain ⟨stretch, after, rfl, uniform, apart⟩ := ih
        exact ⟨first :: stretch, after, rfl, by simpa [same] using uniform, apart⟩
      · exact ⟨[], first :: rest, rfl, by simp, by simpa using same⟩

theorem exists_stretch {kind : Kind} {all before after : List Line} {line : Line}
    (parts : all = before ++ line :: after) (isKind : line.kind? = some kind) :
    ∃ start left right rest, before = start ++ left ∧ after = right ++ rest ∧
      Stretch kind all start (left ++ line :: right) rest := by
  obtain ⟨start, left, rfl, uniformLeft, apartStart⟩ := exists_end_stretch kind before
  obtain ⟨right, rest, rfl, uniformRight, apartRest⟩ := exists_start_stretch kind after
  refine ⟨start, left, right, rest, rfl, rfl, ?_, by simp, ?_, apartStart, apartRest⟩
  · rw [parts]
    simp
  · simp only [List.forall_mem_append, List.forall_mem_cons]
    exact ⟨uniformLeft, isKind, uniformRight⟩

theorem map_typed_of_uniform {kind : Kind} {lines : List Line}
    (uniform : ∀ line ∈ lines, line.kind? = some kind) :
    lines.map Line.typed = lines.map (kind, ·) := by
  apply List.map_congr_left
  intro line member
  rw [Line.typed, uniform line member]
  rfl

theorem groupByKind_of_isStretch {kind : Kind} {all before lines after : List Line}
    (clear : Clear all) (stretch : Stretch kind all before lines after) :
    groupByKind (all.map Line.typed) =
      groupByKind (before.map Line.typed) ++
        (kind, lines) :: groupByKind (after.map Line.typed) := by
  obtain ⟨rfl, nonEmpty, uniform, apartBefore, apartAfter⟩ := stretch
  obtain ⟨clearBefore, clearRest⟩ := clear_append.mp clear
  obtain ⟨-, clearAfter⟩ := clear_append.mp clearRest
  rw [List.map_append, List.map_append, map_typed_of_uniform uniform]
  apply groupByKind_of_stretch nonEmpty
  · intro last isLast same
    rw [List.getLast?_map] at isLast
    obtain ⟨line, isLine, rfl⟩ := Option.map_eq_some_iff.mp isLast
    apply apartBefore line isLine
    rw [Line.kind?_eq_some_fst_typed (clearBefore line (List.mem_of_getLast? isLine)), same]
  · intro first isFirst same
    rw [List.head?_map] at isFirst
    obtain ⟨line, isLine, rfl⟩ := Option.map_eq_some_iff.mp isFirst
    apply apartAfter line isLine
    rw [Line.kind?_eq_some_fst_typed (clearAfter line (List.mem_of_head? isLine)), same]

theorem isStretch_of_groupByKind {kind : Kind} {all lines : List Line}
    {before after : List (Kind × List Line)} (clear : Clear all)
    (grouped : groupByKind (all.map Line.typed) = before ++ (kind, lines) :: after) :
    ∃ linesBefore linesAfter, Stretch kind all linesBefore lines linesAfter ∧
      linesBefore.map Line.typed = ungroup before := by
  obtain ⟨parts, nonEmpty, apartBefore, apartAfter⟩ := stretch_of_groupByKind grouped
  obtain ⟨linesBefore, rest, rfl, isBefore, isRest⟩ := List.map_eq_append_iff.mp parts
  obtain ⟨same, linesAfter, rfl, isSame, isAfter⟩ := List.map_eq_append_iff.mp isRest
  obtain ⟨clearBefore, clearRest⟩ := clear_append.mp clear
  obtain ⟨clearLines, clearAfter⟩ := clear_append.mp clearRest
  have sameLines : same = lines := by
    have mapped := congrArg (List.map Prod.snd) isSame
    simpa [Line.typed, Function.comp_def] using mapped
  subst sameLines
  refine ⟨linesBefore, linesAfter, ⟨rfl, nonEmpty, ?_, ?_, ?_⟩, isBefore⟩
  · intro line member
    rw [Line.kind?_eq_some_fst_typed (clearLines line member),
      List.map_inj_left.mp isSame line member]
  · intro line isLast same
    rw [Line.kind?_eq_some_fst_typed (clearBefore line (List.mem_of_getLast? isLast))] at same
    refine apartBefore line.typed ?_ (Option.some.inj same)
    rw [← isBefore, List.getLast?_map, isLast]
    rfl
  · intro line isFirst same
    rw [Line.kind?_eq_some_fst_typed (clearAfter line (List.mem_of_head? isFirst))] at same
    refine apartAfter line.typed ?_ (Option.some.inj same)
    rw [← isAfter, List.head?_map, isFirst]
    rfl

namespace Hunk

/-- The lines of a hunk without its remarks. -/
def shown (hunk : Hunk) : List Line :=
  hunk.lines.filter (·.mark ≠ .noLineEnd)

theorem clear_shown (hunk : Hunk) : Clear hunk.shown := by
  intro line member
  simpa using (List.mem_filter.mp member).2

theorem typedLines_eq (hunk : Hunk) : hunk.typedLines = hunk.shown.map Line.typed := by
  unfold typedLines shown
  induction hunk.lines with
  | nil => rfl
  | cons line rest ih =>
      obtain ⟨mark, value⟩ := line
      cases mark with
      | noLineEnd => simpa [Line.kind?] using ih
      | _ => simpa [Line.kind?, Line.typed] using ih

/-- A header that counts the lines of its hunk, all of which but remarks are whole. -/
structure Sound (hunk : Hunk) : Prop where
  counted : hunk.targetLength = targetCount hunk.shown
  whole : ∀ line ∈ hunk.shown, line.Whole

instance (hunk : Hunk) : Decidable hunk.Sound :=
  decidable_of_iff
    (hunk.targetLength = targetCount hunk.shown ∧ ∀ line ∈ hunk.shown, line.Whole)
    ⟨fun sound => ⟨sound.1, sound.2⟩, fun sound => ⟨sound.counted, sound.whole⟩⟩

theorem whole_groups {hunk : Hunk} (whole : ∀ line ∈ hunk.shown, line.Whole)
    {groups : List (Kind × List Line)}
    (within : ∀ group ∈ groups, group ∈ groupByKind hunk.typedLines) :
    ∀ group ∈ groups, ∀ line ∈ group.2, line.Whole := by
  intro group member line isLine
  have inHunk : (group.1, line) ∈ ungroup (groupByKind hunk.typedLines) :=
    List.mem_flatMap.mpr ⟨group, within group member, List.mem_map.mpr ⟨line, isLine, rfl⟩⟩
  rw [ungroup_groupByKind, typedLines_eq] at inHunk
  obtain ⟨other, isShown, same⟩ := List.mem_map.mp inHunk
  obtain rfl : other = line := congrArg Prod.snd same
  exact whole other isShown

/-- The runs of a hunk take the lines that it shows of the changed file, whatever its header
says. -/
theorem totalAdvance_runs {hunk : Hunk} (whole : ∀ line ∈ hunk.shown, line.Whole) (path : Text) :
    totalAdvance (hunk.runs path) = targetCount hunk.shown := by
  rw [runs, totalAdvance_map_groupRun path (whole_groups whole fun _ member => member),
    ungroup_groupByKind, typedLines_eq, ← targetCount_eq_countP hunk.clear_shown]

theorem Sound.totalAdvance_runs {hunk : Hunk} (sound : hunk.Sound) (path : Text) :
    totalAdvance (hunk.runs path) = hunk.targetLength := by
  rw [Hunk.totalAdvance_runs sound.whole, sound.counted]

/-- The runs of a hunk are its stretches, each after as many lines as stand before it. -/
theorem Sound.mem_spansFrom_runs_iff {hunk : Hunk} (sound : hunk.Sound) (path : Text) (cursor : Nat)
    (span : Span) :
    span ∈ spansFrom cursor (hunk.runs path) ↔
      ∃ kind before lines after, Stretch kind hunk.shown before lines after ∧
        span = ⟨groupRun path (kind, lines), cursor + targetCount before,
          cursor + targetCount before + lines.length - 1⟩ := by
  have wholeLines {kind : Kind} {before lines after : List Line}
      (stretch : Stretch kind hunk.shown before lines after) : ∀ line ∈ lines, line.Whole := by
    intro line member
    exact sound.whole line (by simp [stretch.parts, member])
  have advance {before : List (Kind × List Line)} {linesBefore : List Line}
      (within : ∀ group ∈ before, group ∈ groupByKind hunk.typedLines) (clear : Clear linesBefore)
      (isBefore : linesBefore.map Line.typed = ungroup before) :
      totalAdvance (before.map (groupRun path)) = targetCount linesBefore := by
    rw [totalAdvance_map_groupRun path (whole_groups sound.whole within), ← isBefore,
      targetCount_eq_countP clear]
  have clearBefore {kind : Kind} {before lines after : List Line}
      (stretch : Stretch kind hunk.shown before lines after) : Clear before :=
    (clear_append.mp (stretch.parts ▸ hunk.clear_shown)).1
  rw [mem_spansFrom_iff]
  constructor
  · rintro ⟨runsBefore, run, runsAfter, parts, rfl⟩
    obtain ⟨before, rest, grouped, rfl, isRest⟩ := List.map_eq_append_iff.mp parts
    obtain ⟨⟨kind, lines⟩, after, rfl, rfl, -⟩ := List.map_eq_cons_iff.mp isRest
    have within : ∀ group ∈ before, group ∈ groupByKind hunk.typedLines := by
      intro group member
      simp [grouped, member]
    rw [typedLines_eq] at grouped
    obtain ⟨linesBefore, linesAfter, stretch, isBefore⟩ :=
      isStretch_of_groupByKind hunk.clear_shown grouped
    refine ⟨kind, linesBefore, lines, linesAfter, stretch, ?_⟩
    rw [advance within (clearBefore stretch) isBefore,
      lineCount_groupRun path kind (wholeLines stretch)]
  · rintro ⟨kind, before, lines, after, stretch, rfl⟩
    have grouped := groupByKind_of_isStretch hunk.clear_shown stretch
    rw [← typedLines_eq] at grouped
    have within : ∀ group ∈ groupByKind (before.map Line.typed),
        group ∈ groupByKind hunk.typedLines := by
      intro group member
      simp [grouped, member]
    refine ⟨_, groupRun path (kind, lines),
      _, by rw [runs, grouped, List.map_append, List.map_cons], ?_⟩
    rw [advance within (clearBefore stretch) (ungroup_groupByKind _).symm,
      lineCount_groupRun path kind (wholeLines stretch)]

end Hunk

/-! ## The hunks of a file -/

/-- Hunks in order, none of which begins before the line `cursor` or before the end of another. -/
def Follows (cursor : Nat) : List Hunk → Prop
  | [] => True
  | hunk :: rest => cursor ≤ hunk.firstLine ∧ Follows (hunk.firstLine + hunk.targetLength) rest

instance Follows.decidable (cursor : Nat) : (hunks : List Hunk) → Decidable (Follows cursor hunks)
  | [] => inferInstanceAs (Decidable True)
  | hunk :: rest =>
      have : Decidable (Follows (hunk.firstLine + hunk.targetLength) rest) :=
        Follows.decidable (hunk.firstLine + hunk.targetLength) rest
      inferInstanceAs (Decidable (_ ∧ _))

/-- Gaps before hunks that are not too long to fill. -/
def GapsFit (room cursor : Nat) : List Hunk → Prop
  | [] => True
  | hunk :: rest =>
      hunk.firstLine - cursor ≤ GapError.mostLines room ∧
        GapsFit room (hunk.firstLine + hunk.targetLength) rest

instance GapsFit.decidable (room cursor : Nat) :
    (hunks : List Hunk) → Decidable (GapsFit room cursor hunks)
  | [] => inferInstanceAs (Decidable True)
  | hunk :: rest =>
      have : Decidable (GapsFit room (hunk.firstLine + hunk.targetLength) rest) :=
        GapsFit.decidable room (hunk.firstLine + hunk.targetLength) rest
      inferInstanceAs (Decidable (_ ∧ _))

section Hunks

variable {hunks : List Hunk}

theorem gapError_eq_none_iff (room gap : Nat) :
    GapError.ofGap? room gap = none ↔ gap ≤ GapError.mostLines room := by
  unfold GapError.ofGap?
  split
  · simp [*]
  · split <;> simp [*]

theorem forall_gapsFrom_iff {room cursor : Nat} (sound : ∀ hunk ∈ hunks, hunk.Sound)
    (follows : Follows cursor hunks) :
    (∀ gap ∈ gapsFrom cursor hunks, gap ≤ GapError.mostLines room) ↔ GapsFit room cursor hunks := by
  induction hunks generalizing cursor with
  | nil => simp [gapsFrom, GapsFit]
  | cons hunk rest ih =>
      have begins : cursor + (hunk.firstLine - cursor) = hunk.firstLine :=
        Nat.add_sub_cancel' follows.1
      rw [gapsFrom, GapsFit, (sound hunk (by simp)).totalAdvance_runs, begins, List.forall_mem_cons,
        ih (fun other member => sound other (by simp [member])) follows.2]

theorem gapError?_eq_none_iff (room : Nat) (sound : ∀ hunk ∈ hunks, hunk.Sound)
    (follows : Follows 1 hunks) :
    gapError? room hunks = none ↔ GapsFit room 1 hunks := by
  rw [gapError?, List.findSome?_eq_none_iff, ← forall_gapsFrom_iff sound follows]
  simp only [gapError_eq_none_iff]

theorem kind_of_mem_gapRuns {path : Text} {cursor gap : Nat} {span : Span}
    (member : span ∈ spansFrom cursor (gapRuns path gap)) : span.run.kind = .context := by
  obtain ⟨-, isBlank⟩ := mem_gapRuns_iff.mp (run_mem_of_mem_spansFrom member)
  rw [isBlank]

theorem path_of_mem_runsFrom {path : Text} {cursor : Nat} {run : Run}
    (member : run ∈ runsFrom path cursor hunks) : run.path = path := by
  induction hunks generalizing cursor with
  | nil => cases member
  | cons hunk rest ih =>
      rw [runsFrom, List.mem_append, List.mem_append] at member
      rcases member with (inGap | inHunk) | inRest
      · rw [(mem_gapRuns_iff.mp inGap).2]
      · obtain ⟨group, -, rfl⟩ := List.mem_map.mp inHunk
        rfl
      · exact ih inRest

/-- The added and deleted lines of a file lie where the headers of its hunks say. -/
theorem mem_spansFrom_runsFrom_iff (path : Text) {cursor : Nat} (sound : ∀ hunk ∈ hunks, hunk.Sound)
    (follows : Follows cursor hunks) {span : Span} (changed : span.run.kind ≠ .context) :
    span ∈ spansFrom cursor (runsFrom path cursor hunks) ↔
      ∃ hunk ∈ hunks, span ∈ spansFrom hunk.firstLine (hunk.runs path) := by
  induction hunks generalizing cursor with
  | nil => simp [runsFrom, spansFrom]
  | cons hunk rest ih =>
      -- The gap brings the cursor to the first line of the hunk and has no changed lines itself.
      have begins : cursor + (hunk.firstLine - cursor) = hunk.firstLine :=
        Nat.add_sub_cancel' follows.1
      have notGap : span ∉ spansFrom cursor (gapRuns path (hunk.firstLine - cursor)) :=
        fun member => changed (kind_of_mem_gapRuns member)
      rw [runsFrom, spansFrom_append, spansFrom_append, totalAdvance_append, totalAdvance_gapRuns,
        ← Nat.add_assoc, begins, (sound hunk (by simp)).totalAdvance_runs, List.mem_append,
        List.mem_append, ih (fun other member => sound other (by simp [member])) follows.2]
      simp [notGap]

end Hunks

end ChangeImpact.Patch
