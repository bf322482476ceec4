import ChangeImpact.Proofs.Patch.Numbering
/-!
# Cutting an edit script into hunks

An edit script lists the lines of a file that are kept, removed and added. Hunks show parts of it:
all lines that are not kept, and as many kept ones around them as one likes. However the script is
cut, the hunks add and remove the same lines at the same numbers, those that the script as a whole
has.
-/
set_option autoImplicit false

namespace ChangeImpact.Patch

/-- The lines of a file that are kept, removed and added, in order. -/
structure EditScript where
  lines : List Line
  clear : Clear lines
  whole : ∀ line ∈ lines, line.Whole

/-- A header that counts the lines of its hunk and says where they begin, after so many lines of the
changed file. A hunk without such lines names the line before it. -/
structure Hunk.HeadedAfter (before : Nat) (hunk : Hunk) : Prop where
  counted : hunk.targetLength = targetCount hunk.shown
  begins : hunk.targetStart = if hunk.targetLength = 0 then before else before + 1

/-- A script, after so many lines of the changed file, cut into hunks. The lines in no hunk are
kept, and at least one such line stands between two hunks. -/
inductive Cut : Nat → List Line → List Hunk → Prop
  | done {before : Nat} : Cut before [] []
  | keep {before : Nat} {line : Line} {rest : List Line} {hunks : List Hunk}
      (kept : line.mark = .context) (others : Cut (before + 1) rest hunks) :
      Cut before (line :: rest) hunks
  | last {before : Nat} {hunk : Hunk} (headed : hunk.HeadedAfter before) :
      Cut before hunk.shown [hunk]
  | hunk {before : Nat} {hunk : Hunk} {line : Line} {rest : List Line} {hunks : List Hunk}
      (headed : hunk.HeadedAfter before) (kept : line.mark = .context)
      (others : Cut (before + targetCount hunk.shown + 1) rest hunks) :
      Cut before (hunk.shown ++ line :: rest) (hunk :: hunks)

theorem Hunk.HeadedAfter.firstLine_eq {before : Nat} {hunk : Hunk}
    (headed : hunk.HeadedAfter before) :
    hunk.firstLine = before + 1 := by
  rw [Hunk.firstLine, headed.begins]
  split <;> rfl

theorem targetCount_cons_of_kept {line : Line} (kept : line.mark = .context) (rest : List Line) :
    targetCount (line :: rest) = targetCount rest + 1 := by
  simp [targetCount, Line.inTarget, kept]

/-! ## Cut hunks are sound -/

namespace Cut

variable {before : Nat} {script : List Line} {hunks : List Hunk}

theorem sound (cut : Cut before script hunks) (whole : ∀ line ∈ script, line.Whole) :
    ∀ hunk ∈ hunks, hunk.Sound := by
  induction cut with
  | done => nofun
  | keep _ _ ih => exact ih fun line member => whole line (by simp [member])
  | last headed =>
      intro hunk member
      obtain rfl := List.mem_singleton.mp member
      exact ⟨headed.counted, whole⟩
  | hunk headed _ _ ih =>
      refine List.forall_mem_cons.mpr ⟨⟨headed.counted, ?_⟩, ih ?_⟩
      · exact fun line member => whole line (by simp [member])
      · exact fun line member => whole line (by simp [member])

theorem follows (cut : Cut before script hunks) {cursor : Nat} (reached : cursor ≤ before + 1) :
    Follows cursor hunks := by
  induction cut generalizing cursor with
  | done => trivial
  | keep _ _ ih => exact ih (by omega)
  | last headed => exact ⟨by rwa [headed.firstLine_eq], trivial⟩
  | hunk headed _ _ ih =>
      refine ⟨by rwa [headed.firstLine_eq], ih ?_⟩
      rw [headed.firstLine_eq, headed.counted]
      omega

/-- No gap is longer than the changed file. -/
theorem gapsFit (cut : Cut before script hunks) {room cursor : Nat} (reached : 1 ≤ cursor)
    (small : before + targetCount script ≤ GapError.mostLines room) :
    GapsFit room cursor hunks := by
  induction cut generalizing cursor with
  | done => trivial
  | keep kept _ ih =>
      rw [targetCount_cons_of_kept kept] at small
      exact ih reached (by omega)
  | last headed =>
      refine ⟨?_, trivial⟩
      rw [headed.firstLine_eq]
      omega
  | hunk headed kept _ ih =>
      rw [targetCount_append, targetCount_cons_of_kept kept] at small
      rw [GapsFit, headed.firstLine_eq]
      exact ⟨by omega, ih (by omega) (by omega)⟩

end Cut

/-! ## Lines apart from a kept one -/

theorem addsAt_append_iff (first : Nat) (left right : List Line) (number : Nat) :
    AddsAt first (left ++ right) number ↔
      AddsAt first left number ∨ AddsAt (first + targetCount left) right number := by
  constructor
  · rintro ⟨before, line, after, parts, isAdded, rfl⟩
    rcases List.append_eq_append_iff.mp parts with ⟨more, rfl, isRight⟩ | ⟨more, rfl, isLine⟩
    · refine .inr ⟨more, line, after, isRight, isAdded, ?_⟩
      rw [targetCount_append, Nat.add_assoc]
    · cases more with
      | nil =>
          refine .inr ⟨[], line, after, isLine.symm, isAdded, ?_⟩
          simp [targetCount]
      | cons other more =>
          obtain ⟨rfl, -⟩ := List.cons.inj isLine
          exact .inl ⟨before, line, more, rfl, isAdded, rfl⟩
  · rintro (⟨before, line, after, rfl, isAdded, rfl⟩ | ⟨before, line, after, rfl, isAdded, rfl⟩)
    · exact ⟨before, line, after ++ right, by simp, isAdded, rfl⟩
    · refine ⟨left ++ before, line, after, by simp, isAdded, ?_⟩
      rw [targetCount_append, Nat.add_assoc]

theorem addsAt_cons_iff {line : Line} (kept : line.mark = .context) (first : Nat) (rest : List Line)
    (number : Nat) : AddsAt first (line :: rest) number ↔ AddsAt (first + 1) rest number := by
  have notAdded : ¬AddsAt first [line] number := by
    rintro ⟨before, other, after, parts, isAdded, -⟩
    have member : other ∈ [line] := by simp [parts]
    rw [List.mem_singleton.mp member, kept] at isAdded
    cases isAdded
  rw [← List.singleton_append, addsAt_append_iff, targetCount_cons_of_kept kept]
  simp [notAdded, targetCount]

theorem getLast?_append_cons_cons (left right : List Line) (line next : Line) :
    (left ++ line :: next :: right).getLast? = (next :: right).getLast? := by
  rw [List.getLast?_append_of_ne_nil _ (by simp), List.getLast?_cons_cons]

theorem stretch_append_cons_iff {kind : Kind} {line : Line} (apart : line.kind? ≠ some kind)
    (left right before lines after : List Line) :
    Stretch kind (left ++ line :: right) before lines after ↔
      (∃ rest, after = rest ++ line :: right ∧ Stretch kind left before lines rest) ∨
        ∃ start, before = left ++ line :: start ∧ Stretch kind right start lines after := by
  constructor
  · rintro ⟨parts, nonEmpty, uniform, apartBefore, apartAfter⟩
    -- The stretch does not reach over a line of another kind, so it lies on one side of it.
    have notInside : line ∉ lines := fun member => apart (uniform line member)
    rcases List.append_eq_append_iff.mp parts with ⟨more, rfl, isRight⟩ | ⟨more, rfl, isLines⟩
    · cases more with
      | nil =>
          cases lines with
          | nil => exact absurd rfl nonEmpty
          | cons other others =>
              obtain ⟨rfl, -⟩ := List.cons.inj isRight
              exact absurd List.mem_cons_self notInside
      | cons other start =>
          obtain ⟨rfl, rfl⟩ := List.cons.inj isRight
          refine .inr ⟨start, rfl, rfl, nonEmpty, uniform, ?_, apartAfter⟩
          cases start with
          | nil => nofun
          | cons next others => rwa [getLast?_append_cons_cons] at apartBefore
    · rcases List.append_eq_append_iff.mp isLines with ⟨rest, rfl, rfl⟩ | ⟨rest, rfl, isRight⟩
      · refine .inl ⟨rest, rfl, rfl, nonEmpty, uniform, apartBefore, ?_⟩
        cases rest with
        | nil => nofun
        | cons next others => exact apartAfter
      · cases rest with
        | nil =>
            refine .inl ⟨[], isRight.symm, by simp, nonEmpty, uniform, apartBefore, nofun⟩
        | cons other others =>
            obtain ⟨rfl, -⟩ := List.cons.inj isRight
            exact absurd (by simp) notInside
  · rintro (⟨rest, rfl, rfl, nonEmpty, uniform, apartBefore, apartAfter⟩ |
      ⟨start, rfl, rfl, nonEmpty, uniform, apartBefore, apartAfter⟩)
    · refine ⟨by simp, nonEmpty, uniform, apartBefore, ?_⟩
      cases rest with
      | nil => simpa using apart
      | cons next others => exact apartAfter
    · refine ⟨by simp, nonEmpty, uniform, ?_, apartAfter⟩
      cases start with
      | nil => simpa using apart
      | cons next others => rwa [getLast?_append_cons_cons]

theorem removesAt_append_cons_iff {line : Line} (kept : line.mark = .context) (first : Nat)
    (left right : List Line) (start count : Nat) :
    RemovesAt first (left ++ line :: right) start count ↔
      RemovesAt first left start count ∨
        RemovesAt (first + targetCount left + 1) right start count := by
  have apart : line.kind? ≠ some .deletion := by simp [Line.kind?, kept]
  have numbered (before : List Line) : first + targetCount (left ++ line :: before) =
      first + targetCount left + 1 + targetCount before := by
    rw [targetCount_append, targetCount_cons_of_kept kept]
    omega
  simp only [RemovesAt, stretch_append_cons_iff apart]
  constructor
  · rintro ⟨before, removed, after, ⟨rest, rfl, stretch⟩ | ⟨others, rfl, stretch⟩, rfl, rfl⟩
    · exact .inl ⟨before, removed, rest, stretch, rfl, rfl⟩
    · exact .inr ⟨others, removed, after, stretch, numbered others, rfl⟩
  · rintro (⟨before, removed, after, stretch, rfl, rfl⟩ |
      ⟨before, removed, after, stretch, rfl, rfl⟩)
    · exact ⟨before, removed, _, .inl ⟨after, rfl, stretch⟩, rfl, rfl⟩
    · exact ⟨_, removed, after, .inr ⟨before, rfl, stretch⟩, (numbered before).symm, rfl⟩

theorem not_removesAt_nil (first start count : Nat) : ¬RemovesAt first [] start count := by
  rintro ⟨before, removed, after, stretch, -⟩
  obtain ⟨-, empty⟩ := List.append_eq_nil_iff.mp stretch.parts.symm
  exact stretch.nonEmpty (List.append_eq_nil_iff.mp empty).1

/-! ## The lines of all hunks -/

namespace Cut

variable {before : Nat} {script : List Line} {hunks : List Hunk}

theorem exists_addsAt_iff (cut : Cut before script hunks) (number : Nat) :
    (∃ hunk ∈ hunks, AddsAt hunk.firstLine hunk.shown number) ↔
      AddsAt (before + 1) script number := by
  induction cut with
  | done => simp [AddsAt]
  | keep kept _ ih => rw [ih, addsAt_cons_iff kept]
  | last headed => simp [headed.firstLine_eq]
  | @hunk before hunk _ _ _ headed kept _ ih =>
      rw [addsAt_append_iff, addsAt_cons_iff kept, List.exists_mem_cons_iff, ih,
        headed.firstLine_eq, Nat.add_right_comm before 1]

theorem exists_removesAt_iff (cut : Cut before script hunks) (start count : Nat) :
    (∃ hunk ∈ hunks, RemovesAt hunk.firstLine hunk.shown start count) ↔
      RemovesAt (before + 1) script start count := by
  induction cut with
  | done => simp [not_removesAt_nil]
  | keep kept _ ih =>
      rw [ih, ← List.nil_append (_ :: _), removesAt_append_cons_iff kept]
      simp [not_removesAt_nil, targetCount]
  | last headed => simp [headed.firstLine_eq]
  | @hunk before hunk _ _ _ headed kept _ ih =>
      rw [removesAt_append_cons_iff kept, List.exists_mem_cons_iff, ih, headed.firstLine_eq,
        Nat.add_right_comm before 1]

end Cut

/-! ## The hunks of a width -/

def Line.isChange (line : Line) : Bool :=
  line.mark = .removed || line.mark = .added

/-- Whether one of the lines up to `width` before and after the one at this index is a change. -/
def nearChange (width : Nat) (lines : List Line) (index : Nat) : Bool :=
  ((lines.take (index + width + 1)).drop (index - width)).any Line.isChange

def sourceCount (lines : List Line) : Nat :=
  lines.countP fun line => line.mark = .context || line.mark = .removed

/-- The hunk that shows these lines, after so many lines of the file before and after the change. -/
def Hunk.ofWindow (source target : Nat) (window : List Line) : Hunk where
  sourceStart := if sourceCount window = 0 then source else source + 1
  sourceLength := sourceCount window
  targetStart := if targetCount window = 0 then target else target + 1
  targetLength := targetCount window
  lines := window

/-- The hunks of lines of which each is marked as shown or not, when `window` was shown just before
them, after so many lines of the file before and after the change. -/
def hunksOfMarked (source target : Nat) (window : List Line) : List (Bool × Line) → List Hunk
  | [] => if window = [] then [] else [.ofWindow source target window]
  | (true, line) :: rest => hunksOfMarked source target (window ++ [line]) rest
  | (false, _) :: rest =>
      if window = [] then hunksOfMarked (source + 1) (target + 1) [] rest
      else
        .ofWindow source target window ::
          hunksOfMarked (source + sourceCount window + 1) (target + targetCount window + 1) [] rest

/-- The hunks that show every change and up to `width` kept lines on each side of it. -/
def hunksOfWidth (width : Nat) (lines : List Line) : List Hunk :=
  hunksOfMarked 0 0 [] (lines.mapIdx fun index line => (nearChange width lines index, line))

theorem Hunk.shown_ofWindow (source target : Nat) {window : List Line} (clear : Clear window) :
    (Hunk.ofWindow source target window).shown = window := by
  apply List.filter_eq_self.mpr
  intro line member
  simpa using clear line member

theorem Hunk.headedAfter_ofWindow (source target : Nat) {window : List Line}
    (clear : Clear window) :
    (Hunk.ofWindow source target window).HeadedAfter target :=
  ⟨by rw [shown_ofWindow source target clear]; rfl, rfl⟩

theorem Cut.ofWindow (source : Nat) {target : Nat} {window : List Line} (clear : Clear window)
    {line : Line} (kept : line.mark = .context) {rest : List Line} {hunks : List Hunk}
    (others : Cut (target + targetCount window + 1) rest hunks) :
    Cut target (window ++ line :: rest) (.ofWindow source target window :: hunks) := by
  have shown := Hunk.shown_ofWindow source target clear
  rw [← shown] at others
  have cut := Cut.hunk (Hunk.headedAfter_ofWindow source target clear) kept others
  rwa [shown] at cut

theorem cut_hunksOfMarked (source target : Nat) {window : List Line} {marked : List (Bool × Line)}
    (clearWindow : Clear window) (clear : Clear (marked.map Prod.snd))
    (kept : ∀ line, (false, line) ∈ marked → line.mark = .context) :
    Cut target (window ++ marked.map Prod.snd) (hunksOfMarked source target window marked) := by
  induction marked generalizing source target window with
  | nil =>
      rw [hunksOfMarked, List.map_nil, List.append_nil]
      split
      · rename_i empty
        rw [empty]
        exact .done
      · have last := Cut.last (Hunk.headedAfter_ofWindow source target clearWindow)
        rwa [Hunk.shown_ofWindow source target clearWindow] at last
  | cons first rest ih =>
      obtain ⟨isShown, line⟩ := first
      obtain ⟨clearLine, clearRest⟩ := List.forall_mem_cons.mp clear
      have keptRest : ∀ line, (false, line) ∈ rest → line.mark = .context :=
        fun line member => kept line (by simp [member])
      cases isShown with
      | true =>
          have clearLonger : Clear (window ++ [line]) :=
            clear_append.mpr ⟨clearWindow, by simpa [Clear] using clearLine⟩
          have cut := ih source target clearLonger clearRest keptRest
          rwa [List.append_assoc, List.singleton_append] at cut
      | false =>
          have isKept : line.mark = .context := kept line (by simp)
          have none : Clear [] := by simp [Clear]
          rw [hunksOfMarked]
          split
          · rename_i empty
            rw [empty]
            exact .keep isKept (ih (source + 1) (target + 1) none clearRest keptRest)
          · exact .ofWindow source clearWindow isKept
              (ih (source + sourceCount window + 1) _ none clearRest keptRest)

theorem isChange_eq_false_of_nearChange {width index : Nat} {lines : List Line} {line : Line}
    (isLine : lines[index]? = some line) (notNear : nearChange width lines index = false) :
    line.isChange = false := by
  unfold nearChange at notNear
  rw [List.any_eq_false] at notNear
  simpa using notNear line (by
    apply List.mem_of_getElem? (i := index - (index - width))
    rw [List.getElem?_drop, Nat.add_sub_cancel' (Nat.sub_le ..),
      List.getElem?_take_of_lt (by omega), isLine])

theorem cut_hunksOfWidth (width : Nat) {lines : List Line} (clear : Clear lines) :
    Cut 0 lines (hunksOfWidth width lines) := by
  have unmarked :
      (lines.mapIdx fun index line => (nearChange width lines index, line)).map Prod.snd =
      lines :=
    List.ext_getElem (by simp) (by simp)
  have kept : ∀ line, (false, line) ∈ lines.mapIdx (fun index line =>
      (nearChange width lines index, line)) → line.mark = .context := by
    intro line member
    obtain ⟨index, inside, same⟩ := List.mem_mapIdx.mp member
    obtain ⟨notNear, rfl⟩ := Prod.mk.inj same
    have notChange := isChange_eq_false_of_nearChange (List.getElem?_eq_getElem inside) notNear
    have isClear := clear _ (List.getElem_mem inside)
    generalize lines[index] = line at notChange isClear
    obtain ⟨mark, value⟩ := line
    cases mark with
    | context => rfl
    | noLineEnd => exact absurd rfl isClear
    | _ => cases notChange
  have nothing : Clear [] := by simp [Clear]
  have cut := cut_hunksOfMarked 0 0 nothing (by rwa [unmarked]) kept
  rwa [unmarked, List.nil_append] at cut

end ChangeImpact.Patch
