import ChangeImpact.Console.Markup
/-!
# Text that markup leaves as it is

Text is literal if nowhere in it begins a tag and nowhere a backslash stands before an opening
bracket. Markup shows literal text as it is. Any other text it refuses, or shows with fewer code
points.
-/
set_option autoImplicit false

namespace ChangeImpact.Console.Markup

/-- Text that begins with a tag, or with a backslash before an opening bracket. -/
inductive Opens : Text → Prop
  | escaped (rest : Text) : Opens (.char '\\' :: .char '[' :: rest)
  | tag {first : CodePoint} {inside : Text} (starts : startsTag first = true)
      (noOpening : .char '[' ∉ inside) (noClosing : .char ']' ∉ inside) (rest : Text) :
      Opens (.char '[' :: first :: (inside ++ .char ']' :: rest))

def Literal (text : Text) : Prop :=
  ∀ rest, rest <:+ text → ¬Opens rest

/-! ## Where text is literal -/

theorem literal_nil : Literal [] := by
  intro rest isEnd opens
  rw [List.suffix_nil.mp isEnd] at opens
  cases opens

theorem literal_cons {point : CodePoint} {text : Text} :
    Literal (point :: text) ↔ ¬Opens (point :: text) ∧ Literal text := by
  constructor
  · intro literal
    refine ⟨literal _ List.suffix_rfl, ?_⟩
    intro rest isEnd
    exact literal rest (isEnd.trans (List.suffix_cons point text))
  · rintro ⟨notHere, literal⟩ rest isEnd
    rcases List.suffix_cons_iff.mp isEnd with rfl | inText
    · exact notHere
    · exact literal rest inText

theorem Opens.head? {text : Text} (opens : Opens text) :
    text.head? = some (.char '\\') ∨ text.head? = some (.char '[') := by
  cases opens with
  | escaped rest => exact .inl rfl
  | tag starts noOpening noClosing rest => exact .inr rfl

theorem literal_append_iff_of_plain {front : Text}
    (plain : ∀ point ∈ front, point ≠ .char '[' ∧ point ≠ .char '\\') (text : Text) :
    Literal (front ++ text) ↔ Literal text := by
  induction front with
  | nil => rfl
  | cons point front ih =>
      obtain ⟨notOpening, notSlash⟩ := plain point List.mem_cons_self
      have notHere : ¬Opens (point :: (front ++ text)) := by
        intro opens
        rcases opens.head? with isSlash | isOpening
        · exact notSlash (Option.some.inj isSlash)
        · exact notOpening (Option.some.inj isOpening)
      rw [List.cons_append, literal_cons, ih fun other member =>
        plain other (List.mem_cons_of_mem _ member)]
      simp [notHere]

theorem Opens.append {text : Text} (opens : Opens text) (more : Text) : Opens (text ++ more) := by
  cases opens with
  | escaped rest => exact .escaped (rest ++ more)
  | @tag first inside starts noOpening noClosing rest =>
      have opened := Opens.tag starts noOpening noClosing (rest ++ more)
      simpa using opened

theorem opens_of_append_point {text : Text} {point : CodePoint} (notOpening : point ≠ .char '[')
    (notClosing : point ≠ .char ']') (opens : Opens (text ++ [point])) : Opens text := by
  generalize isWhole : text ++ [point] = whole at opens
  cases opens with
  | escaped rest =>
      rcases List.eq_nil_or_concat rest with rfl | ⟨front, last, rfl⟩
      · have last : point = .char '[' := by
          have ends := congrArg List.getLast? isWhole
          simpa using ends
        exact absurd last notOpening
      · have isText : text = .char '\\' :: .char '[' :: front := by
          have parts : text ++ [point] = (.char '\\' :: .char '[' :: front) ++ [last] := by
            simpa using isWhole
          exact List.append_inj_left' parts rfl
        rw [isText]
        exact .escaped front
  | @tag first inside starts noOpening noClosing rest =>
      rcases List.eq_nil_or_concat rest with rfl | ⟨front, last, rfl⟩
      · have last : point = .char ']' := by
          have ends := congrArg List.getLast? isWhole
          simpa [List.getLast?_cons] using ends
        exact absurd last notClosing
      · have isText : text = .char '[' :: first :: (inside ++ .char ']' :: front) := by
          have parts : text ++ [point] =
              (.char '[' :: first :: (inside ++ .char ']' :: front)) ++ [last] := by
            simpa using isWhole
          exact List.append_inj_left' parts rfl
        rw [isText]
        exact .tag starts noOpening noClosing front

theorem literal_append_point_iff {point : CodePoint} (notOpening : point ≠ .char '[')
    (notClosing : point ≠ .char ']') (text : Text) : Literal (text ++ [point]) ↔ Literal text := by
  constructor
  · rintro literal rest ⟨front, rfl⟩ opens
    apply literal (rest ++ [point]) ⟨front, by simp⟩
    exact opens.append [point]
  · intro literal rest isEnd opens
    rcases List.suffix_concat_iff.mp isEnd with rfl | ⟨front, rfl, inText⟩
    · cases opens
    · exact literal front inText (opens_of_append_point notOpening notClosing opens)

/-! ## Tags -/

theorem eq_takeWhile_append_drop {α : Type} (test : α → Bool) (items : List α) :
    items = items.takeWhile test ++ items.drop (items.takeWhile test).length := by
  have isTake := List.prefix_iff_eq_take.mp (List.takeWhile_prefix test (l := items))
  calc
    items = items.take (items.takeWhile test).length ++ items.drop (items.takeWhile test).length :=
      (List.take_append_drop _ _).symm
    _ = items.takeWhile test ++ items.drop (items.takeWhile test).length := by rw [← isTake]

theorem exists_of_tagBody? {text body : Text} (isTag : tagBody? text = some body) :
    ∃ rest, text = body ++ .char ']' :: rest ∧ Opens (.char '[' :: text) := by
  cases text with
  | nil => cases isTag
  | cons first text =>
      rw [tagBody?] at isTag
      split at isTag
      · rename_i found
        cases isTag
        obtain ⟨starts, closes⟩ := Bool.and_eq_true_iff.mp found
        generalize isInside : text.takeWhile (fun point : CodePoint => point ≠ '[' && point ≠ ']') =
          inside at closes
        have isText :=
          eq_takeWhile_append_drop (fun point : CodePoint => point ≠ '[' && point ≠ ']') text
        rw [isInside] at isText
        have clean : ∀ point ∈ inside, point ≠ .char '[' ∧ point ≠ .char ']' := by
          intro point member
          rw [← isInside] at member
          simpa using List.all_eq_true.mp List.all_takeWhile point member
        obtain ⟨rest, isRest⟩ := List.head?_eq_some_iff.mp (of_decide_eq_true closes)
        rw [isRest] at isText
        refine ⟨rest, by rw [isText]; rfl, ?_⟩
        rw [isText]
        exact .tag starts (fun member => (clean _ member).1 rfl)
          (fun member => (clean _ member).2 rfl) rest
      · cases isTag

theorem tagBody?_of_tag {first : CodePoint} {inside : Text} (starts : startsTag first = true)
    (noOpening : .char '[' ∉ inside) (noClosing : .char ']' ∉ inside) (rest : Text) :
    tagBody? (first :: (inside ++ .char ']' :: rest)) = some (first :: inside) := by
  have isInside : (inside ++ .char ']' :: rest).takeWhile (fun point : CodePoint =>
      point ≠ '[' && point ≠ ']') =
      inside := by
    rw [List.takeWhile_append_of_pos, List.takeWhile_cons_of_neg (by decide), List.append_nil]
    intro point member
    have notOpening : point ≠ .char '[' := fun same => noOpening (same ▸ member)
    have notClosing : point ≠ .char ']' := fun same => noClosing (same ▸ member)
    simp [notOpening, notClosing]
  rw [tagBody?, isInside, List.drop_left, List.head?_cons, starts]
  rfl

/-- A tag with the backslashes in front of it. -/
theorem exists_of_tagAt? {text : Text} {slashes : Nat} {tag : Tag}
    (isTag : tagAt? text = some (slashes, tag)) :
    ∃ rest, text = List.replicate slashes (.char '\\') ++
      .char '[' :: (tag.body ++ .char ']' :: rest) ∧
      Opens (.char '[' :: (tag.body ++ .char ']' :: rest)) := by
  rw [tagAt?] at isTag
  generalize areSlashes : text.takeWhile (· = .char '\\') = front at isTag
  have isFront : front = List.replicate front.length (.char '\\') := by
    apply List.eq_replicate_of_mem
    intro point member
    rw [← areSlashes] at member
    simpa using List.all_eq_true.mp List.all_takeWhile point member
  have isText := eq_takeWhile_append_drop (· = CodePoint.char '\\') text
  rw [areSlashes] at isText
  split at isTag
  · rename_i rest isRest
    obtain ⟨body, isBody, same⟩ := Option.map_eq_some_iff.mp isTag
    cases same
    obtain ⟨more, rfl, opens⟩ := exists_of_tagBody? isBody
    refine ⟨more, ?_, opens⟩
    rw [← isFront, ← isRest]
    exact isText
  · cases isTag

theorem tagAt?_of_tag {first : CodePoint} {inside : Text} (starts : startsTag first = true)
    (noOpening : .char '[' ∉ inside) (noClosing : .char ']' ∉ inside) (rest : Text) :
    tagAt? (.char '[' :: first :: (inside ++ .char ']' :: rest)) = some (0, ⟨first :: inside⟩) := by
  have noSlash :
      (CodePoint.char '[' :: first :: (inside ++ .char ']' :: rest)).takeWhile
        (· = .char '\\') = [] :=
    List.takeWhile_cons_of_neg (by decide)
  rw [tagAt?, noSlash]
  simp only [List.length_nil, List.drop_zero, tagBody?_of_tag starts noOpening noClosing rest,
    Option.map_some]

theorem not_literal_of_tagAt? {text : Text} {found : Nat × Tag} (isTag : tagAt? text = some found) :
    ¬Literal text := by
  intro literal
  obtain ⟨slashes, tag⟩ := found
  obtain ⟨rest, rfl, opens⟩ := exists_of_tagAt? isTag
  cases slashes with
  | zero => exact literal _ List.suffix_rfl opens
  | succ slashes =>
      apply literal (.char '\\' :: .char '[' :: (tag.body ++ .char ']' :: rest)) _ (.escaped _)
      rw [List.replicate_succ', List.append_assoc]
      exact List.suffix_append _ _

/-! ## Tokens -/

/-- The code points among tokens. -/
def points (tokens : List Token) : Text :=
  tokens.filterMap fun token =>
    match token with
    | .point point => some point
    | .tag _ _ => none

theorem points_map_point (text : Text) : points (text.map .point) = text := by
  rw [points, List.filterMap_map]
  exact List.filterMap_some

theorem points_cons_point (point : CodePoint) (tokens : List Token) :
    points (.point point :: tokens) = point :: points tokens :=
  rfl

theorem points_append (first second : List Token) :
    points (first ++ second) = points first ++ points second :=
  List.filterMap_append

theorem tokensFrom_skip (position skip : Nat) (point : CodePoint) (rest : Text) :
    tokensFrom position (skip + 1) (point :: rest) = tokensFrom (position + 1) skip rest := by
  rw [tokensFrom]

theorem tokensFrom_tag {point : CodePoint} {rest : Text} {slashes : Nat} {tag : Tag}
    (isTag : tagAt? (point :: rest) = some (slashes, tag)) (position : Nat) :
    tokensFrom position 0 (point :: rest) =
      tagTokens position slashes tag ++
        tokensFrom (position + 1) (slashes + tag.body.length + 1) rest := by
  rw [tokensFrom, isTag]

theorem tokensFrom_escape {point : CodePoint} {rest more : Text}
    (noTag : tagAt? (point :: rest) = none)
    (escapes : point :: rest = .char '\\' :: .char '[' :: more) (position : Nat) :
    tokensFrom position 0 (point :: rest) = .point '[' :: tokensFrom (position + 1) 1 rest := by
  cases escapes
  rw [tokensFrom_skip, tokensFrom, noTag]
  rfl

theorem tokensFrom_point {point : CodePoint} {rest : Text} (noTag : tagAt? (point :: rest) = none)
    (noEscape : ∀ more, point :: rest ≠ .char '\\' :: .char '[' :: more) (position : Nat) :
    tokensFrom position 0 (point :: rest) = .point point :: tokensFrom (position + 1) 0 rest := by
  rw [tokensFrom, noTag]
  apply if_neg
  intro escapes
  obtain ⟨isSlash, isNext⟩ := Bool.and_eq_true_iff.mp escapes
  obtain ⟨more, isRest⟩ := List.head?_eq_some_iff.mp (of_decide_eq_true isNext)
  apply noEscape more
  rw [of_decide_eq_true isSlash, isRest]

/-- Outside a tag there stands another tag, an escaped bracket, or a code point that means
itself. -/
theorem token_cases (point : CodePoint) (rest : Text) :
    (∃ slashes tag, tagAt? (point :: rest) = some (slashes, tag)) ∨
      (tagAt? (point :: rest) = none ∧ ∃ more, point :: rest = .char '\\' :: .char '[' :: more) ∨
      (tagAt? (point :: rest) = none ∧
        ∀ more, point :: rest ≠ .char '\\' :: .char '[' :: more) := by
  cases found : tagAt? (point :: rest) with
  | some tag => exact .inl ⟨tag.1, tag.2, rfl⟩
  | none =>
      by_cases escapes : ∃ more, point :: rest = .char '\\' :: .char '[' :: more
      · exact .inr (.inl ⟨rfl, escapes⟩)
      · exact .inr (.inr ⟨rfl, fun more same => escapes ⟨more, same⟩⟩)

theorem not_opens_of_noTag {text : Text} (noTag : tagAt? text = none)
    (noEscape : ∀ more, text ≠ .char '\\' :: .char '[' :: more) : ¬Opens text := by
  intro opens
  cases opens with
  | escaped rest => exact noEscape rest rfl
  | tag starts noOpening noClosing rest =>
      rw [tagAt?_of_tag starts noOpening noClosing rest] at noTag
      cases noTag

theorem tokensFrom_of_literal {text : Text} (literal : Literal text) (position : Nat) :
    tokensFrom position 0 text = text.map .point := by
  induction text generalizing position with
  | nil => rfl
  | cons point rest ih =>
      rcases token_cases point rest with
        ⟨slashes, tag, isTag⟩ | ⟨-, more, escapes⟩ | ⟨noTag, noEscape⟩
      · exact absurd literal (not_literal_of_tagAt? isTag)
      · rw [escapes] at literal
        exact absurd (.escaped more) (literal _ List.suffix_rfl)
      · rw [tokensFrom_point noTag noEscape, ih (literal_cons.mp literal).2, List.map_cons]

theorem length_points_tagTokens_lt (position slashes : Nat) (tag : Tag) :
    (points (tagTokens position slashes tag)).length < slashes + tag.body.length + 2 := by
  rw [tagTokens, points_append, List.length_append, ← List.map_replicate, points_map_point,
    List.length_replicate]
  by_cases odd : slashes % 2 = 1
  · rw [if_pos odd, points_map_point, Tag.written]
    simp only [List.length_append]
    have opening : (Text.ofString "[").length = 1 := rfl
    have closing : (Text.ofString "]").length = 1 := rfl
    omega
  · rw [if_neg odd]
    have noPoints : points [.tag (position + slashes) tag] = [] := rfl
    rw [noPoints, List.length_nil]
    omega

theorem length_points_tokensFrom (position skip : Nat) {text : Text} (inside : skip ≤ text.length) :
    (points (tokensFrom position skip text)).length + skip ≤ text.length ∧
      (skip = 0 → ¬Literal text →
        (points (tokensFrom position skip text)).length < text.length) := by
  induction text generalizing position skip with
  | nil =>
      refine ⟨by simpa [tokensFrom, points] using inside, ?_⟩
      intro _ notLiteral
      exact absurd literal_nil notLiteral
  | cons point rest ih =>
      rw [List.length_cons] at inside ⊢
      cases skip with
      | succ skip =>
          have := (ih (position + 1) skip (by omega)).1
          rw [tokensFrom_skip]
          exact ⟨by omega, by simp⟩
      | zero =>
          rcases token_cases point rest with
            ⟨slashes, tag, isTag⟩ | ⟨noTag, more, escapes⟩ | ⟨noTag, noEscape⟩
          · obtain ⟨more, isText, -⟩ := exists_of_tagAt? isTag
            have lengths := congrArg List.length isText
            simp only [List.length_cons, List.length_append, List.length_replicate] at lengths
            have := length_points_tagTokens_lt position slashes tag
            have := (ih (position + 1) (slashes + tag.body.length + 1) (by omega)).1
            rw [tokensFrom_tag isTag, points_append, List.length_append]
            omega
          · have lengths := congrArg List.length escapes
            simp only [List.length_cons] at lengths
            have := (ih (position + 1) 1 (by omega)).1
            rw [tokensFrom_escape noTag escapes, points_cons_point, List.length_cons]
            omega
          · have tail := ih (position + 1) 0 (Nat.zero_le _)
            rw [tokensFrom_point noTag noEscape, points_cons_point, List.length_cons]
            refine ⟨by omega, ?_⟩
            intro _ notLiteral
            have := tail.2 rfl fun literal =>
              notLiteral (literal_cons.mpr ⟨not_opens_of_noTag noTag noEscape, literal⟩)
            omega

theorem literal_of_tokens {text : Text} (same : tokens text = text.map .point) : Literal text := by
  apply Classical.byContradiction
  intro notLiteral
  have shorter := (length_points_tokensFrom 0 0 (Nat.zero_le text.length)).2 rfl notLiteral
  rw [← tokens, same, points_map_point] at shorter
  exact Nat.lt_irrefl _ shorter

instance (text : Text) : Decidable (Literal text) :=
  decidable_of_iff (tokens text = text.map .point)
    ⟨literal_of_tokens, fun literal => tokensFrom_of_literal literal 0⟩

theorem mem_of_mem_points_tagTokens {position slashes : Nat} {tag : Tag} {point : CodePoint}
    (member : point ∈ points (tagTokens position slashes tag)) (rest : Text) :
    point ∈ List.replicate slashes (.char '\\') ++
      CodePoint.char '[' :: (tag.body ++ .char ']' :: rest) := by
  rw [tagTokens, points_append, ← List.map_replicate, points_map_point, List.mem_append] at member
  rcases member with isSlash | inTag
  · obtain ⟨many, rfl⟩ := List.mem_replicate.mp isSlash
    exact List.mem_append_left _ (List.mem_replicate.mpr ⟨by omega, rfl⟩)
  · apply List.mem_append_right
    split at inTag
    · rw [points_map_point, Tag.written, List.mem_append, List.mem_append] at inTag
      rcases inTag with (isOpening | inBody) | isClosing
      · rw [List.mem_singleton.mp isOpening]
        exact List.mem_cons_self
      · exact List.mem_cons_of_mem _ (List.mem_append_left _ inBody)
      · rw [List.mem_singleton.mp isClosing]
        exact List.mem_cons_of_mem _ (List.mem_append_right _ List.mem_cons_self)
    · cases inTag

theorem mem_of_mem_points_tokensFrom {position skip : Nat} {text : Text} {point : CodePoint}
    (member : point ∈ points (tokensFrom position skip text)) : point ∈ text := by
  induction text generalizing position skip with
  | nil => cases member
  | cons first rest ih =>
      cases skip with
      | succ skip =>
          rw [tokensFrom_skip] at member
          exact List.mem_cons_of_mem _ (ih member)
      | zero =>
          rcases token_cases first rest with
            ⟨slashes, tag, isTag⟩ | ⟨noTag, more, escapes⟩ | ⟨noTag, noEscape⟩
          · rw [tokensFrom_tag isTag, points_append, List.mem_append] at member
            rcases member with inTag | inRest
            · obtain ⟨more, isText, -⟩ := exists_of_tagAt? isTag
              rw [isText]
              exact mem_of_mem_points_tagTokens inTag more
            · exact List.mem_cons_of_mem _ (ih inRest)
          · rw [tokensFrom_escape noTag escapes, points_cons_point] at member
            rcases List.mem_cons.mp member with rfl | inRest
            · rw [escapes]
              exact List.mem_cons_of_mem _ List.mem_cons_self
            · exact List.mem_cons_of_mem _ (ih inRest)
          · rw [tokensFrom_point noTag noEscape, points_cons_point] at member
            rcases List.mem_cons.mp member with rfl | inRest
            · exact List.mem_cons_self
            · exact List.mem_cons_of_mem _ (ih inRest)

/-! ## Reading -/

theorem sanitize_append (first second : Text) :
    sanitize (first ++ second) = sanitize first ++ sanitize second :=
  List.filter_append ..

theorem shown_of_close {state next : State} {tag : Open} {opened : List Open}
    (closed : state.close tag opened = .ok next) : next.shown = state.shown := by
  rw [State.close] at closed
  split at closed
  · cases closed
  · cases closed
    rfl

theorem shown_of_step {state next : State} {token : Token} (stepped : state.step token = .ok next) :
    next.shown = (sanitize (points [token])).reverse ++ state.shown := by
  cases token with
  | point point =>
      cases stepped
      rw [State.put]
      by_cases dropped : isDroppedControl point = true
      · rw [if_pos dropped]
        simp [points, sanitize, dropped]
      · rw [if_neg dropped]
        simp [points, sanitize, dropped]
  | tag position tag =>
      have noPoints : (sanitize (points [.tag position tag])).reverse = [] := rfl
      rw [noPoints, List.nil_append]
      rw [State.step] at stepped
      split at stepped
      · rw [State.push] at stepped
        split at stepped
        · cases stepped
        · cases stepped
          rfl
      · rw [State.pop] at stepped
        split at stepped
        · cases stepped
        · exact shown_of_close stepped
      · rw [State.popNamed] at stepped
        split at stepped
        · cases stepped
        · split at stepped
          · cases stepped
          · exact shown_of_close stepped

theorem shown_of_run {state final : State} {tokens : List Token}
    (ran : state.run tokens = .ok final) :
    final.shown = (sanitize (points tokens)).reverse ++ state.shown := by
  induction tokens generalizing state with
  | nil =>
      cases ran
      rfl
  | cons token rest ih =>
      rw [State.run] at ran
      split at ran
      · cases ran
      · rename_i next stepped
        have split : points (token :: rest) = points [token] ++ points rest :=
          points_append [token] rest
        rw [ih ran, shown_of_step stepped, split, sanitize_append, List.reverse_append,
          List.append_assoc]

theorem run_points (state : State) (text : Text) :
    state.run (text.map .point) =
      .ok { state with shown := (sanitize text).reverse ++ state.shown } := by
  induction text generalizing state with
  | nil => rfl
  | cons point rest ih =>
      have step :
          state.run ((point :: rest).map .point) = (state.put point).run (rest.map .point) := rfl
      rw [step, ih, State.put]
      by_cases dropped : isDroppedControl point = true
      · simp [sanitize, dropped]
      · simp [sanitize, dropped]

theorem read_of_literal {text : Text} (literal : Literal text) :
    read text = .ok ⟨sanitize text, []⟩ := by
  rw [read, tokens, tokensFrom_of_literal literal, run_points]
  simp [State.start, State.ranges, spansOf]

/-- The text that markup shows has only code points of the markup, and all of them only if it is
literal. -/
theorem text_of_read {text : Text} {styled : StyledText} (isRead : read text = .ok styled) :
    (∀ point ∈ styled.text, point ∈ text) ∧ styled.text.length ≤ text.length ∧
      (¬Literal text → styled.text.length < text.length) := by
  rw [read] at isRead
  split at isRead
  · cases isRead
  · rename_i state ran
    split at isRead
    · cases isRead
    · cases isRead
      have shown := shown_of_run ran
      rw [State.start, List.append_nil, tokens] at shown
      have bounds := length_points_tokensFrom 0 0 (Nat.zero_le text.length)
      have short : state.shown.reverse.length ≤ (points (tokensFrom 0 0 text)).length := by
        rw [shown, List.reverse_reverse]
        exact List.length_filter_le _ _
      refine ⟨?_, Nat.le_trans short bounds.1, ?_⟩
      · intro point member
        dsimp only at member
        rw [shown, List.reverse_reverse] at member
        exact mem_of_mem_points_tokensFrom (List.mem_filter.mp member).1
      · intro notLiteral
        exact Nat.lt_of_le_of_lt short (bounds.2 rfl notLiteral)

end ChangeImpact.Console.Markup
