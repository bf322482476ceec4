import ChangeImpact.Proofs.Text.CodeRanges
import ChangeImpact.Text.Utf8
/-!
# Text on one line

Numbers, and whatever stands between quotes in a message, are on one line and can be written
anywhere.
-/
set_option autoImplicit false

namespace ChangeImpact

/-- There is no line end in the text. -/
def OneLine (text : Text) : Prop :=
  .char '\n' ∉ text

instance (text : Text) : Decidable (OneLine text) :=
  inferInstanceAs (Decidable (¬_))

/-! ## Pieces -/

@[simp] theorem oneLine_append {first second : Text} :
    OneLine (first ++ second) ↔ OneLine first ∧ OneLine second := by
  simp only [OneLine, List.mem_append, not_or]

theorem Text.ofString_append (first second : String) :
    Text.ofString (first ++ second) = Text.ofString first ++ Text.ofString second := by
  rw [Text.ofString, String.toList_append, Text.ofChars, List.map_append]
  rfl

@[simp] theorem oneLine_ofString_append {first second : String} :
    OneLine (Text.ofString (first ++ second)) ↔
      OneLine (Text.ofString first) ∧ OneLine (Text.ofString second) := by
  rw [Text.ofString_append, oneLine_append]

theorem oneLine_ofChars {chars : List Char} : OneLine (Text.ofChars chars) ↔ '\n' ∉ chars := by
  simp [OneLine, Text.ofChars]

theorem oneLine_ofString_ofList {chars : List Char} :
    OneLine (Text.ofString (String.ofList chars)) ↔ '\n' ∉ chars := by
  rw [Text.ofString, String.toList_ofList, oneLine_ofChars]

theorem oneLine_literal {chars : List Char} (noEnd : '\n' ∉ chars) :
    OneLine (Text.ofString (String.ofList chars)) :=
  oneLine_ofString_ofList.mpr noEnd

/-! ## Numbers -/

theorem digitChar_ne_lineEnd (digit : Nat) : Nat.digitChar digit ≠ '\n' := by
  by_cases small : digit < 16
  · have table : ∀ digit < 16, Nat.digitChar digit ≠ '\n' := by decide
    exact table digit small
  · have large (value : Nat) (isDigit : value < 16) : digit ≠ value := by omega
    simp [Nat.digitChar, large]

theorem lineEnd_notMem_toDigits {base : Nat} (atLeastTwo : 1 < base) (number : Nat) :
    '\n' ∉ Nat.toDigits base number := by
  induction number using Nat.strongRecOn with
  | ind number ih =>
      by_cases small : number < base
      · rw [Nat.toDigits_of_lt_base small, List.mem_singleton]
        exact (digitChar_ne_lineEnd number).symm
      · have large : base ≤ number := Nat.not_lt.mp small
        rw [Nat.toDigits_of_base_le atLeastTwo large, List.mem_append, List.mem_singleton, not_or]
        have positive : 0 < number := by omega
        exact ⟨ih _ (Nat.div_lt_self positive atLeastTwo), (digitChar_ne_lineEnd _).symm⟩

@[simp] theorem oneLine_toString_nat (number : Nat) :
    OneLine (Text.ofString (toString number)) := by
  have same : (toString number).toList = Nat.toDigits 10 number := Nat.toList_repr
  rw [Text.ofString, same, oneLine_ofChars]
  exact lineEnd_notMem_toDigits (by decide) number

theorem lineEnd_notMem_hexDigits (width number : Nat) : '\n' ∉ Text.hexDigits width number := by
  rw [Text.hexDigits, List.mem_append, not_or]
  refine ⟨?_, lineEnd_notMem_toDigits (by decide) number⟩
  intro member
  cases List.eq_of_mem_replicate member

theorem lineEnd_notMem_escapeOfCode (code : Nat) : '\n' ∉ Text.escapeOfCode code := by
  unfold Text.escapeOfCode
  split
  · simp [lineEnd_notMem_hexDigits]
  · split <;> simp [lineEnd_notMem_hexDigits]

/-! ## What can be told -/

/-- Text that can be told on one line: there is no line end in it, and for one who writes strictly
no surrogate either. -/
def Tellable (strict : Bool) (text : Text) : Prop :=
  ∀ point ∈ text, point ≠ .char '\n' ∧ (strict = true → Utf8.isSurrogate point = false)

instance (strict : Bool) (text : Text) : Decidable (Tellable strict text) :=
  inferInstanceAs (Decidable (∀ point ∈ text, _))

section

variable {strict : Bool}

theorem Tellable.oneLine {text : Text} (tellable : Tellable strict text) : OneLine text :=
  fun member => (tellable _ member).1 rfl

@[simp] theorem tellable_append {first second : Text} :
    Tellable strict (first ++ second) ↔ Tellable strict first ∧ Tellable strict second := by
  simp only [Tellable, List.mem_append, or_imp, forall_and]
  exact and_and_and_comm

theorem tellable_ofChars {chars : List Char} :
    Tellable strict (Text.ofChars chars) ↔ '\n' ∉ chars := by
  refine ⟨fun tellable => oneLine_ofChars.mp tellable.oneLine, ?_⟩
  intro noEnd point member
  obtain ⟨c, isChar, rfl⟩ := List.mem_map.mp member
  refine ⟨?_, fun _ => rfl⟩
  intro isEnd
  cases isEnd
  exact noEnd isChar

@[simp] theorem tellable_ofString {text : String} :
    Tellable strict (Text.ofString text) ↔ OneLine (Text.ofString text) :=
  tellable_ofChars.trans oneLine_ofChars.symm

theorem tellable_literal {chars : List Char} (noEnd : '\n' ∉ chars) :
    Tellable strict (Text.ofString (String.ofList chars)) :=
  tellable_ofString.mpr (oneLine_literal noEnd)

theorem tellable_quoteMark (text : Text) : Tellable strict [Text.quoteMark text] := by
  unfold Text.quoteMark
  split
  · have shown : Tellable strict (Text.ofChars ['"']) := tellable_ofChars.mpr (by decide)
    exact shown
  · have shown : Tellable strict (Text.ofChars ['\'']) := tellable_ofChars.mpr (by decide)
    exact shown

theorem tellable_of_isPrintable {point : CodePoint} (notEnd : point ≠ .char '\n')
    (shows : Text.isPrintable point = true) : Tellable strict [point] := by
  intro other member
  rw [List.mem_singleton] at member
  rw [member]
  refine ⟨notEnd, fun _ => ?_⟩
  cases point with
  | char c => rfl
  | surrogate offset => cases (Text.isPrintable_surrogate offset).symm.trans shows

theorem tellable_quotedPoint {mark : CodePoint} (isMark : Tellable strict [mark])
    (point : CodePoint) : Tellable strict (Text.quotedPoint mark point) := by
  unfold Text.quotedPoint
  split
  · rename_i isSpecial
    simp only [Bool.or_eq_true, decide_eq_true_eq] at isSpecial
    have escape : Tellable strict (Text.ofChars ['\\']) := tellable_ofChars.mpr (by decide)
    have shown : Tellable strict (Text.ofChars ['\\'] ++ [point]) := by
      refine tellable_append.mpr ⟨escape, ?_⟩
      rcases isSpecial with isEscape | same
      · rw [isEscape]
        exact escape
      · rw [same]
        exact isMark
    exact shown
  · split
    · exact tellable_literal (by decide)
    · rename_i notEnd
      split
      · exact tellable_literal (by decide)
      · split
        · exact tellable_literal (by decide)
        · split
          · rename_i shows
            exact tellable_of_isPrintable notEnd shows
          · exact tellable_ofChars.mpr (lineEnd_notMem_escapeOfCode _)

@[simp] theorem tellable_quoted (text : Text) : Tellable strict (Text.quoted text) := by
  have isMark : Tellable strict [Text.quoteMark text] := tellable_quoteMark text
  have shown : Tellable strict (text.flatMap (Text.quotedPoint (Text.quoteMark text))) := by
    intro point member
    obtain ⟨original, -, inside⟩ := List.mem_flatMap.mp member
    exact tellable_quotedPoint isMark original point inside
  have whole : Tellable strict ([Text.quoteMark text] ++
      text.flatMap (Text.quotedPoint (Text.quoteMark text)) ++ [Text.quoteMark text]) := by
    rw [tellable_append, tellable_append]
    exact ⟨⟨isMark, shown⟩, isMark⟩
  exact whole

end

end ChangeImpact
