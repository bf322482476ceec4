import ChangeImpact.Text.Printable
import Mathlib.Data.List.Chain
/-!
# Searching a table of code ranges

Halving finds a code in a table if and only if a range of the table holds it, when the ranges are in
increasing order.
-/
set_option autoImplicit false

namespace ChangeImpact.Text

/-- A range ends before another begins. -/
def CodeRange.Before (range other : CodeRange) : Prop :=
  range.1 ≤ range.2 ∧ range.2 < other.1

instance (range other : CodeRange) : Decidable (range.Before other) :=
  inferInstanceAs (Decidable (_ ∧ _))

instance : Trans CodeRange.Before CodeRange.Before CodeRange.Before where
  trans := by
    intro first second third before after
    unfold CodeRange.Before at before after ⊢
    omega

/-- Each range of a table is before the next. -/
def Ordered (ranges : Array CodeRange) : Prop :=
  ranges.toList.IsChain CodeRange.Before

section

variable {ranges : Array CodeRange} {code : Nat}

theorem Ordered.before (ordered : Ordered ranges) {index other : Nat} (less : index < other)
    {range next : CodeRange} (isRange : ranges[index]? = some range)
    (isNext : ranges[other]? = some next) : range.Before next := by
  rw [← Array.getElem?_toList] at isRange isNext
  obtain ⟨inside, same⟩ := List.getElem?_eq_some_iff.mp isRange
  obtain ⟨otherInside, otherSame⟩ := List.getElem?_eq_some_iff.mp isNext
  rw [← same, ← otherSame]
  exact List.pairwise_iff_getElem.mp ordered.pairwise index other inside otherInside less

theorem exists_of_inRangesFrom {steps low high : Nat}
    (inside : inRangesFrom ranges code steps low high = true) :
    ∃ range ∈ ranges.toList, range.1 ≤ code ∧ code ≤ range.2 := by
  induction steps generalizing low high with
  | zero => cases inside
  | succ steps ih =>
      rw [inRangesFrom] at inside
      split at inside
      · dsimp only at inside
        split at inside
        · cases inside
        · rename_i first last isThere
          split at inside
          · exact ih inside
          · split at inside
            · exact ih inside
            · have member := Array.mem_of_getElem? isThere
              exact ⟨(first, last), Array.mem_toList_iff.mpr member, by omega, by omega⟩
      · cases inside

theorem exists_of_inRanges (inside : inRanges ranges code = true) :
    ∃ range ∈ ranges.toList, range.1 ≤ code ∧ code ≤ range.2 :=
  exists_of_inRangesFrom inside

/-- The range that holds the code stays between the bounds of the search. -/
theorem inRangesFrom_of_mem (ordered : Ordered ranges) {index : Nat} {range : CodeRange}
    (isRange : ranges[index]? = some range) (least : range.1 ≤ code) (most : code ≤ range.2)
    {steps low high : Nat} (notBefore : low ≤ index) (before : index < high)
    (fits : high ≤ ranges.size) (enough : high ≤ low + steps) :
    inRangesFrom ranges code steps low high = true := by
  induction steps generalizing low high with
  | zero => omega
  | succ steps ih =>
      rw [inRangesFrom, if_pos (by omega)]
      dsimp only
      generalize isMiddle : (low + high) / 2 = middle
      split
      · rename_i isNone
        rw [Array.getElem?_eq_none_iff] at isNone
        omega
      · rename_i first last isThere
        rcases Nat.lt_trichotomy index middle with isLess | same | isMore
        · have apart := ordered.before isLess isRange isThere
          rw [if_pos (Nat.lt_of_le_of_lt most apart.2)]
          apply ih notBefore isLess <;> omega
        · rw [same, isThere] at isRange
          cases isRange
          rw [if_neg (Nat.not_lt.mpr least), if_neg (Nat.not_lt.mpr most)]
        · have apart := ordered.before isMore isThere isRange
          have isAfter : last < code := Nat.lt_of_lt_of_le apart.2 least
          rw [if_neg (Nat.not_lt.mpr (Nat.le_trans apart.1 (Nat.le_of_lt isAfter))),
            if_pos isAfter]
          apply ih (by omega) before fits
          omega

theorem inRanges_iff (ordered : Ordered ranges) :
    inRanges ranges code = true ↔ ∃ range ∈ ranges.toList, range.1 ≤ code ∧ code ≤ range.2 := by
  refine ⟨exists_of_inRanges, ?_⟩
  intro held
  obtain ⟨range, member, least, most⟩ := held
  obtain ⟨index, isRange⟩ := List.mem_iff_getElem?.mp member
  rw [Array.getElem?_toList] at isRange
  obtain ⟨inside, -⟩ := Array.getElem?_eq_some_iff.mp isRange
  apply inRangesFrom_of_mem ordered isRange least most (Nat.zero_le _) inside (Nat.le_refl _)
  omega

end

theorem ordered_hiddenRanges : Ordered hiddenRanges := by
  unfold Ordered
  decide +kernel

theorem isPrintable_surrogate (offset : Fin 0x800) :
    isPrintable (.surrogate offset) = false := by
  have isRange : (0xd7fc, 0xf8ff) ∈ hiddenRanges.toList := by decide +kernel
  have small := offset.isLt
  rw [isPrintable, Bool.not_eq_false', inRanges_iff ordered_hiddenRanges, CodePoint.code,
    CodePoint.firstSurrogate]
  exact ⟨_, isRange, by omega, by omega⟩

end ChangeImpact.Text
