/-!
# Tables of code ranges
-/
set_option autoImplicit false

namespace ChangeImpact.Text

/-- The first and the last code of a range. -/
abbrev CodeRange := Nat × Nat

/-- Whether one of the ranges with index from `low` up to but not `high` holds the code, by halving
at most `steps` times. -/
def inRangesFrom (ranges : Array CodeRange) (code : Nat) : (steps low high : Nat) → Bool
  | 0, _, _ => false
  | steps + 1, low, high =>
      if low < high then
        let middle := (low + high) / 2
        match ranges[middle]? with
        | none => false
        | some (first, last) =>
            if code < first then inRangesFrom ranges code steps low middle
            else if last < code then inRangesFrom ranges code steps (middle + 1) high
            else true
      else false

def inRanges (ranges : Array CodeRange) (code : Nat) : Bool :=
  inRangesFrom ranges code ranges.size 0 ranges.size

end ChangeImpact.Text
