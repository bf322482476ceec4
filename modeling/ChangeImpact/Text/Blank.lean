import ChangeImpact.Text.CodePoint
/-!
# Blank characters

The blanks of Unicode, the four ASCII separators 1C to 1F included, and trimming by them.
-/
set_option autoImplicit false

namespace ChangeImpact.Text

/-- Code ranges of the blank characters, ends included, in increasing order. -/
def blankRanges : List (Nat × Nat) :=
  [(0x9, 0xd), (0x1c, 0x20), (0x85, 0x85), (0xa0, 0xa0), (0x1680, 0x1680), (0x2000, 0x200a),
    (0x2028, 0x2029), (0x202f, 0x202f), (0x205f, 0x205f), (0x3000, 0x3000)]

def isBlank (point : CodePoint) : Bool :=
  blankRanges.any fun range => range.1 ≤ point.code && point.code ≤ range.2

/-- The characters with the property White_Space: the blanks but for the ASCII separators. -/
def isWhiteSpace (point : CodePoint) : Bool :=
  isBlank point && !(0x1c ≤ point.code && point.code ≤ 0x1f)

def trimBy {α : Type} (test : α → Bool) (items : List α) : List α :=
  ((items.dropWhile test).reverse.dropWhile test).reverse

def trim (text : Text) : Text :=
  trimBy isBlank text

def dropEndBlanks (text : Text) : Text :=
  (text.reverse.dropWhile isBlank).reverse

def consWord (point : CodePoint) (words : Text × List Text) : Text × List Text :=
  if isBlank point then ([], if words.1.isEmpty then words.2 else words.1 :: words.2)
  else (point :: words.1, words.2)

def words (text : Text) : List Text :=
  let (first, rest) := text.foldr consWord ([], [])
  if first.isEmpty then rest else first :: rest

theorem isBlank_of_isWhitespace (c : Char) (blank : c.isWhitespace = true) :
    isBlank (.char c) = true := by
  simp only [Char.isWhitespace, Bool.or_eq_true, decide_eq_true_eq] at blank
  rcases blank with ((blank | blank) | blank) | blank <;> subst blank <;> decide

end ChangeImpact.Text
