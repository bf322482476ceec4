import ChangeImpact.Text.CodePoint
/-!
# Decimal digits

The characters of the Unicode category Nd come in runs of ten, from zero to nine.
-/
set_option autoImplicit false

namespace ChangeImpact.Text

def decimalZeros : List Nat :=
  [0x30, 0x660, 0x6f0, 0x7c0, 0x966, 0x9e6, 0xa66, 0xae6, 0xb66, 0xbe6, 0xc66, 0xce6, 0xd66,
    0xde6, 0xe50, 0xed0, 0xf20, 0x1040, 0x1090, 0x17e0, 0x1810, 0x1946, 0x19d0, 0x1a80, 0x1a90,
    0x1b50, 0x1bb0, 0x1c40, 0x1c50, 0xa620, 0xa8d0, 0xa900, 0xa9d0, 0xa9f0, 0xaa50, 0xabf0,
    0xff10, 0x104a0, 0x10d30, 0x11066, 0x110f0, 0x11136, 0x111d0, 0x112f0, 0x11450, 0x114d0,
    0x11650, 0x116c0, 0x11730, 0x118e0, 0x11950, 0x11c50, 0x11d50, 0x11da0, 0x16a60, 0x16ac0,
    0x16b50, 0x1d7ce, 0x1d7d8, 0x1d7e2, 0x1d7ec, 0x1d7f6, 0x1e140, 0x1e2f0, 0x1e950, 0x1fbf0]

/-- The decimal value of a digit of any script. -/
def digitValue? (point : CodePoint) : Option Nat :=
  (decimalZeros.find? fun start => start ≤ point.code && point.code < start + 10).map
    (point.code - ·)

def isDecimalDigit (point : CodePoint) : Bool :=
  (digitValue? point).isSome

def isAsciiDigit (point : CodePoint) : Bool :=
  0x30 ≤ point.code && point.code ≤ 0x39

/-- The number that a list of digits writes in base ten; what is no digit counts as zero. -/
def numberOfDigits (digits : Text) : Nat :=
  digits.foldl (fun number point => 10 * number + (digitValue? point).getD 0) 0

theorem digitValue?_lt_ten {point : CodePoint} {value : Nat}
    (found : digitValue? point = some value) :
    value < 10 := by
  obtain ⟨start, isStart, rfl⟩ := Option.map_eq_some_iff.mp found
  have bounds := List.find?_some isStart
  simp only [Bool.and_eq_true, decide_eq_true_eq] at bounds
  omega

example : decimalZeros.length = 66 := rfl

example : decimalZeros.Pairwise (fun a b => a + 10 ≤ b) := by decide

end ChangeImpact.Text
