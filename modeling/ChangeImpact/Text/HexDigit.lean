import ChangeImpact.Text.CodePoint
/-!
# Hexadecimal digits
-/
set_option autoImplicit false

namespace ChangeImpact.Text

/-- The digits of a number in base 16, lower case, at least `width` of them. -/
def hexDigits (width number : Nat) : List Char :=
  let digits := Nat.toDigits 16 number
  List.replicate (width - digits.length) '0' ++ digits

def hexValue? : CodePoint → Option Nat
  | .char c =>
      if '0' ≤ c && c ≤ '9' then some (c.toNat - 48)
      else if 'a' ≤ c && c ≤ 'f' then some (c.toNat - 87)
      else if 'A' ≤ c && c ≤ 'F' then some (c.toNat - 55)
      else none
  | .surrogate _ => none

def isHexDigit (point : CodePoint) : Bool :=
  (hexValue? point).isSome

end ChangeImpact.Text
