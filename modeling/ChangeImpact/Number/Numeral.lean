import ChangeImpact.Text.Blank
import ChangeImpact.Text.DecimalDigit
/-!
# Integers from text

An integer is written with an optional sign and the decimal digits of any script, with single
underscores between digits and blanks around. At most `digitLimit` digits are converted.
-/
set_option autoImplicit false

namespace ChangeImpact.Numeral

def digitLimit : Nat := 4300

structure TooLong where
  digits : Nat
  deriving DecidableEq

def TooLong.message (error : TooLong) : String :=
  "Exceeds the limit (" ++ toString digitLimit ++
    " digits) for integer string conversion: value has " ++ toString error.digits ++
    " digits; use sys.set_int_max_str_digits() to increase the limit"

def ofDigits (digits : Text) : Except TooLong Nat :=
  if digitLimit < digits.length then .error ⟨digits.length⟩
  else .ok (Text.numberOfDigits digits)

/-- So many digits stand next to each other, and they are more than are converted. -/
def LongDigits {α : Type} (isDigit : α → Bool) (all : List α) (length : Nat) : Prop :=
  ∃ digits, digits <:+: all ∧ digits.length = length ∧ digitLimit < length ∧
    ∀ digit ∈ digits, isDigit digit = true

theorem LongDigits.mono {α : Type} {isDigit : α → Bool} {part all : List α} {length : Nat}
    (long : LongDigits isDigit part length) (inside : part <:+: all) :
    LongDigits isDigit all length := by
  obtain ⟨digits, isPart, isLength, isLong, areDigits⟩ := long
  exact ⟨digits, isPart.trans inside, isLength, isLong, areDigits⟩

theorem longDigits_of_ofDigits {isDigit : CodePoint → Bool} {digits : Text} {error : TooLong}
    (refused : ofDigits digits = .error error)
    (areDigits : ∀ point ∈ digits, isDigit point = true) :
    LongDigits isDigit digits error.digits := by
  unfold ofDigits at refused
  split at refused
  · rename_i isLong
    cases refused
    exact ⟨digits, List.infix_refl digits, rfl, isLong, areDigits⟩
  · cases refused

inductive Error where
  | malformed
  | tooLong (error : TooLong)
  deriving DecidableEq

/-- Splits off a sign; true for minus. -/
def splitSign : Text → Bool × Text
  | .char '-' :: rest => (true, rest)
  | .char '+' :: rest => (false, rest)
  | rest => (false, rest)

/-- Whether every underscore has a decimal digit on both sides; `before` says whether one precedes.
-/
def underscoresInside (before : Bool) : Text → Bool
  | [] => true
  | .char '_' :: next :: rest =>
      before && Text.isDecimalDigit next && underscoresInside true rest
  | [.char '_'] => false
  | point :: rest => underscoresInside (Text.isDecimalDigit point) rest

def withoutUnderscores (text : Text) : Text :=
  text.filter (· ≠ .char '_')

def signed (negative : Bool) (magnitude : Nat) : Int :=
  if negative then -(magnitude : Int) else magnitude

def readInteger (text : Text) : Except Error Int :=
  let (negative, body) := splitSign (text.dropWhile Text.isWhiteSpace)
  let inNumeral := fun (point : CodePoint) => Text.isDecimalDigit point || point = '_'
  let numeral := body.takeWhile inNumeral
  let rest := body.dropWhile inNumeral
  if underscoresInside false numeral then
    match withoutUnderscores numeral with
    | [] => .error .malformed
    | digits =>
        match ofDigits digits with
        | .error error => .error (.tooLong error)
        | .ok magnitude =>
            if rest.all Text.isWhiteSpace then .ok (signed negative magnitude)
            else .error .malformed
  else .error .malformed

end ChangeImpact.Numeral
