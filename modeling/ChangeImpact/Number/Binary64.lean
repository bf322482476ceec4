import ChangeImpact.Number.Numeral
import ChangeImpact.Text.Quoted
/-!
# Binary floating-point numbers from decimal text
-/
set_option autoImplicit false

namespace ChangeImpact.Binary64

def infinity : Float := 1.0 / 0.0

def notANumber : Float := 0.0 / 0.0

def negateIf (negative : Bool) (value : Float) : Float :=
  if negative then -value else value

/-- The double nearest to `mantissa * 10 ^ exponent`. Numbers beyond every double are told by the
place of their first digit, before any power of ten is computed. -/
def ofDecimal (mantissa : Nat) (exponent : Int) : Float :=
  if mantissa = 0 then 0.0
  else
    let places : Int := (Nat.toDigits 10 mantissa).length + exponent
    if 310 < places then infinity
    else if places < -330 then 0.0
    else Float.ofScientific mantissa (exponent < 0) exponent.natAbs

/-- The least whole number that is not below a value, which is not negative. From 2 to the power 53
on every value is whole. -/
def ceiling (value : Float) : Float :=
  if 0.0 ≤ value && value < 9007199254740992.0 then
    let whole := value.toUInt64.toFloat
    if whole < value then whole + 1.0 else whole
  else value

structure Decimal where
  whole : Text
  fraction : Text
  exponent : Int

def Decimal.toFloat (decimal : Decimal) : Float :=
  ofDecimal (Text.numberOfDigits (decimal.whole ++ decimal.fraction))
    (decimal.exponent - decimal.fraction.length)

def readExponent? (isDigit : CodePoint → Bool) : Text → Option (Int × Text)
  | [] => none
  | mark :: rest =>
      if mark = 'e' || mark = 'E' then
        let (negative, body) := Numeral.splitSign rest
        match body.takeWhile isDigit with
        | [] => none
        | digits =>
            some (Numeral.signed negative (Text.numberOfDigits digits), body.dropWhile isDigit)
      else none

/-- Reads unsigned decimal text: digits with a point among or beside them, and an exponent. -/
def readDecimal? (isDigit : CodePoint → Bool) (text : Text) : Option Decimal :=
  let whole := text.takeWhile isDigit
  let (fraction, rest) :=
    match text.dropWhile isDigit with
    | .char '.' :: rest => (rest.takeWhile isDigit, rest.dropWhile isDigit)
    | rest => ([], rest)
  if whole.isEmpty && fraction.isEmpty then none
  else
    match rest, readExponent? isDigit rest with
    | [], _ => some ⟨whole, fraction, 0⟩
    | _, some (exponent, []) => some ⟨whole, fraction, exponent⟩
    | _, _ => none

/-- Reads a signed number, or one of the words for infinity and for no number, in any case. -/
def readSigned? (isDigit : CodePoint → Bool) (text : Text) : Option Float :=
  let (negative, body) := Numeral.splitSign text
  let word := Text.asciiLower body
  if word = "inf" || word = "infinity" then some (negateIf negative infinity)
  else if word = "nan" then some notANumber
  else (readDecimal? isDigit body).map fun decimal => negateIf negative decimal.toFloat

/-- Reads a number with blanks around it and single underscores between its digits, which may be
those of any script. -/
def read? (text : Text) : Option Float :=
  let body := Text.trimBy Text.isWhiteSpace text
  if Numeral.underscoresInside false body then
    readSigned? Text.isDecimalDigit (Numeral.withoutUnderscores body)
  else none

/-! ## Writing -/

def signBit : Nat := 0x8000000000000000

/-- The bit of the mantissa that is not stored, 2 to the power 52. -/
def hiddenBit : Nat := 0x10000000000000

/-- A finite double is `mantissa * 2 ^ exponent`; none for an infinity and for no number. -/
def mantissaAndExponent? (value : Float) : Option (Nat × Int) :=
  let magnitude := value.toBits.toNat % signBit
  let field : Nat := magnitude / hiddenBit
  let low := magnitude % hiddenBit
  if field = 0x7ff then none
  else if field = 0 then some (low, -1074)
  else some (hiddenBit + low, (field : Int) - 1075)

def isNegative (value : Float) : Bool :=
  signBit ≤ value.toBits.toNat

/-- The decimal text of `number / 10 ^ places`, with a digit on both sides of the point and no
needless zero after it. -/
def pointed (number places : Nat) : List Char :=
  let digits := Nat.toDigits 10 number
  let padded := List.replicate (places + 1 - digits.length) '0' ++ digits
  let whole := padded.take (padded.length - places)
  let fraction := ((padded.drop (padded.length - places)).reverse.dropWhile (· = '0')).reverse
  whole ++ '.' :: (if fraction.isEmpty then ['0'] else fraction)

def write (value : Float) : List Char :=
  let sign := if isNegative value then ['-'] else []
  match mantissaAndExponent? value with
  | none =>
      if value.toBits.toNat % hiddenBit = 0 then sign ++ "Infinity".toList else "NaN".toList
  | some (mantissa, .ofNat power) => sign ++ pointed (mantissa <<< power) 0
  | some (mantissa, .negSucc less) => sign ++ pointed (mantissa * Nat.pow 5 (less + 1)) (less + 1)

def bits (value : Float) : String :=
  String.ofList (Text.hexDigits 16 value.toBits.toNat)

end ChangeImpact.Binary64
