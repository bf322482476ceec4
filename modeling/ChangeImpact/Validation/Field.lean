import ChangeImpact.Json.Value
import ChangeImpact.Number.Binary64
import ChangeImpact.Text.NonEmptyString
import ChangeImpact.Validation.Problem
/-!
# Checks of single values

A strict check takes a JSON value of its own kind only. A lenient check of an integer also takes a
truth value, a double without a fraction and decimal text; one of a number also takes a truth value,
an integer and decimal text.
-/
set_option autoImplicit false

namespace ChangeImpact.Validation

open Json (Value Members)

abbrev Check (α : Type) := Value → Except Complaint α

/-! ## Text -/

def text : Check Text
  | .string value => .ok value
  | _ => .error .notString

/-- Text without lone surrogates and with at least one character. -/
def nonEmptyString : Check NonEmptyString
  | .string value =>
      match value.toString? with
      | none => .error .loneSurrogate
      | some s =>
          match NonEmptyString.ofString? s with
          | none => .error .emptyString
          | some found => .ok found
  | _ => .error .notString

/-- One of the named choices; what is no such name, text or not, is refused with `complaint`. -/
def choice {α : Type} (complaint : List String → Complaint) (choices : List (String × α)) : Check α
  | .string value =>
      match value.toString? with
      | none => .error .loneSurrogate
      | some s =>
          match choices.find? (·.1 = s) with
          | some found => .ok found.2
          | none => .error (complaint (choices.map Prod.fst))
  | _ => .error (complaint (choices.map Prod.fst))

/-! ## Integers -/

def lineNumber : Check { n : Nat // 1 ≤ n }
  | .int value => if proof : 1 ≤ value.toNat then .ok ⟨value.toNat, proof⟩ else .error (.below 1)
  | _ => .error .notInteger

/-- The integer that a double without a fraction is, if it fits in 64 bits. -/
def integerOfFloat (value : Float) : Except Complaint Int :=
  match Binary64.mantissaAndExponent? value with
  | none => .error .notFinite
  | some (mantissa, exponent) =>
      let magnitude :=
        match exponent with
        | .ofNat power => some (mantissa <<< power)
        | .negSucc less =>
            let whole := mantissa >>> (less + 1)
            if whole <<< (less + 1) = mantissa then some whole else none
      match magnitude with
      | none => .error .fractional
      | some magnitude =>
          if magnitude < 0x8000000000000000 then
            .ok (Numeral.signed (Binary64.isNegative value) magnitude)
          else .error .tooManyDigits

/-! ### Integers from text -/

def isOneToNine (point : CodePoint) : Bool :=
  Text.isAsciiDigit point && point ≠ '0'

/-- Drops a plus in front, which no minus may follow. -/
def withoutPlus? : Text → Option Text
  | .char '+' :: .char '-' :: _ => none
  | .char '+' :: rest => some rest
  | text => some text

/-- Drops the zeros that a numeral starts with, and the underscores among them, up to a digit or a
minus. One zero stays before a point and at the end. -/
def withoutLeadingZeros? (text : Text) : Option Text :=
  let inZeros := fun (point : CodePoint) => point = '0' || point = '_'
  let zeros := text.takeWhile inZeros
  let rest := text.dropWhile inZeros
  let startsNumeral := rest.head?.any fun point => isOneToNine point || point = '-'
  match zeros with
  | [] => if startsNumeral then some text else none
  | first :: _ =>
      if first = '_' then none
      else if startsNumeral then some rest
      else if zeros.getLast? = some (.char '0') &&
          (rest.isEmpty || rest.head? = some (.char '.')) then
        some ('0' :: rest)
      else none

def withoutZeroFraction (text : Text) : Text :=
  match text.dropWhile (· ≠ .char '.') with
  | _ :: zeros =>
      if !zeros.isEmpty && zeros.all (· = .char '0') then text.takeWhile (· ≠ .char '.') else text
  | [] => text

def hasSingleUnderscores : Text → Bool
  | [] => true
  | [point] => point ≠ '_'
  | .char '_' :: _ => false
  | _ :: .char '_' :: rest => !rest.isEmpty && hasSingleUnderscores rest
  | _ :: next :: rest => hasSingleUnderscores (next :: rest)

/-- Drops underscores, if all of them stand as they may. -/
def withoutSingleUnderscores (text : Text) : Text :=
  if hasSingleUnderscores text then Numeral.withoutUnderscores text else text

def plainDigits? (numeral : Text) : Option Text :=
  let digits := withoutSingleUnderscores (withoutZeroFraction numeral)
  if digits.all Text.isAsciiDigit then some digits else none

/-- The magnitude that digits write; a longer numeral than the limit is refused with `complaint`. -/
def magnitude (complaint : Complaint) (digits : Text) : Except Complaint Nat :=
  if digits.length ≤ Numeral.digitLimit then .ok (Text.numberOfDigits digits)
  else .error complaint

/-- The integer that decimal text writes: ASCII digits with single underscores between them, a sign
in front, blanks around, zeros before the sign and after it, and perhaps a fraction of zeros. -/
def integerOfText (text : Text) : Except Complaint Int :=
  match (withoutPlus? (Text.trimBy Text.isWhiteSpace text)).bind withoutLeadingZeros? with
  | none => .error .notIntegerText
  | some (.char '-' :: rest) =>
      match (withoutLeadingZeros? rest).bind plainDigits? with
      | none => .error .notIntegerText
      | some digits => (magnitude .tooManyDigits digits).map fun value => Numeral.signed true value
  | some numeral =>
      match plainDigits? numeral with
      | none => .error .notIntegerText
      | some digits => (magnitude .notIntegerText digits).map Int.ofNat

def integer : Check Int
  | .int value => .ok value
  | .bool value => .ok (if value then 1 else 0)
  | .float value => integerOfFloat value
  | .string value =>
      match value.toChars? with
      | none => .error .loneSurrogate
      | some _ => integerOfText value
  | _ => .error .notInteger

def naturalNumber (value : Value) : Except Complaint Nat :=
  match integer value with
  | .error complaint => .error complaint
  | .ok number => if 0 ≤ number then .ok number.toNat else .error (.below 0)

/-! ## Numbers -/

def floatOfInt (value : Int) : Float :=
  Binary64.negateIf (value < 0) (Binary64.ofDecimal value.natAbs 0)

/-- The double that decimal text writes, with ASCII digits. There may be blanks around it or single
underscores inside, but not both. -/
def floatOfText (text : Text) : Except Complaint Float :=
  match Binary64.readSigned? Text.isAsciiDigit (Text.trimBy Text.isWhiteSpace text) with
  | some value => .ok value
  | none =>
      match Binary64.readSigned? Text.isAsciiDigit (withoutSingleUnderscores text) with
      | some value => .ok value
      | none => .error .notNumberText

def number : Check Float
  | .float value => .ok value
  | .int value =>
      let converted := floatOfInt value
      if (Binary64.mantissaAndExponent? converted).isSome then .ok converted else .error .notNumber
  | .bool value => .ok (if value then 1.0 else 0.0)
  | .string value =>
      match value.toChars? with
      | none => .error .loneSurrogate
      | some _ => floatOfText value
  | _ => .error .notNumber

def positiveNumber (value : Value) : Except Complaint Float :=
  match number value with
  | .error complaint => .error complaint
  | .ok result => if result > 0.0 then .ok result else .error .notPositive

/-! ## Fields of an object -/

def plain {α : Type} (check : Check α) (value : Value) : Checked α :=
  match check value with
  | .ok result => .ok result
  | .error complaint => Checked.fail [] complaint

def lookup? (members : Members) (names : List String) : Option (String × Value) :=
  names.findSome? fun name =>
    (Members.get? members (Text.ofString name)).map fun value => (name, value)

/-- Checks the value under the first name that is there. Problems carry that name, and a missing
field the first of the names. -/
def required {α : Type} (names : List String) (check : Value → Checked α) (members : Members) :
    Checked α :=
  match lookup? members names with
  | some (name, value) => (check value).under (.field name)
  | none => Checked.fail ((names.take 1).map Key.field) .missing

/-- Like `required`, with a value for a missing field. -/
def optional {α : Type} (names : List String) (default : α) (check : Value → Checked α)
    (members : Members) : Checked α :=
  match lookup? members names with
  | some (name, value) => (check value).under (.field name)
  | none => .ok default

def objectOf {α : Type} (model : String) (check : Members → Checked α) : Value → Checked α
  | .object members => check members
  | _ => Checked.fail [] (.notObject model)

end ChangeImpact.Validation
