import ChangeImpact.Json.Value
import ChangeImpact.Number.Binary64
/-!
# Reading JSON text

A reading starts at the front of the text left and ends with a value and the text after it. A fault
says what is wrong and how much text was left there, from which the place in the whole text follows.
Besides standard JSON the words `NaN`, `Infinity` and `-Infinity` are numbers, and an escape may
write a surrogate that stands alone. A numeral with a fraction or an exponent is a double, any other
an integer.
-/
set_option autoImplicit false

namespace ChangeImpact.Json

open Text (hexValue?)

/-! ## Faults -/

inductive Complaint where
  | value
  | propertyName
  | colon
  | comma
  | unterminatedString
  | controlCharacter
  | escape
  | unicodeEscape
  | extraData
  | byteOrderMark
  deriving DecidableEq

def Complaint.message : Complaint → String
  | .value => "Expecting value"
  | .propertyName => "Expecting property name enclosed in double quotes"
  | .colon => "Expecting ':' delimiter"
  | .comma => "Expecting ',' delimiter"
  | .unterminatedString => "Unterminated string starting at"
  | .controlCharacter => "Invalid control character at"
  | .escape => "Invalid \\escape"
  | .unicodeEscape => "Invalid \\uXXXX escape"
  | .extraData => "Extra data"
  | .byteOrderMark => "Unexpected UTF-8 BOM (decode using utf-8-sig)"

/-- A fault met where `left` code points of the text were left, or a numeral of too many digits. -/
inductive Fault where
  | malformed (complaint : Complaint) (left : Nat)
  | tooLong (error : Numeral.TooLong)
  deriving DecidableEq

/-- A place in a text: the code points before it, and its line and column, both from one. -/
structure Place where
  position : Nat
  line : Nat
  column : Nat
  deriving DecidableEq

def Place.ofPosition (text : Text) (position : Nat) : Place :=
  let before := text.take position
  let column := (before.reverse.takeWhile (· ≠ .char '\n')).length + 1
  ⟨position, before.count (.char '\n') + 1, column⟩

inductive Error where
  | malformed (complaint : Complaint) (place : Place)
  | tooLong (error : Numeral.TooLong)
  deriving DecidableEq

def Error.message : Error → String
  | .malformed complaint place =>
      complaint.message ++ ": line " ++ toString place.line ++ " column " ++
        toString place.column ++ " (char " ++ toString place.position ++ ")"
  | .tooLong error => error.message

def Fault.locate (text : Text) : Fault → Error
  | .malformed complaint left =>
      .malformed complaint (Place.ofPosition text (text.length - left))
  | .tooLong error => .tooLong error

/-! ## Blanks -/

def isJsonBlank (point : CodePoint) : Bool :=
  point = ' ' || point = '\t' || point = '\n' || point = '\r'

def skipBlanks (text : Text) : Text :=
  text.dropWhile isJsonBlank

/-! ## Strings -/

def unitOf? (a b c d : CodePoint) : Option CodePoint :=
  match hexValue? a, hexValue? b, hexValue? c, hexValue? d with
  | some a, some b, some c, some d => CodePoint.ofCode? (((a * 16 + b) * 16 + c) * 16 + d)
  | _, _, _, _ => none

def escapedChar? : CodePoint → Option Char
  | .char '"' => some '"'
  | .char '\\' => some '\\'
  | .char '/' => some '/'
  | .char 'b' => some '\x08'
  | .char 'f' => some '\x0c'
  | .char 'n' => some '\n'
  | .char 'r' => some '\r'
  | .char 't' => some '\t'
  | _ => none

/-- A part of a string: a code point, or one that four hexadecimal digits write. -/
inductive Unit16 where
  | plain (point : CodePoint)
  | escaped (point : CodePoint)
  deriving DecidableEq

def Unit16.point : Unit16 → CodePoint
  | plain point => point
  | escaped point => point

def joined? (high low : Fin 0x800) : Option Char :=
  if high.val < 0x400 && 0x400 ≤ low.val then
    some (Char.ofNat (0x10000 + high.val * 0x400 + (low.val - 0x400)))
  else none

/-- The text of the parts of a string: a high surrogate and the low one after it, both escaped, make
one character. -/
def joinUnits : List Unit16 → Text
  | .escaped (.surrogate high) :: .escaped (.surrogate low) :: rest =>
      match joined? high low with
      | some c => .char c :: joinUnits rest
      | none => .surrogate high :: joinUnits (.escaped (.surrogate low) :: rest)
  | unit :: rest => unit.point :: joinUnits rest
  | [] => []

def consUnit (unit : Unit16) (result : Except Fault (List Unit16 × Text)) :
    Except Fault (List Unit16 × Text) :=
  match result with
  | .ok (units, rest) => .ok (unit :: units, rest)
  | .error fault => .error fault

/-- Reads the parts of the string whose opening quote had `opening` code points left, from after
that quote. A code escape needs something after its digits. -/
def readUnits (opening : Nat) : Text → Except Fault (List Unit16 × Text)
  | [] => .error (.malformed .unterminatedString opening)
  | .char '"' :: rest => .ok ([], rest)
  | [.char '\\'] => .error (.malformed .unterminatedString opening)
  | .char '\\' :: .char 'u' :: a :: b :: c :: d :: next :: rest =>
      match unitOf? a b c d with
      | some point => consUnit (.escaped point) (readUnits opening (next :: rest))
      | none => .error (.malformed .unicodeEscape (rest.length + 6))
  | .char '\\' :: .char 'u' :: rest => .error (.malformed .unicodeEscape (rest.length + 1))
  | .char '\\' :: mark :: rest =>
      match escapedChar? mark with
      | some escaped => consUnit (.plain escaped) (readUnits opening rest)
      | none => .error (.malformed .escape (rest.length + 2))
  | point :: rest =>
      if point.code < 0x20 then .error (.malformed .controlCharacter (rest.length + 1))
      else consUnit (.plain point) (readUnits opening rest)

def readString (rest : Text) : Except Fault (Text × Text) :=
  match readUnits (rest.length + 1) rest with
  | .ok (units, rest) => .ok (joinUnits units, rest)
  | .error fault => .error fault

/-! ## Numbers -/

def splitWhole : Text → Text × Text
  | .char '0' :: rest => ([.char '0'], rest)
  | text => (text.takeWhile Text.isAsciiDigit, text.dropWhile Text.isAsciiDigit)

def splitFraction (text : Text) : Text × Text :=
  match text with
  | .char '.' :: rest =>
      match rest.takeWhile Text.isAsciiDigit with
      | [] => ([], text)
      | digits => (digits, rest.dropWhile Text.isAsciiDigit)
  | _ => ([], text)

/-- The number of the given parts: an integer, unless there is a fraction or an exponent. -/
def numberOfParts (negative : Bool) (whole fraction : Text) (exponent : Option Int) :
    Except Fault Value :=
  match fraction, exponent with
  | [], none =>
      match Numeral.ofDigits whole with
      | .ok magnitude => .ok (.int (Numeral.signed negative magnitude))
      | .error error => .error (.tooLong error)
  | _, _ =>
      .ok (.float (Binary64.negateIf negative
        (Binary64.Decimal.toFloat ⟨whole, fraction, exponent.getD 0⟩)))

def readNumber (text : Text) : Except Fault (Value × Text) :=
  let (negative, body) :=
    match text with
    | .char '-' :: rest => (true, rest)
    | _ => (false, text)
  let (whole, rest) := splitWhole body
  if whole.isEmpty then .error (.malformed .value text.length)
  else
    let (fraction, rest) := splitFraction rest
    let (exponent, rest) :=
      match Binary64.readExponent? Text.isAsciiDigit rest with
      | some (exponent, rest) => (some exponent, rest)
      | none => (none, rest)
    match numberOfParts negative whole fraction exponent with
    | .ok value => .ok (value, rest)
    | .error fault => .error fault

def words : List (String × Value) :=
  [("null", .null), ("true", .bool true), ("false", .bool false),
    ("NaN", .float Binary64.notANumber), ("Infinity", .float Binary64.infinity),
    ("-Infinity", .float (-Binary64.infinity))]

def readWord? (text : Text) : Option (Value × Text) :=
  words.findSome? fun word => (Text.after? word.1 text).map fun rest => (word.2, rest)

/-! ## Values -/

mutual

/-- Reads one value in at most `depth` readings inside each other. -/
def readValue : (depth : Nat) → Text → Except Fault (Value × Text)
  | 0, text => .error (.malformed .value text.length)
  | depth + 1, text =>
      match text with
      | .char '"' :: rest =>
          match readString rest with
          | .ok (text, rest) => .ok (.string text, rest)
          | .error fault => .error fault
      | .char '[' :: rest =>
          match skipBlanks rest with
          | .char ']' :: rest => .ok (.array [], rest)
          | rest =>
              match readItems depth rest with
              | .ok (items, rest) => .ok (.array items, rest)
              | .error fault => .error fault
      | .char '{' :: rest =>
          match skipBlanks rest with
          | .char '}' :: rest => .ok (.object [], rest)
          | rest =>
              match readMembers depth rest with
              | .ok (pairs, rest) => .ok (.object (Members.ofPairs pairs), rest)
              | .error fault => .error fault
      | _ =>
          match readWord? text with
          | some result => .ok result
          | none => readNumber text

def readItems : (depth : Nat) → Text → Except Fault (List Value × Text)
  | 0, text => .error (.malformed .value text.length)
  | depth + 1, text =>
      match readValue depth text with
      | .error fault => .error fault
      | .ok (value, rest) =>
          match skipBlanks rest with
          | .char ']' :: rest => .ok ([value], rest)
          | .char ',' :: rest =>
              match readItems depth (skipBlanks rest) with
              | .ok (values, rest) => .ok (value :: values, rest)
              | .error fault => .error fault
          | rest => .error (.malformed .comma rest.length)

def readMembers : (depth : Nat) → Text → Except Fault (List (Text × Value) × Text)
  | 0, text => .error (.malformed .propertyName text.length)
  | depth + 1, text =>
      match text with
      | .char '"' :: rest =>
          match readString rest with
          | .error fault => .error fault
          | .ok (key, rest) =>
              match skipBlanks rest with
              | .char ':' :: rest =>
                  match readValue depth (skipBlanks rest) with
                  | .error fault => .error fault
                  | .ok (value, rest) =>
                      match skipBlanks rest with
                      | .char '}' :: rest => .ok ([(key, value)], rest)
                      | .char ',' :: rest =>
                          match readMembers depth (skipBlanks rest) with
                          | .ok (pairs, rest) => .ok ((key, value) :: pairs, rest)
                          | .error fault => .error fault
                      | rest => .error (.malformed .comma rest.length)
              | rest => .error (.malformed .colon rest.length)
      | _ => .error (.malformed .propertyName text.length)

end

/-- Reads one value from the front of a text. Two readings, of the items and of the first of them,
begin with each bracket, so no text needs more readings inside each other than these. -/
def readFront (text : Text) : Except Fault (Value × Text) :=
  readValue (2 * text.length + 1) text

def read (text : Text) : Except Error Value :=
  match text with
  | .char '\uFEFF' :: _ => .error (.malformed .byteOrderMark (Place.ofPosition text 0))
  | _ =>
      match readFront (skipBlanks text) with
      | .error fault => .error (fault.locate text)
      | .ok (value, rest) =>
          match skipBlanks rest with
          | [] => .ok value
          | rest => .error ((Fault.malformed .extraData rest.length).locate text)

end ChangeImpact.Json
