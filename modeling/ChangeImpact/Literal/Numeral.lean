import ChangeImpact.Literal.Token
/-!
# Numerals

A numeral is written in base 10, or in base 16, 8 or 2 after a zero and a letter. Single low lines
may stand between its digits. A decimal numeral may have a fraction, an exponent and the letter of
the imaginary unit. Each reader here takes the characters of a numeral away and leaves the rest.
-/
set_option autoImplicit false

namespace ChangeImpact.Literal.Numeral

abbrev Reader := List Char → Except TokenFault (List Char)

def startsWithDigit : List Char → Bool
  | c :: _ => c.isDigit
  | [] => false

def startsWithLetter (letter : Char) : List Char → Bool
  | c :: _ => c.toLower = letter
  | [] => false

/-! ## After a numeral -/

def startsWithWord (word : String) (rest : List Char) : Bool :=
  word.toList.isPrefixOf rest && !(rest.drop word.length).head?.any mayContinueName

def startsWithKeyword (rest : List Char) : Bool :=
  ["and", "else", "for", "or", "not"].any (startsWithWord · rest) ||
    ["if", "in", "is"].any (·.toList.isPrefixOf rest)

/-- A numeral ends where no letter, digit or low line follows, unless a keyword does. -/
def ended (kind : NumeralKind) : Reader := fun rest =>
  let joined := rest.head?.any fun c => c.isAlphanum || c = '_'
  if joined && !startsWithKeyword rest then .error (.badNumeral kind) else .ok rest

/-! ## Base 10 -/

def digits : Reader
  | [] => .ok []
  | '_' :: rest => if startsWithDigit rest then digits rest else .error (.badNumeral .decimal)
  | c :: rest => if c.isDigit then digits rest else .ok (c :: rest)

def imaginary : Reader
  | [] => .ok []
  | c :: rest => if c.toLower = 'j' then ended .imaginary rest else ended .decimal (c :: rest)

def exponentDigits : List Char → Option (Except TokenFault (List Char))
  | [] => none
  | c :: rest =>
      if c = '+' || c = '-' then
        some (if startsWithDigit rest then digits rest else .error (.badNumeral .decimal))
      else if c.isDigit then some (digits rest)
      else none

def exponent (chars : List Char) : Except TokenFault (List Char) :=
  if startsWithLetter 'e' chars then
    match exponentDigits (chars.drop 1) with
    | none => ended .decimal chars
    | some (.error fault) => .error fault
    | some (.ok rest) => imaginary rest
  else imaginary chars

def fraction (chars : List Char) : Except TokenFault (List Char) :=
  if startsWithDigit chars then
    match digits chars with
    | .error fault => .error fault
    | .ok rest => exponent rest
  else exponent chars

def afterDigits : Reader
  | '.' :: rest => fraction rest
  | rest => exponent rest

def zeros : Reader
  | '_' :: rest => if startsWithDigit rest then zeros rest else .error (.badNumeral .decimal)
  | '0' :: rest => zeros rest
  | rest => .ok rest

/-- What follows the zeros at the start of a numeral; other digits after them need a point, an
exponent or the letter of the imaginary unit. -/
def afterZeros (chars : List Char) : Except TokenFault (List Char) :=
  match digits chars with
  | .error fault => .error fault
  | .ok rest =>
      if rest.head? = some '.' || startsWithLetter 'e' rest || startsWithLetter 'j' rest then
        afterDigits rest
      else if startsWithDigit chars then .error .leadingZeros
      else ended .decimal rest

/-! ## Other bases -/

def isDigitOf : NumeralKind → Char → Bool
  | .hexadecimal, c => c.isDigit || ('a' ≤ c.toLower && c.toLower ≤ 'f')
  | .octal, c => '0' ≤ c && c ≤ '7'
  | .binary, c => c = '0' || c = '1'
  | _, c => c.isDigit

def digitFault (kind : NumeralKind) (c : Option Char) : TokenFault :=
  match kind, c with
  | .hexadecimal, _ | _, none => .badNumeral kind
  | _, some c => if c.isDigit then .badDigit c kind else .badNumeral kind

/-- Digits of a base with low lines between them; the next character must be a digit if one is
needed. -/
def digitsOf (kind : NumeralKind) (needed : Bool) : Reader
  | [] => if needed then .error (digitFault kind none) else .ok []
  | c :: rest =>
      if isDigitOf kind c then digitsOf kind false rest
      else if needed then .error (digitFault kind (some c))
      else if c = '_' then digitsOf kind true rest
      else .ok (c :: rest)

def ofBase (kind : NumeralKind) (chars : List Char) : Except TokenFault (List Char) :=
  match digitsOf kind true (if chars.head? = some '_' then chars.drop 1 else chars) with
  | .error fault => .error fault
  | .ok rest =>
      if startsWithDigit rest then .error (digitFault kind rest.head?) else ended kind rest

def afterZero (chars : List Char) : Except TokenFault (List Char) :=
  if startsWithLetter 'x' chars then ofBase .hexadecimal (chars.drop 1)
  else if startsWithLetter 'o' chars then ofBase .octal (chars.drop 1)
  else if startsWithLetter 'b' chars then ofBase .binary (chars.drop 1)
  else
    match zeros chars with
    | .error fault => .error fault
    | .ok rest => afterZeros rest

def read : Reader
  | '.' :: rest => fraction rest
  | '0' :: rest => afterZero rest
  | chars =>
      match digits chars with
      | .error fault => .error fault
      | .ok rest => afterDigits rest

end ChangeImpact.Literal.Numeral
