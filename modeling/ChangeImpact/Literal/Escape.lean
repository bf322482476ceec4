import ChangeImpact.Literal.Fault
import ChangeImpact.Text.HexDigit
/-!
# Escapes in quoted text

A backslash begins an escape. Most are always right; those with a number in base 16 or with the name
of a character can break off. In text, a character above ASCII counts as the escape of ten
characters that it could be written by, and so does a backslash before it.
-/
set_option autoImplicit false

namespace ChangeImpact.Literal.Escape

def isHex (c : Char) : Bool :=
  Text.isHexDigit c

def isAscii (c : Char) : Bool :=
  c.toNat < 0x80

def wide (c : Char) : List Char :=
  '\\' :: 'U' :: Text.hexDigits 8 c.toNat

def plainBackslash : List Char :=
  "\\u005c".toList

def expanded : List Char → List Char
  | [] => []
  | ['\\'] => plainBackslash
  | '\\' :: c :: rest =>
      (if isAscii c then ['\\', c] else plainBackslash ++ wide c) ++ expanded rest
  | c :: rest => (if isAscii c then [c] else wide c) ++ expanded rest

def digitCount? : Char → Option Nat
  | 'x' => some 2
  | 'u' => some 4
  | 'U' => some 8
  | _ => none

def numberOf (digits : List Char) : Nat :=
  digits.foldl (fun number (c : Char) => number * 16 + (Text.hexValue? c).getD 0) 0

/-- Looks at an escape by its letter and what follows: the length after the letter, or what is wrong
and the length up to there. -/
def check (letter : Char) (rest : List Char) : Except (EscapeReason × Nat) Nat :=
  match digitCount? letter with
  | some count =>
      let digits := (rest.take count).takeWhile isHex
      if digits.length < count then .error (.short letter count, digits.length)
      else if 0x10FFFF < numberOf digits then .error (.tooLarge, count)
      else .ok count
  | none =>
      if letter ≠ 'N' then .ok 0
      else
        match rest with
        | '\x7b' :: rest =>
            let name := rest.takeWhile (· ≠ '\x7d')
            if name.isEmpty || name.length = rest.length then .error (.badName, name.length + 1)
            else .ok (name.length + 2)
        | _ => .error (.badName, 0)

/-- The first fault from a position on, when the next `skip` characters belong to an escape. -/
def faultFrom (position skip : Nat) : List Char → Option QuotedFault
  | [] => none
  | c :: rest =>
      match skip with
      | skip + 1 => faultFrom (position + 1) skip rest
      | 0 =>
          match c, rest with
          | '\\', letter :: after =>
              match check letter after with
              | .error (reason, length) =>
                  some (.badEscape position (position + 1 + length) reason)
              | .ok length => faultFrom (position + 1) (length + 1) rest
          | _, _ => faultFrom (position + 1) 0 rest

def textFault? (text : List Char) : Option QuotedFault :=
  faultFrom 0 0 (expanded text)

def byteFaultFrom (position skip : Nat) : List Char → Option QuotedFault
  | [] => none
  | c :: rest =>
      match skip with
      | skip + 1 => byteFaultFrom (position + 1) skip rest
      | 0 =>
          match c, rest with
          | '\\', 'x' :: after =>
              if ((after.take 2).takeWhile isHex).length < 2 then some (.badByteEscape position)
              else byteFaultFrom (position + 1) 3 rest
          | '\\', _ => byteFaultFrom (position + 1) 1 rest
          | _, _ => byteFaultFrom (position + 1) 0 rest

def byteFault? (text : List Char) : Option QuotedFault :=
  byteFaultFrom 0 0 text

end ChangeImpact.Literal.Escape
