import ChangeImpact.Patch.Basic
import ChangeImpact.Text.Utf8
/-!
# Paths in a patch

A patch puts a path in double quotes when it holds characters that would be misread, with a
backslash and a letter or three octal digits for each such byte. The path of a file is that of its
target, or of its source if the file was deleted, without the component that names the side.
-/
set_option autoImplicit false

namespace ChangeImpact.Patch

open Utf8 (Bytes)

inductive PathError where
  /-- Three octal digits write no byte. -/
  | octalOverflow
  | loneSurrogate (error : Utf8.EncodeError)
  deriving DecidableEq

def PathError.message : PathError → String
  | octalOverflow => "bytes must be in range(0, 256)"
  | loneSurrogate error => error.message

namespace Quoting

def letters : List (UInt8 × UInt8) :=
  [(97, 7), (98, 8), (116, 9), (110, 10), (118, 11), (102, 12), (114, 13), (34, 34), (92, 92)]

def byteOfLetter? (letter : UInt8) : Option UInt8 :=
  (letters.find? (·.1 = letter)).map Prod.snd

def backslash : UInt8 := 92

def octalValue? (b : UInt8) : Option Nat :=
  if 48 ≤ b.toNat && b.toNat ≤ 55 then some (b.toNat - 48) else none

def octal? (a b c : UInt8) : Option Nat :=
  match octalValue? a, octalValue? b, octalValue? c with
  | some a, some b, some c => some (a * 64 + b * 8 + c)
  | _, _, _ => none

def consByte (b : UInt8) (result : Except PathError Bytes) : Except PathError Bytes :=
  match result with
  | .ok bytes => .ok (b :: bytes)
  | .error error => .error error

/-- Replaces each escape by its byte; a backslash that starts none stands for itself. -/
def unescape : Bytes → Except PathError Bytes
  | [] => .ok []
  | mark :: a :: b :: c :: rest =>
      if mark = backslash then
        match octal? a b c with
        | some number =>
            if number < 256 then consByte (UInt8.ofNat number) (unescape rest)
            else .error .octalOverflow
        | none =>
            match byteOfLetter? a with
            | some byte => consByte byte (unescape (b :: c :: rest))
            | none => consByte mark (unescape (a :: b :: c :: rest))
      else consByte mark (unescape (a :: b :: c :: rest))
  | mark :: a :: rest =>
      if mark = backslash then
        match byteOfLetter? a with
        | some byte => consByte byte (unescape rest)
        | none => consByte mark (unescape (a :: rest))
      else consByte mark (unescape (a :: rest))
  | [b] => .ok [b]

def inside? : Text → Option Text
  | .char '"' :: rest =>
      match rest.getLast? with
      | some (.char '"') => some rest.dropLast
      | _ => none
  | _ => none

end Quoting

def unquote (path : Text) : Except PathError Text :=
  match Quoting.inside? path with
  | none => .ok path
  | some inside =>
      match Utf8.encode inside with
      | .error error => .error (.loneSurrogate error)
      | .ok bytes =>
          match Quoting.unescape bytes with
          | .error error => .error error
          | .ok bytes => .ok (Utf8.decodeLossy bytes)

def withoutStart (word : String) (path : Text) : Text :=
  (Text.after? word path).getD path

def PatchedFile.path (file : PatchedFile) : Except PathError Text :=
  match unquote (if file.target.isEmpty then ("/dev/null" : Text) else file.target) with
  | .error error => .error error
  | .ok target =>
      if target = "/dev/null" then
        match unquote file.source with
        | .error error => .error error
        | .ok source => .ok (withoutStart "a/" source)
      else .ok (withoutStart "b/" target)

end ChangeImpact.Patch
