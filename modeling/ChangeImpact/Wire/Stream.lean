import ChangeImpact.Json.Reader
import ChangeImpact.Text.Utf8
/-!
# The analyzer's stream of arrays

The analyzer writes JSON arrays one after the other, with blanks between them. Their bytes arrive in
pieces. The stream finds the end of an array by counting brackets outside strings, and reads it when
it is complete.
-/
set_option autoImplicit false

namespace ChangeImpact.Wire

open Json (Value)
open Utf8 (Bytes)

/-! ## Finding the end of an array -/

/-- Where in an array a scan stands: how many brackets and braces are open, whether a string is, and
whether a backslash escapes what comes next in the string. -/
structure Scanner where
  depth : Nat
  inString : Bool
  escaped : Bool
  deriving DecidableEq

namespace Scanner

def outside : Scanner := ⟨0, false, false⟩

def step (scanner : Scanner) (point : CodePoint) : Scanner :=
  if scanner.inString then
    if scanner.escaped then { scanner with escaped := false }
    else if point = '\\' then { scanner with escaped := true }
    else if point = '"' then { scanner with inString := false }
    else scanner
  else if point = '"' then { scanner with inString := true }
  else if point = '[' || point = '{' then { scanner with depth := scanner.depth + 1 }
  else if point = ']' || point = '}' then { scanner with depth := scanner.depth - 1 }
  else scanner

end Scanner

/-! ## Errors -/

inductive StreamError where
  | notUtf8 (error : Utf8.Error)
  | expectedArray (found : Text)
  | malformed (complaint : Json.Complaint) (place : Json.Place)
  | tooLong (error : Numeral.TooLong)
  | unfinished (pending : Nat)
  deriving DecidableEq

namespace StreamError

def ofJson : Json.Error → StreamError
  | .malformed complaint place => malformed complaint place
  | .tooLong error => tooLong error

def message : StreamError → Text
  | notUtf8 error => "analyzer output is not valid UTF-8: " ++ error.message
  | expectedArray found =>
      "expected a JSON array from the analyzer, found " ++ Text.quoted found
  | malformed complaint place =>
      "error decoding analyzer output: " ++ (Json.Error.malformed complaint place).message
  | tooLong error => error.message
  | unfinished pending =>
      "analyzer output ended inside a JSON value (" ++ toString pending ++ " bytes pending)"

end StreamError

/-! ## The stream -/

/-- The state between two pieces: the bytes of a character that is not complete, the text of the
array that is not complete, and where the scan of it stands. That text is in two parts: the scanned
one with its latest code point first, and what is still to be scanned. -/
structure Stream where
  pending : Bytes
  scanned : Text
  unscanned : Text
  scanner : Scanner
  deriving DecidableEq

namespace Stream

def start : Stream := ⟨[], [], [], .outside⟩

def buffer (stream : Stream) : Text :=
  stream.scanned.reverse ++ stream.unscanned

def shownLength : Nat := 20

/-- Scans on with the text after `taken`, which is the scanned part of an array with the latest
code point first. The result is the scan's last place, and the arrays completed with the text of the
array that is not, again with the latest code point first. -/
def drain (scanner : Scanner) (taken : Text) :
    Text → Scanner × Except StreamError (List Value × Text)
  | [] => (scanner, .ok ([], taken))
  | point :: rest =>
      if scanner.depth = 0 then
        if Json.isJsonBlank point then drain scanner [] rest
        else if point = '[' then drain { scanner with depth := 1 } [point] rest
        else (scanner, .error (.expectedArray ((point :: rest).take shownLength)))
      else
        let next := scanner.step point
        if next.depth = 0 then
          match Json.read (point :: taken).reverse with
          | .error error => (next, .error (.ofJson error))
          | .ok value =>
              match drain next [] rest with
              | (last, .ok (values, left)) => (last, .ok (value :: values, left))
              | (last, .error error) => (last, .error error)
        else drain next (point :: taken) rest

/-- Takes in decoded text. When that fails the text is kept, to be scanned again from where this
scan began. -/
def takeText (stream : Stream) (text : Text) (pending : Bytes) :
    Stream × Except StreamError (List Value) :=
  let unscanned := stream.unscanned ++ text
  match drain stream.scanner stream.scanned unscanned with
  | (scanner, .ok (values, left)) => (⟨pending, left, [], scanner⟩, .ok values)
  | (scanner, .error error) => (⟨pending, stream.scanned, unscanned, scanner⟩, .error error)

/-- Takes in a piece and gives the values that it completes. A piece that is not UTF-8 changes
nothing. -/
def feed (stream : Stream) (bytes : Bytes) : Stream × Except StreamError (List Value) :=
  match Utf8.decodeMore stream.pending bytes with
  | .error error => (stream, .error (.notUtf8 error))
  | .ok (text, pending) => stream.takeText text pending

/-- Ends the stream, which must not be inside a character or an array. -/
def close (stream : Stream) : Stream × Except StreamError (List Value) :=
  match stream.feed [] with
  | (last, .error error) => (last, .error error)
  | (last, .ok values) =>
      match Utf8.endError? 0 last.pending with
      | some error => (last, .error (.notUtf8 error))
      | none =>
          if (Text.trim last.buffer).isEmpty then (last, .ok values)
          else (last, .error (.unfinished last.buffer.length))

end Stream

end ChangeImpact.Wire
