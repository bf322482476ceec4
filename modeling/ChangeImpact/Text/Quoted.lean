import ChangeImpact.Text.HexDigit
import ChangeImpact.Text.Printable
/-!
# Quoted text in messages

A message shows a piece of input between quotes, on one line: single quotes unless the piece holds
one and no double quote, with a backslash before the quote in use and before a backslash, and with
escapes for what does not show.
-/
set_option autoImplicit false

namespace ChangeImpact.Text

def quoteMark (text : Text) : CodePoint :=
  if text.contains '\'' && !text.contains '"' then '"' else '\''

def escapeOfCode (code : Nat) : List Char :=
  if code < 0x100 then '\\' :: 'x' :: hexDigits 2 code
  else if code < 0x10000 then '\\' :: 'u' :: hexDigits 4 code
  else '\\' :: 'U' :: hexDigits 8 code

def quotedPoint (mark point : CodePoint) : Text :=
  if point = '\\' || point = mark then ['\\', point]
  else if point = '\n' then "\\n"
  else if point = '\r' then "\\r"
  else if point = '\t' then "\\t"
  else if isPrintable point then [point]
  else ofChars (escapeOfCode point.code)

def quoted (text : Text) : Text :=
  let mark := quoteMark text
  mark :: text.flatMap (quotedPoint mark) ++ [mark]

end ChangeImpact.Text
