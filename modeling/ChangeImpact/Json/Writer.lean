import ChangeImpact.Json.Value
import ChangeImpact.Number.Binary64
/-!
# Writing JSON text

A writing has no blanks. A quote, a backslash, a control character and a surrogate that stands alone
are escaped; on request every character beyond ASCII is.
-/
set_option autoImplicit false

namespace ChangeImpact.Json

def unitEscape (unit : Nat) : List Char :=
  '\\' :: 'u' :: Text.hexDigits 4 unit

/-- The escape of a code point, in two units beyond the first plane. -/
def pointEscape (code : Nat) : List Char :=
  if code < 0x10000 then unitEscape code
  else
    unitEscape (0xD800 + (code - 0x10000) / 0x400) ++ unitEscape (0xDC00 + (code - 0x10000) % 0x400)

def writePoint (asciiOnly : Bool) : CodePoint → List Char
  | .surrogate offset => pointEscape (CodePoint.surrogate offset).code
  | .char c =>
      if c = '"' then ['\\', '"']
      else if c = '\\' then ['\\', '\\']
      else if c = '\n' then ['\\', 'n']
      else if c = '\r' then ['\\', 'r']
      else if c = '\t' then ['\\', 't']
      else if c.toNat < 0x20 || (asciiOnly && 0x7F < c.toNat) then pointEscape c.toNat
      else [c]

def writeString (asciiOnly : Bool) (text : Text) : List Char :=
  '"' :: text.flatMap (writePoint asciiOnly) ++ ['"']

def writeInt (value : Int) : List Char :=
  (toString value).toList

mutual

def writeValue (asciiOnly : Bool) : Value → List Char
  | .null => "null".toList
  | .bool true => "true".toList
  | .bool false => "false".toList
  | .int value => writeInt value
  | .float value => Binary64.write value
  | .string text => writeString asciiOnly text
  | .array items => '[' :: writeItems asciiOnly items ++ [']']
  | .object members => '{' :: writeMembers asciiOnly members ++ ['}']

def writeItems (asciiOnly : Bool) : List Value → List Char
  | [] => []
  | [value] => writeValue asciiOnly value
  | value :: next :: rest =>
      writeValue asciiOnly value ++ ',' :: writeItems asciiOnly (next :: rest)

def writeMembers (asciiOnly : Bool) : List (Text × Value) → List Char
  | [] => []
  | [(key, value)] => writeString asciiOnly key ++ ':' :: writeValue asciiOnly value
  | (key, value) :: next :: rest =>
      writeString asciiOnly key ++ ':' :: writeValue asciiOnly value ++
        ',' :: writeMembers asciiOnly (next :: rest)

end

def Value.write (value : Value) : String :=
  String.ofList (writeValue false value)

end ChangeImpact.Json
