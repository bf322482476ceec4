import ChangeImpact.Text.Quoted
/-!
# UTF-8, byte by byte

Bytes are decoded by a machine whose state is the bytes of a character begun and not yet complete.
Reading on from that state is reading the bytes as one list, so it does not matter how they are cut.
A strict reading stops at the first malformed part; a lossy one puts the replacement character in
its place. Both take as the malformed part the longest beginning of a character.
-/
set_option autoImplicit false

namespace ChangeImpact.Utf8

abbrev Bytes := List UInt8

/-! ## Writing -/

def encodeChar (c : Char) : Bytes :=
  let code := c.toNat
  if code < 0x80 then [UInt8.ofNat code]
  else if code < 0x800 then [UInt8.ofNat (0xC0 + code / 64), UInt8.ofNat (0x80 + code % 64)]
  else if code < 0x10000 then
    [UInt8.ofNat (0xE0 + code / 4096), UInt8.ofNat (0x80 + code / 64 % 64),
      UInt8.ofNat (0x80 + code % 64)]
  else
    [UInt8.ofNat (0xF0 + code / 262144), UInt8.ofNat (0x80 + code / 4096 % 64),
      UInt8.ofNat (0x80 + code / 64 % 64), UInt8.ofNat (0x80 + code % 64)]

def encodeChars (chars : List Char) : Bytes :=
  chars.flatMap encodeChar

/-- Lone surrogates, which have no bytes: where the first of them stands, and the rest of those that
follow it. -/
structure EncodeError where
  position : Nat
  first : Fin 0x800
  more : Nat
  deriving DecidableEq

def EncodeError.message (error : EncodeError) : String :=
  let place :=
    if error.more = 0 then
      "character '" ++ String.ofList (Text.escapeOfCode (CodePoint.surrogate error.first).code) ++
        "' in position " ++ toString error.position
    else
      "characters in position " ++ toString error.position ++ "-" ++
        toString (error.position + error.more)
  "'utf-8' codec can't encode " ++ place ++ ": surrogates not allowed"

def isSurrogate : CodePoint → Bool
  | .surrogate _ => true
  | .char _ => false

def encodeFrom (position : Nat) : Text → Except EncodeError Bytes
  | [] => .ok []
  | .char c :: rest =>
      match encodeFrom (position + 1) rest with
      | .ok bytes => .ok (encodeChar c ++ bytes)
      | .error error => .error error
  | .surrogate offset :: rest => .error ⟨position, offset, (rest.takeWhile isSurrogate).length⟩

def encode (text : Text) : Except EncodeError Bytes :=
  encodeFrom 0 text

/-! ## The machine -/

inductive Step where
  | scalar (c : Char)
  | hold (pending : Bytes)
  /-- No character begins with this byte. -/
  | badStart
  /-- This byte cannot follow the bytes held, the first `bad` of which are the malformed part. -/
  | badContinuation (bad : Nat)

def isTail (b : UInt8) : Bool :=
  0x80 ≤ b.toNat && b.toNat ≤ 0xBF

/-- Whether a byte may be the second of three or four after this first one. -/
def fitsSecond (first second : UInt8) : Bool :=
  isTail second &&
    (if first.toNat = 0xE0 then 0xA0 ≤ second.toNat
    else if first.toNat = 0xED then second.toNat ≤ 0x9F
    else if first.toNat = 0xF0 then 0x90 ≤ second.toNat
    else if first.toNat = 0xF4 then second.toNat ≤ 0x8F
    else true)

/-- The first two of three bytes that would write a surrogate. They are held like a character
begun, and refused with the next byte. -/
def beginsSurrogate (first second : UInt8) : Bool :=
  first.toNat = 0xED && 0xA0 ≤ second.toNat && second.toNat ≤ 0xBF

def tailBits (b : UInt8) : Nat :=
  b.toNat - 0x80

def step (pending : Bytes) (b : UInt8) : Step :=
  match pending with
  | [] =>
      if b.toNat < 0x80 then .scalar (Char.ofNat b.toNat)
      else if 0xC2 ≤ b.toNat && b.toNat ≤ 0xF4 then .hold [b]
      else .badStart
  | [first] =>
      if first.toNat < 0xE0 then
        if isTail b then .scalar (Char.ofNat ((first.toNat - 0xC0) * 64 + tailBits b))
        else .badContinuation 1
      else if fitsSecond first b || beginsSurrogate first b then .hold [first, b]
      else .badContinuation 1
  | [first, second] =>
      if beginsSurrogate first second then .badContinuation 1
      else if !isTail b then .badContinuation 2
      else if first.toNat < 0xF0 then
        .scalar (Char.ofNat ((first.toNat - 0xE0) * 4096 + tailBits second * 64 + tailBits b))
      else .hold [first, second, b]
  | first :: second :: third :: _ =>
      if isTail b then
        .scalar (Char.ofNat ((first.toNat - 0xF0) * 262144 + tailBits second * 4096 +
          tailBits third * 64 + tailBits b))
      else .badContinuation 3

/-! ## Strict reading -/

inductive Reason where
  | invalidStart
  | invalidContinuation
  | unexpectedEnd
  deriving DecidableEq

def Reason.message : Reason → String
  | .invalidStart => "invalid start byte"
  | .invalidContinuation => "invalid continuation byte"
  | .unexpectedEnd => "unexpected end of data"

structure Error where
  position : Nat
  bytes : Bytes
  reason : Reason
  deriving DecidableEq

def Error.message (error : Error) : String :=
  let place :=
    match error.bytes with
    | [b] =>
        "byte 0x" ++ String.ofList (Text.hexDigits 2 b.toNat) ++ " in position " ++
          toString error.position
    | bytes =>
        "bytes in position " ++ toString error.position ++ "-" ++
          toString (error.position + bytes.length - 1)
  "'utf-8' codec can't decode " ++ place ++ ": " ++ error.reason.message

/-- Reads bytes after the pending ones, the first of which has the given position. The text read and
the bytes then pending are the result. -/
def decodeFrom (position : Nat) (pending : Bytes) : Bytes → Except Error (Text × Bytes)
  | [] => .ok ([], pending)
  | b :: rest =>
      match step pending b with
      | .scalar c =>
          match decodeFrom (position + pending.length + 1) [] rest with
          | .ok (text, left) => .ok (.char c :: text, left)
          | .error error => .error error
      | .hold held => decodeFrom position held rest
      | .badStart => .error ⟨position, [b], .invalidStart⟩
      | .badContinuation bad => .error ⟨position, pending.take bad, .invalidContinuation⟩

def decodeMore (pending bytes : Bytes) : Except Error (Text × Bytes) :=
  decodeFrom 0 pending bytes

def endError? (position : Nat) (pending : Bytes) : Option Error :=
  match pending with
  | [] => none
  | [first, second] =>
      if beginsSurrogate first second then some ⟨position, [first], .invalidContinuation⟩
      else some ⟨position, pending, .unexpectedEnd⟩
  | _ => some ⟨position, pending, .unexpectedEnd⟩

def decode (bytes : Bytes) : Except Error Text :=
  match decodeMore [] bytes with
  | .error error => .error error
  | .ok (text, pending) =>
      match endError? (bytes.length - pending.length) pending with
      | some error => .error error
      | none => .ok text

/-! ## Lossy reading -/

def replacement : CodePoint := '\uFFFD'

/-- What stands for pending bytes that no character continues. -/
def replaced : Bytes → Text
  | [] => []
  | [first, second] =>
      if beginsSurrogate first second then [replacement, replacement] else [replacement]
  | _ => [replacement]

/-- The reading of one byte between characters: the characters it gives and the bytes it leaves
pending. -/
def decodeFirstLossy (b : UInt8) : Text × Bytes :=
  match step [] b with
  | .scalar c => ([.char c], [])
  | .hold held => ([], held)
  | _ => ([replacement], [])

def decodeNextLossy (pending : Bytes) (b : UInt8) : Text × Bytes :=
  match step pending b with
  | .scalar c => ([.char c], [])
  | .hold held => ([], held)
  | .badStart => ([replacement], [])
  | .badContinuation _ =>
      let (text, held) := decodeFirstLossy b
      (replaced pending ++ text, held)

def decodeLossyFrom (pending : Bytes) : Bytes → Text
  | [] => replaced pending
  | b :: rest =>
      let (text, held) := decodeNextLossy pending b
      text ++ decodeLossyFrom held rest

def decodeLossy (bytes : Bytes) : Text :=
  decodeLossyFrom [] bytes

end ChangeImpact.Utf8
