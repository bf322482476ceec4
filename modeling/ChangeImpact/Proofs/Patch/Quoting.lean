import ChangeImpact.Patch.Path
import ChangeImpact.Proofs.Text.Utf8
/-!
# Unquoting undoes quoting

How the paths of a patch are quoted, character by character, with bytes beyond ASCII kept or written
in octal as the repository is set. Each escape stands for the bytes of its character whatever
follows it, so the path comes back from its quoted form, and so does that of a file with either
side's first component.
-/
set_option autoImplicit false

namespace ChangeImpact.Patch.Quoting

open Utf8 (Bytes)

/-! ## Quoted paths -/

/-- The letter that stands for a character after a backslash. -/
def letterOf? : Char → Option Char
  | '\x07' => some 'a'
  | '\x08' => some 'b'
  | '\t' => some 't'
  | '\n' => some 'n'
  | '\x0b' => some 'v'
  | '\x0c' => some 'f'
  | '\r' => some 'r'
  | '"' => some '"'
  | '\\' => some '\\'
  | _ => none

/-- A backslash and the three octal digits of a byte. -/
def octalEscape (byte : UInt8) : List Char :=
  ['\\', (byte.toNat / 64).digitChar, (byte.toNat / 8 % 8).digitChar, (byte.toNat % 8).digitChar]

/-- Whether the bytes of a character are written in octal if no letter stands for it: those of
control characters, and on demand all beyond ASCII. -/
def inOctal (quotePath : Bool) (c : Char) : Bool :=
  c.toNat < 0x20 || c.toNat = 0x7f || quotePath && 0x80 ≤ c.toNat

def isSpecial (quotePath : Bool) (c : Char) : Bool :=
  (letterOf? c).isSome || inOctal quotePath c

def escapeChar (quotePath : Bool) (c : Char) : List Char :=
  match letterOf? c with
  | some letter => ['\\', letter]
  | none => if inOctal quotePath c then (Utf8.encodeChar c).flatMap octalEscape else [c]

/-- A path as a patch writes it: in quotes if it holds a special character, and else as it is. -/
def quote (quotePath : Bool) (path : List Char) : List Char :=
  if path.any (isSpecial quotePath) then '"' :: path.flatMap (escapeChar quotePath) ++ ['"']
  else path

/-! ## One escape -/

theorem unescape_cons {byte : UInt8} (plain : byte ≠ backslash) (rest : Bytes) :
    unescape (byte :: rest) = consByte byte (unescape rest) := by
  match rest with
  | [] => rfl
  | [a] => simp only [unescape, if_neg plain]
  | [a, b] => simp only [unescape, if_neg plain]
  | a :: b :: c :: others => rw [unescape, if_neg plain]

theorem unescape_letter {letter byte : UInt8} (isLetter : byteOfLetter? letter = some byte)
    (noDigit : octalValue? letter = none) (rest : Bytes) :
    unescape (backslash :: letter :: rest) = consByte byte (unescape rest) := by
  match rest with
  | [] => simp only [unescape, if_pos, isLetter]
  | [b] => simp only [unescape, if_pos, isLetter]
  | b :: c :: others => simp only [unescape, if_pos, octal?, noDigit, isLetter]

theorem unescape_octal {a b c byte : UInt8} (isByte : octal? a b c = some byte.toNat)
    (rest : Bytes) :
    unescape (backslash :: a :: b :: c :: rest) = consByte byte (unescape rest) := by
  simp only [unescape, if_pos, isByte, if_pos byte.toNat_lt, UInt8.ofNat_toNat]

theorem unescape_plain {front rest bytes : Bytes} (plain : ∀ byte ∈ front, byte ≠ backslash)
    (unescaped : unescape rest = .ok bytes) : unescape (front ++ rest) = .ok (front ++ bytes) := by
  induction front with
  | nil => exact unescaped
  | cons byte others ih =>
      rw [List.cons_append, unescape_cons (plain byte List.mem_cons_self),
        ih fun other member => plain other (List.mem_cons_of_mem _ member)]
      rfl

/-! ## Octal digits -/

theorem encodeChar_digitChar : ∀ digit < 8,
    Utf8.encodeChar (Nat.digitChar digit) = [UInt8.ofNat (48 + digit)] ∧
      octalValue? (UInt8.ofNat (48 + digit)) = some digit := by
  decide

theorem unescape_octalEscape (byte : UInt8) (rest : Bytes) :
    unescape (Utf8.encodeChars (octalEscape byte) ++ rest) = consByte byte (unescape rest) := by
  have small := byte.toNat_lt
  obtain ⟨high, highValue⟩ := encodeChar_digitChar (byte.toNat / 64) (by omega)
  obtain ⟨middle, middleValue⟩ := encodeChar_digitChar (byte.toNat / 8 % 8) (by omega)
  obtain ⟨low, lowValue⟩ := encodeChar_digitChar (byte.toNat % 8) (by omega)
  have isByte : octal? (UInt8.ofNat (48 + byte.toNat / 64)) (UInt8.ofNat (48 + byte.toNat / 8 % 8))
      (UInt8.ofNat (48 + byte.toNat % 8)) = some byte.toNat := by
    simp only [octal?, highValue, middleValue, lowValue, Option.some.injEq]
    omega
  have isBackslash : Utf8.encodeChar '\\' = [backslash] := rfl
  rw [← unescape_octal isByte]
  simp only [octalEscape, Utf8.encodeChars, List.flatMap_cons, List.flatMap_nil, isBackslash, high,
    middle, low, List.cons_append, List.nil_append, List.append_nil]

theorem unescape_octalEscapes {front rest bytes : Bytes} (unescaped : unescape rest = .ok bytes) :
    unescape (Utf8.encodeChars (front.flatMap octalEscape) ++ rest) = .ok (front ++ bytes) := by
  induction front with
  | nil => exact unescaped
  | cons byte others ih =>
      rw [List.flatMap_cons, Utf8.encodeChars, List.flatMap_append, List.append_assoc]
      change unescape (Utf8.encodeChars _ ++ (Utf8.encodeChars _ ++ rest)) = _
      rw [unescape_octalEscape, ih]
      rfl

/-! ## One character -/

theorem exists_letter_of_letterOf? {c letter : Char} (isLetter : letterOf? c = some letter) :
    ∃ mark byte, Utf8.encodeChar letter = [mark] ∧ Utf8.encodeChar c = [byte] ∧
      byteOfLetter? mark = some byte ∧ octalValue? mark = none := by
  unfold letterOf? at isLetter
  split at isLetter <;> cases isLetter <;> exact ⟨_, _, rfl, rfl, by decide, by decide⟩

/-- Only a backslash has the byte of one. -/
theorem eq_of_backslash_mem_encodeChar {c : Char} (member : backslash ∈ Utf8.encodeChar c) :
    c = '\\' := by
  have small : c.toNat < 0x110000 := by
    have valid : c.toNat < 0xD800 ∨ 0xDFFF < c.toNat ∧ c.toNat < 0x110000 := c.valid
    omega
  have ofByte {code : Nat} (fits : code < 0x100) (same : backslash = UInt8.ofNat code) :
      code = 92 := by
    rw [← Utf8.toNat_ofNat_of_lt fits, ← same]
    rfl
  simp only [Utf8.encodeChar] at member
  split at member
  · have code := ofByte (by omega) (List.mem_singleton.mp member)
    exact Char.ext (UInt32.toNat_inj.mp code)
  · split at member
    · simp only [List.mem_cons, List.not_mem_nil, or_false] at member
      rcases member with same | same <;> exact absurd (ofByte (by omega) same) (by omega)
    · split at member
      · simp only [List.mem_cons, List.not_mem_nil, or_false] at member
        rcases member with same | same | same <;> exact absurd (ofByte (by omega) same) (by omega)
      · simp only [List.mem_cons, List.not_mem_nil, or_false] at member
        rcases member with
          same | same | same | same <;> exact absurd (ofByte (by omega) same) (by omega)

theorem unescape_escapeChar (quotePath : Bool) (c : Char) {rest bytes : Bytes}
    (unescaped : unescape rest = .ok bytes) :
    unescape (Utf8.encodeChars (escapeChar quotePath c) ++ rest) =
      .ok (Utf8.encodeChar c ++ bytes) := by
  unfold escapeChar
  split
  · rename_i letter isLetter
    obtain ⟨mark, byte, isMark, isByte, stands, noDigit⟩ := exists_letter_of_letterOf? isLetter
    have isEscape : Utf8.encodeChars ['\\', letter] = [backslash, mark] := by
      change Utf8.encodeChar '\\' ++ (Utf8.encodeChar letter ++ []) = _
      rw [isMark]
      rfl
    rw [isEscape, isByte]
    change unescape (backslash :: mark :: rest) = _
    rw [unescape_letter stands noDigit, unescaped]
    rfl
  · rename_i noLetter
    split
    · exact unescape_octalEscapes unescaped
    · have plain : ∀ byte ∈ Utf8.encodeChar c, byte ≠ backslash := by
        intro byte member isBackslash
        rw [isBackslash] at member
        rw [eq_of_backslash_mem_encodeChar member] at noLetter
        cases noLetter
      have isChar : Utf8.encodeChars [c] = Utf8.encodeChar c := List.append_nil _
      rw [isChar]
      exact unescape_plain plain unescaped

theorem unescape_escapeChars (quotePath : Bool) (path : List Char) :
    unescape (Utf8.encodeChars (path.flatMap (escapeChar quotePath))) =
      .ok (Utf8.encodeChars path) := by
  induction path with
  | nil => rfl
  | cons c rest ih =>
      rw [List.flatMap_cons, Utf8.encodeChars, List.flatMap_append]
      exact unescape_escapeChar quotePath c ih

/-! ## Whole paths -/

theorem inside?_quoted (inner : List Char) :
    inside? (Text.ofChars ('"' :: inner ++ ['"'])) = some (Text.ofChars inner) := by
  have isRest : Text.ofChars (inner ++ ['"']) = Text.ofChars inner ++ [.char '"'] := List.map_append
  change inside? (.char '"' :: Text.ofChars (inner ++ ['"'])) = _
  rw [isRest]
  simp [inside?]

theorem inside?_of_notMem {path : List Char} (noQuote : '"' ∉ path) :
    inside? (Text.ofChars path) = none := by
  cases path with
  | nil => rfl
  | cons c rest =>
      have notFirst : c ≠ '"' := by
        rintro rfl
        exact noQuote List.mem_cons_self
      change inside? (.char c :: Text.ofChars rest) = none
      unfold inside?
      split
      · rename_i same
        cases same
        exact absurd rfl notFirst
      · rfl

theorem unquote_quote (quotePath : Bool) (path : List Char) :
    unquote (Text.ofChars (quote quotePath path)) = .ok (Text.ofChars path) := by
  unfold quote
  split
  · simp only [unquote, inside?_quoted, Utf8.encode_ofChars, unescape_escapeChars,
      Utf8.decodeLossy_encodeChars]
  · rename_i noSpecial
    have noQuote : '"' ∉ path := by
      intro member
      exact noSpecial (List.any_eq_true.mpr ⟨'"', member, rfl⟩)
    rw [unquote, inside?_of_notMem noQuote]

theorem isEmpty_quote_cons (quotePath : Bool) (c : Char) (rest : List Char) :
    (Text.ofChars (quote quotePath (c :: rest))).isEmpty = false := by
  unfold quote
  split <;> rfl

/-- Quoting is undone, with bytes beyond ASCII quoted or not: for the path itself, for a file with
its path on the target's side, and for a deleted file with its path on the source's. -/
theorem path_of_quote (quotePath : Bool) (path : List Char) :
    unquote (Text.ofChars (quote quotePath path)) = .ok (Text.ofChars path) ∧
    (∀ source binary hunks,
      (PatchedFile.mk source (Text.ofChars (quote quotePath ('b' :: '/' :: path)))
        binary hunks).path = .ok (Text.ofChars path)) ∧
    ∀ binary hunks,
      (PatchedFile.mk (Text.ofChars (quote quotePath ('a' :: '/' :: path))) "/dev/null"
        binary hunks).path = .ok (Text.ofChars path) := by
  refine ⟨unquote_quote quotePath path, ?_, ?_⟩
  · intro source binary hunks
    have isThere : Text.ofChars ('b' :: '/' :: path) ≠ "/dev/null" := by
      intro same
      cases congrArg List.head? same
    simp only [PatchedFile.path, isEmpty_quote_cons, Bool.false_eq_true, if_false, unquote_quote,
      if_neg isThere]
    rfl
  · intro binary hunks
    simp only [PatchedFile.path, unquote_quote]
    rfl

-- A backslash before digits, and a character of two bytes before a digit.
example : quote true ['\\', '1', '0', '1', 'é', '7'] = "\"\\\\101\\303\\2517\"".toList := by decide

end ChangeImpact.Patch.Quoting
