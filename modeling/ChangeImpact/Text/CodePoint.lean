/-!
# Code points and text

Text from a wire, a file system or an environment may hold a surrogate that stands alone, which no
`Char` can be. A code point is therefore a character or a lone surrogate, and text is a list of code
points, ordered by their codes. A literal is written as a `String` and becomes text where text is
expected.
-/
set_option autoImplicit false

namespace ChangeImpact

/-- A Unicode code point, surrogates included. -/
inductive CodePoint where
  | char (c : Char)
  /-- The surrogate at this distance from the first one. -/
  | surrogate (offset : Fin 0x800)
  deriving DecidableEq

namespace CodePoint

instance : Coe Char CodePoint where
  coe := char

def firstSurrogate : Nat := 0xD800

def code : CodePoint → Nat
  | char c => c.toNat
  | surrogate offset => firstSurrogate + offset.val

def ofCode? (number : Nat) : Option CodePoint :=
  if valid : number.isValidChar then some (char (Char.ofNatAux number valid))
  else if inside : number - firstSurrogate < 0x800 then
    some (surrogate ⟨number - firstSurrogate, inside⟩)
  else none

def toChar? : CodePoint → Option Char
  | char c => some c
  | surrogate _ => none

theorem code_char_ne_code_surrogate (c : Char) (offset : Fin 0x800) :
    code (char c) ≠ code (surrogate offset) := by
  have valid : c.toNat < 0xD800 ∨ 0xDFFF < c.toNat ∧ c.toNat < 0x110000 := c.valid
  have small := offset.isLt
  simp only [code, firstSurrogate]
  omega

theorem code_injective {left right : CodePoint} (same : left.code = right.code) : left = right := by
  cases left with
  | char c =>
      cases right with
      | char d => exact congrArg char (Char.ext (UInt32.toNat_inj.mp same))
      | surrogate offset => exact absurd same (code_char_ne_code_surrogate c offset)
  | surrogate offset =>
      cases right with
      | char c => exact absurd same.symm (code_char_ne_code_surrogate c offset)
      | surrogate other =>
          exact congrArg surrogate (Fin.ext (Nat.add_left_cancel same))

/-! ## Order -/

instance : LT CodePoint where
  lt left right := left.code < right.code

theorem lt_def (left right : CodePoint) : left < right ↔ left.code < right.code := Iff.rfl

instance : DecidableLT CodePoint := fun left right =>
  inferInstanceAs (Decidable (left.code < right.code))

instance : Trans (α := CodePoint) (· < ·) (· < ·) (· < ·) where
  trans first second := Nat.lt_trans first second

instance : Std.Irrefl (α := CodePoint) (· < ·) where
  irrefl point := Nat.lt_irrefl point.code

instance : Std.Asymm (α := CodePoint) (· < ·) where
  asymm _ _ less := Nat.lt_asymm less

instance : Std.Trichotomous (α := CodePoint) (· < ·) where
  trichotomous _ _ notLess notMore :=
    code_injective (Nat.le_antisymm (Nat.not_lt.mp notMore) (Nat.not_lt.mp notLess))

end CodePoint

abbrev Text := List CodePoint

namespace Text

def ofChars (chars : List Char) : Text :=
  chars.map CodePoint.char

def ofString (text : String) : Text :=
  ofChars text.toList

instance : Coe String Text where
  coe := ofString

def toChars? : Text → Option (List Char)
  | [] => some []
  | .char c :: rest => (toChars? rest).map (c :: ·)
  | .surrogate _ :: _ => none

def toString? (text : Text) : Option String :=
  (toChars? text).map String.ofList

/-- Text for the eye, with a mark for what no character writes. -/
def display (text : Text) : String :=
  String.ofList (text.map fun point => point.toChar?.getD '\uFFFD')

def ofInt (number : Int) : Text :=
  ofString (toString number)

def ofNat (number : Nat) : Text :=
  ofString (toString number)

theorem toChars?_ofChars (chars : List Char) : toChars? (ofChars chars) = some chars := by
  induction chars with
  | nil => rfl
  | cons c chars ih =>
      have tail : toChars? (chars.map CodePoint.char) = some chars := ih
      simp [ofChars, toChars?, tail]

theorem toString?_ofString (text : String) : toString? (ofString text) = some text := by
  simp [toString?, ofString, toChars?_ofChars]

def asciiLower (text : Text) : Text :=
  text.map fun
    | .char c => .char c.toLower
    | point => point

def joinWith (between : Text) : List Text → Text
  | [] => []
  | [text] => text
  | text :: next :: rest => text ++ between ++ joinWith between (next :: rest)

/-! ## Words in text -/

def after? (word : String) (text : Text) : Option Text :=
  if (ofString word).isPrefixOf text then some (text.drop word.length) else none

def startsWith (word : String) (text : Text) : Bool :=
  (ofString word).isPrefixOf text

end Text

end ChangeImpact
