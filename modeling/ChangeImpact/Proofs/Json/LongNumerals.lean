import ChangeImpact.Proofs.Json.Completeness
/-!
# Numerals that are too long

A numeral of too many digits is the only thing that the reader refuses without a complaint about the
form of the text. It meets one only where more digits stand next to each other than are converted.
-/
set_option autoImplicit false

namespace ChangeImpact.Json

open Numeral (LongDigits)
open Text (isAsciiDigit)

theorem skipBlanks_suffix (text : Text) : skipBlanks text <:+ text :=
  List.dropWhile_suffix _

theorem suffix_of_skipBlanks {text rest : Text} {point : CodePoint}
    (skipped : skipBlanks text = point :: rest) : rest <:+ text :=
  (List.suffix_cons point rest).trans (skipped ▸ skipBlanks_suffix text)

theorem longDigits_of_skipBlanks {text : Text} {length : Nat}
    (long : LongDigits isAsciiDigit (skipBlanks text) length) :
    LongDigits isAsciiDigit text length :=
  long.mono (skipBlanks_suffix text).isInfix

theorem suffix_of_readsAs {depth : Nat} {text rest : Text} (meaning : Meaning)
    (isRead : ReadsAs depth text rest meaning) : rest <:+ text := by
  obtain ⟨part, rfl, -⟩ := soundWithin depth text rest meaning isRead
  rw [← List.append_assoc]
  exact List.suffix_append ..

/-! ## Leaves -/

theorem consUnit_eq_error_iff (unit : Unit16) (result : Except Fault (List Unit16 × Text))
    (fault : Fault) :
    consUnit unit result = .error fault ↔ result = .error fault := by
  cases result <;> simp [consUnit]

theorem readUnits_ne_tooLong (opening : Nat) (text : Text) (error : Numeral.TooLong) :
    readUnits opening text ≠ .error (.tooLong error) := by
  fun_induction readUnits opening text with
  | case1 => simp
  | case2 => simp
  | case3 => simp
  | case4 a b c d next rest point isCode ih => rwa [ne_eq, consUnit_eq_error_iff]
  | case5 => simp
  | case6 => simp
  | case7 mark rest _ _ escaped isShort ih => rwa [ne_eq, consUnit_eq_error_iff]
  | case8 => simp
  | case9 => simp
  | case10 point rest _ _ _ _ _ _ ih => rwa [ne_eq, consUnit_eq_error_iff]

theorem readString_ne_tooLong (text : Text) (error : Numeral.TooLong) :
    readString text ≠ .error (.tooLong error) := by
  unfold readString
  split
  · nofun
  · rename_i fault failed
    intro same
    cases same
    exact readUnits_ne_tooLong _ _ error failed

theorem suffix_of_readString {text rest key : Text} (isRead : readString text = .ok (key, rest)) :
    rest <:+ text := by
  obtain ⟨body, units, rfl, -, -⟩ := exists_stringBody_of_readString isRead
  exact List.suffix_append ..

theorem longNumeral_of_readNumber {text : Text} {error : Numeral.TooLong}
    (failed : readNumber text = .error (.tooLong error)) :
    LongDigits isAsciiDigit text error.digits := by
  rw [readNumber_eq] at failed
  rcases minusParts : splitMinus text with ⟨negative, body⟩
  rcases wholeParts : splitWhole body with ⟨whole, afterWhole⟩
  rcases fractionParts : splitFraction afterWhole with ⟨fraction, afterFraction⟩
  rcases exponentParts : splitExponent afterFraction with ⟨exponent, last⟩
  simp only [minusParts, wholeParts, fractionParts, exponentParts] at failed
  obtain ⟨sign, rfl, -, -⟩ := splitMinus_front minusParts
  obtain ⟨rfl, areDigits, -⟩ := splitWhole_front wholeParts
  split at failed
  · cases failed
  · split at failed
    · cases failed
    · rename_i fault isFault
      cases failed
      -- Only an integer is converted digit by digit, and its digits are the whole part.
      unfold numberOfParts at isFault
      split at isFault
      · split at isFault
        · cases isFault
        · rename_i tooLong refused
          cases isFault
          have long := Numeral.longDigits_of_ofDigits refused areDigits
          exact long.mono ⟨sign, afterWhole, List.append_assoc ..⟩
      · cases isFault

/-! ## Values, items and members -/

/-- Every numeral refused in at most `depth` readings inside each other stands in the text read. -/
structure LongWithin (depth : Nat) : Prop where
  value : ∀ {text : Text} {error : Numeral.TooLong},
    readValue depth text = .error (.tooLong error) → LongDigits isAsciiDigit text error.digits
  items : ∀ {text : Text} {error : Numeral.TooLong},
    readItems depth text = .error (.tooLong error) → LongDigits isAsciiDigit text error.digits
  members : ∀ {text : Text} {error : Numeral.TooLong},
    readMembers depth text = .error (.tooLong error) → LongDigits isAsciiDigit text error.digits

namespace LongWithin

variable {depth : Nat} {text : Text} {error : Numeral.TooLong}

theorem readArray (within : LongWithin depth)
    (failed : readValue (depth + 1) (.char '[' :: text) = .error (.tooLong error)) :
    LongDigits isAsciiDigit (.char '[' :: text) error.digits := by
  rw [readValue_bracket] at failed
  split at failed
  · cases failed
  · split at failed
    · cases failed
    · rename_i fault isFault
      cases failed
      exact (longDigits_of_skipBlanks (within.items isFault)).mono (List.suffix_cons ..).isInfix

theorem readObject (within : LongWithin depth)
    (failed : readValue (depth + 1) (.char '{' :: text) = .error (.tooLong error)) :
    LongDigits isAsciiDigit (.char '{' :: text) error.digits := by
  rw [readValue_brace] at failed
  split at failed
  · cases failed
  · split at failed
    · cases failed
    · rename_i fault isFault
      cases failed
      exact (longDigits_of_skipBlanks (within.members isFault)).mono (List.suffix_cons ..).isInfix

theorem readScalar
    (other : ∀ point ∈ text.head?, point ≠ .char '"' ∧ point ≠ .char '[' ∧ point ≠ .char '{')
    (failed : readValue (depth + 1) text = .error (.tooLong error)) :
    LongDigits isAsciiDigit text error.digits := by
  rw [readValue_other depth other] at failed
  split at failed
  · cases failed
  · exact longNumeral_of_readNumber failed

theorem readValue (within : LongWithin depth)
    (failed : readValue (depth + 1) text = .error (.tooLong error)) :
    LongDigits isAsciiDigit text error.digits := by
  cases text with
  | nil => exact readScalar (by simp) failed
  | cons point body =>
      by_cases quote : point = .char '"'
      · subst quote
        rw [readValue_quote] at failed
        split at failed
        · cases failed
        · rename_i fault isFault
          cases failed
          exact absurd isFault (readString_ne_tooLong _ _)
      by_cases bracket : point = .char '['
      · subst bracket
        exact within.readArray failed
      by_cases brace : point = .char '{'
      · subst brace
        exact within.readObject failed
      apply readScalar _ failed
      intro first same
      cases same
      exact ⟨quote, bracket, brace⟩

theorem readItems (within : LongWithin depth)
    (failed : readItems (depth + 1) text = .error (.tooLong error)) :
    LongDigits isAsciiDigit text error.digits := by
  rw [readItems_succ] at failed
  split at failed
  · rename_i fault isFault
    cases failed
    exact within.value isFault
  · rename_i value rest isValue
    have inText : rest <:+ text := suffix_of_readsAs (.value value) isValue
    split at failed
    · cases failed
    · rename_i left skipped
      split at failed
      · cases failed
      · rename_i fault isFault
        cases failed
        have inRest : left <:+ rest := suffix_of_skipBlanks skipped
        exact (longDigits_of_skipBlanks (within.items isFault)).mono (inRest.trans inText).isInfix
    · cases failed

theorem readAfterMember (within : LongWithin depth) {member : Text × Value}
    (failed : readAfterMember depth member text = .error (.tooLong error)) :
    LongDigits isAsciiDigit text error.digits := by
  unfold Json.readAfterMember at failed
  split at failed
  · cases failed
  · rename_i left skipped
    split at failed
    · cases failed
    · rename_i fault isFault
      cases failed
      have inText : left <:+ text := suffix_of_skipBlanks skipped
      exact (longDigits_of_skipBlanks (within.members isFault)).mono inText.isInfix
  · cases failed

theorem readMembers (within : LongWithin depth)
    (failed : readMembers (depth + 1) text = .error (.tooLong error)) :
    LongDigits isAsciiDigit text error.digits := by
  cases text with
  | nil => cases failed
  | cons point body =>
      by_cases quote : point = .char '"'
      · subst quote
        rw [readMembers_quote] at failed
        split at failed
        · rename_i fault isFault
          cases failed
          exact absurd isFault (readString_ne_tooLong _ _)
        · rename_i key afterKey isKey
          have inBody := suffix_of_readString isKey
          split at failed
          · rename_i afterColon skipped
            have inKey : afterColon <:+ afterKey := suffix_of_skipBlanks skipped
            have inText : afterColon <:+ .char '"' :: body :=
              (inKey.trans inBody).trans (List.suffix_cons ..)
            split at failed
            · rename_i fault isFault
              cases failed
              exact (longDigits_of_skipBlanks (within.value isFault)).mono inText.isInfix
            · rename_i value afterValue isValue
              have inColon : afterValue <:+ afterColon :=
                (suffix_of_readsAs (.value value) isValue).trans (skipBlanks_suffix _)
              exact (within.readAfterMember failed).mono (inColon.trans inText).isInfix
          · cases failed
      · unfold Json.readMembers at failed
        split at failed
        · rename_i same
          exact absurd (List.cons.inj same).1 quote
        · cases failed

end LongWithin

theorem longWithin (depth : Nat) : LongWithin depth := by
  induction depth with
  | zero =>
      refine ⟨?_, ?_, ?_⟩ <;>
        intro text error failed <;> cases failed
  | succ depth ih => exact ⟨ih.readValue, ih.readItems, ih.readMembers⟩

/-- A text is refused for a numeral only if it holds one that is too long. -/
theorem longNumeral_of_read {text : Text} {error : Numeral.TooLong}
    (failed : read text = .error (.tooLong error)) : LongDigits isAsciiDigit text error.digits := by
  unfold read at failed
  split at failed
  · cases failed
  · split at failed
    · rename_i fault isFault
      cases fault with
      | malformed complaint left => cases failed
      | tooLong refused =>
          cases failed
          exact longDigits_of_skipBlanks ((longWithin _).value isFault)
    · split at failed <;> cases failed

/-! ## An array of one long numeral -/

section

variable {digit : CodePoint} {digits : Text}

theorem readNumber_of_long (areDigits : ∀ point ∈ digit :: digits, isAsciiDigit point = true)
    (notZero : digit ≠ .char '0') (isLong : Numeral.digitLimit < (digit :: digits).length)
    {after : Text} (ends : EndsNumber after) :
    readNumber (digit :: digits ++ after) = .error (.tooLong ⟨(digit :: digits).length⟩) := by
  have minusParts : splitMinus (digit :: digits ++ after) = (false, digit :: digits ++ after) := by
    unfold splitMinus
    split
    · rename_i same
      have minus := areDigits digit (by simp)
      rw [(List.cons.inj same).1] at minus
      exact absurd minus (by decide)
    · rfl
  have wholeParts : splitWhole (digit :: digits ++ after) = (digit :: digits, after) := by
    have stops : NoDigit after := fun point same => (ends point same).1
    rw [splitWhole_of_ne, takeWhile_digits_append areDigits stops,
      dropWhile_digits_append areDigits stops]
    intro rest same
    exact notZero (List.cons.inj same).1
  have fractionParts : splitFraction after = ([], after) := by
    unfold splitFraction
    split
    · exact absurd rfl (ends _ rfl).2.1
    · rfl
  have exponentParts : splitExponent after = (none, after) :=
    splitExponent_of_noMark fun point same => (ends point same).2.2
  have refused : Numeral.ofDigits (digit :: digits) = .error ⟨(digit :: digits).length⟩ :=
    if_pos isLong
  rw [readNumber_eq]
  simp only [minusParts, wholeParts, fractionParts, exponentParts, numberOfParts, refused,
    List.isEmpty_cons, Bool.false_eq_true, if_false]

theorem readItems_of_long (areDigits : ∀ point ∈ digit :: digits, isAsciiDigit point = true)
    (notZero : digit ≠ .char '0') (isLong : Numeral.digitLimit < (digit :: digits).length)
    (depth : Nat) :
    readItems (depth + 2) (digit :: digits ++ [.char ']']) =
      .error (.tooLong ⟨(digit :: digits).length⟩) := by
  have isDigit := areDigits digit (by simp)
  have other : ∀ point ∈ (digit :: digits ++ [CodePoint.char ']']).head?,
      point ≠ .char '"' ∧ point ≠ .char '[' ∧ point ≠ .char '{' := by
    intro point same
    cases same
    refine ⟨?_, ?_, ?_⟩ <;>
      rintro rfl <;> exact absurd isDigit (by decide)
  have starts : StartsNumber (digit :: digits ++ [.char ']']) := ⟨digit, _, isDigit, .inl rfl⟩
  have ends : EndsNumber [.char ']'] := endsNumber_of_delimits (delimits_cons _ [] (by decide))
  rw [readItems_succ, readValue_other depth other, readWord?_eq_none_of_startsNumber starts]
  simp only [readNumber_of_long areDigits notZero isLong ends]

theorem read_of_long (areDigits : ∀ point ∈ digit :: digits, isAsciiDigit point = true)
    (notZero : digit ≠ .char '0') (isLong : Numeral.digitLimit < (digit :: digits).length) :
    read (.char '[' :: (digit :: digits ++ [.char ']'])) =
      .error (.tooLong ⟨(digit :: digits).length⟩) := by
  have isDigit := areDigits digit (by simp)
  have skipped : skipBlanks (digit :: digits ++ [.char ']']) = digit :: digits ++ [.char ']'] := by
    have notBlank : isJsonBlank digit = false := by
      rw [Bool.eq_false_iff]
      intro blank
      rcases (isJsonBlank_iff digit).mp blank with rfl | rfl | rfl | rfl <;>
        exact absurd isDigit (by decide)
    exact List.dropWhile_cons_of_neg (by simp [notBlank])
  have front : readFront (.char '[' :: (digit :: digits ++ [.char ']'])) =
      .error (.tooLong ⟨(digit :: digits).length⟩) := by
    have depth : 2 * (.char '[' :: (digit :: digits ++ [.char ']']) : Text).length + 1 =
        2 * digits.length + 4 + 2 + 1 := by
      simp only [List.length_cons, List.length_append, List.length_nil]
      omega
    rw [readFront, depth, readValue_bracket, skipped]
    split
    · rename_i same
      rw [(List.cons.inj same).1] at isDigit
      exact absurd isDigit (by decide)
    · have refused := readItems_of_long areDigits notZero isLong (2 * digits.length + 4)
      simp only [refused]
  rw [read_bracket, front]
  rfl

end

end ChangeImpact.Json
