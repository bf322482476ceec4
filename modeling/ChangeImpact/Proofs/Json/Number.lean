import ChangeImpact.Json.Reader
/-!
# Where a number ends

A number is read from the front of a text up to the first point that cannot continue it. The reading
depends on the number's own text only: after it may stand anything that is no digit, point or
exponent mark.
-/
set_option autoImplicit false

namespace ChangeImpact.Json

open Text (isAsciiDigit)

/-! ## Digits -/

def NoDigit (text : Text) : Prop :=
  ∀ point ∈ text.head?, isAsciiDigit point = false

theorem takeWhile_digits_append {digits rest : Text}
    (all : ∀ point ∈ digits, isAsciiDigit point = true) (stops : NoDigit rest) :
    (digits ++ rest).takeWhile isAsciiDigit = digits := by
  rw [List.takeWhile_append_of_pos all]
  cases rest with
  | nil => simp
  | cons point rest => simp [stops point rfl]

theorem dropWhile_digits_append {digits rest : Text}
    (all : ∀ point ∈ digits, isAsciiDigit point = true) (stops : NoDigit rest) :
    (digits ++ rest).dropWhile isAsciiDigit = rest := by
  rw [List.dropWhile_append_of_pos all]
  cases rest with
  | nil => rfl
  | cons point rest => simp [stops point rfl]

theorem isAsciiDigit_of_mem_takeWhile {point : CodePoint} {text : Text}
    (member : point ∈ text.takeWhile isAsciiDigit) : isAsciiDigit point = true :=
  List.all_eq_true.mp List.all_takeWhile point member

/-! ## The parts of a number -/

theorem splitWhole_of_ne {text : Text} (other : ∀ rest, text ≠ .char '0' :: rest) :
    splitWhole text = (text.takeWhile isAsciiDigit, text.dropWhile isAsciiDigit) := by
  unfold splitWhole
  split
  · rename_i rest
    exact absurd rfl (other rest)
  · rfl

theorem splitWhole_front {text whole rest : Text} (isSplit : splitWhole text = (whole, rest)) :
    text = whole ++ rest ∧ (∀ point ∈ whole, isAsciiDigit point = true) ∧
      ∀ after, NoDigit after → splitWhole (whole ++ after) = (whole, after) := by
  by_cases zero : ∃ rest, text = .char '0' :: rest
  · obtain ⟨after, rfl⟩ := zero
    cases isSplit
    refine ⟨rfl, ?_, fun _ _ => rfl⟩
    intro point member
    cases List.mem_singleton.mp member
    decide
  · have other : ∀ rest, text ≠ .char '0' :: rest := fun rest same => zero ⟨rest, same⟩
    rw [splitWhole_of_ne other] at isSplit
    cases isSplit
    refine ⟨List.takeWhile_append_dropWhile.symm, fun _ => isAsciiDigit_of_mem_takeWhile, ?_⟩
    intro after stops
    have all : ∀ point ∈ text.takeWhile isAsciiDigit, isAsciiDigit point = true :=
      fun _ => isAsciiDigit_of_mem_takeWhile
    have stillOther : ∀ rest, text.takeWhile isAsciiDigit ++ after ≠ .char '0' :: rest := by
      intro rest same
      have parts : text.takeWhile isAsciiDigit ++ text.dropWhile isAsciiDigit = text :=
        List.takeWhile_append_dropWhile
      cases whole : text.takeWhile isAsciiDigit with
      | nil =>
          rw [whole, List.nil_append] at same
          have zeroDigit : isAsciiDigit (.char '0') = false := stops _ (by rw [same]; rfl)
          exact absurd zeroDigit (by decide)
      | cons first others =>
          rw [whole, List.cons_append] at same parts
          rw [(List.cons.inj same).1] at parts
          exact other _ parts.symm
    rw [splitWhole_of_ne stillOther, takeWhile_digits_append all stops,
      dropWhile_digits_append all stops]

def isNumberPoint (point : CodePoint) : Bool :=
  isAsciiDigit point || point = '-' || point = '+' || point = '.' || point = 'e' || point = 'E'

theorem isNumberPoint_of_isAsciiDigit {point : CodePoint} (digit : isAsciiDigit point = true) :
    isNumberPoint point = true := by
  simp [isNumberPoint, digit]

theorem splitFraction_front {text fraction rest : Text}
    (isSplit : splitFraction text = (fraction, rest)) :
    ∃ part, text = part ++ rest ∧ (∀ point ∈ part, isNumberPoint point = true) ∧
      (∀ point ∈ part.head?, point = .char '.') ∧
      ∀ after, NoDigit after → after.head? ≠ some (.char '.') →
        splitFraction (part ++ after) = (fraction, after) := by
  have absent : ∀ after : Text, after.head? ≠ some (.char '.') →
      splitFraction after = ([], after) := by
    intro after other
    unfold splitFraction
    split
    · exact absurd rfl other
    · rfl
  by_cases pointed : ∃ digits, text = .char '.' :: digits ∧ digits.takeWhile isAsciiDigit ≠ []
  · obtain ⟨digits, rfl, some⟩ := pointed
    have same : splitFraction (.char '.' :: digits) =
        (digits.takeWhile isAsciiDigit, digits.dropWhile isAsciiDigit) := by
      simp only [splitFraction]
    rw [same] at isSplit
    cases isSplit
    refine ⟨.char '.' :: digits.takeWhile isAsciiDigit, ?_, ?_, ?_, ?_⟩
    · rw [List.cons_append, List.takeWhile_append_dropWhile]
    · intro point member
      rcases List.mem_cons.mp member with rfl | member
      · decide
      · exact isNumberPoint_of_isAsciiDigit (isAsciiDigit_of_mem_takeWhile member)
    · intro point same
      cases same
      rfl
    · intro after stops _
      have all : ∀ point ∈ digits.takeWhile isAsciiDigit, isAsciiDigit point = true :=
        fun _ => isAsciiDigit_of_mem_takeWhile
      simp only [List.cons_append, splitFraction, takeWhile_digits_append all stops,
        dropWhile_digits_append all stops]
  · have same : splitFraction text = ([], text) := by
      unfold splitFraction
      split
      · rename_i digits
        split
        · rfl
        · rename_i some
          exact absurd ⟨digits, rfl, some⟩ pointed
      · rfl
    rw [same] at isSplit
    cases isSplit
    refine ⟨[], rfl, by simp, by simp, ?_⟩
    intro after _ other
    exact absent after other

def splitExponent (text : Text) : Option Int × Text :=
  match Binary64.readExponent? isAsciiDigit text with
  | some (exponent, rest) => (some exponent, rest)
  | none => (none, text)

def NoMark (text : Text) : Prop :=
  ∀ point ∈ text.head?, point ≠ .char 'e' ∧ point ≠ .char 'E'

theorem splitSign_front {text body : Text} {negative : Bool}
    (isSplit : Numeral.splitSign text = (negative, body)) :
    ∃ sign, text = sign ++ body ∧ (∀ point ∈ sign, isNumberPoint point = true) ∧
      ∀ digit rest, isAsciiDigit digit = true →
        Numeral.splitSign (sign ++ digit :: rest) = (negative, digit :: rest) := by
  unfold Numeral.splitSign at isSplit
  split at isSplit
  · cases isSplit
    refine ⟨[.char '-'], rfl, ?_, fun _ _ _ => rfl⟩
    intro point member
    cases List.mem_singleton.mp member
    decide
  · cases isSplit
    refine ⟨[.char '+'], rfl, ?_, fun _ _ _ => rfl⟩
    intro point member
    cases List.mem_singleton.mp member
    decide
  · cases isSplit
    refine ⟨[], rfl, by simp, ?_⟩
    intro digit rest isDigit
    rw [List.nil_append]
    unfold Numeral.splitSign
    split
    · rename_i same
      rw [(List.cons.inj same).1] at isDigit
      exact absurd isDigit (by decide)
    · rename_i same
      rw [(List.cons.inj same).1] at isDigit
      exact absurd isDigit (by decide)
    · rfl

theorem splitExponent_of_noMark {text : Text} (noMark : NoMark text) :
    splitExponent text = (none, text) := by
  cases text with
  | nil => rfl
  | cons point rest =>
      have other := noMark point rfl
      simp [splitExponent, Binary64.readExponent?, other.1, other.2]

theorem readExponent?_front {text rest : Text} {exponent : Int}
    (isRead : Binary64.readExponent? isAsciiDigit text = some (exponent, rest)) :
    ∃ mark part, text = mark :: part ++ rest ∧ (mark = .char 'e' ∨ mark = .char 'E') ∧
      (∀ point ∈ part, isNumberPoint point = true) ∧
      ∀ after, NoDigit after →
        Binary64.readExponent? isAsciiDigit (mark :: part ++ after) = some (exponent, after) := by
  cases text with
  | nil => cases isRead
  | cons mark others =>
      by_cases isMark : (decide (mark = .char 'e') || decide (mark = .char 'E')) = true
      · rcases signed : Numeral.splitSign others with ⟨negative, body⟩
        obtain ⟨sign, rfl, signPoints, signAgain⟩ := splitSign_front signed
        simp only [Binary64.readExponent?, isMark, if_true, signed] at isRead
        cases digits : body.takeWhile isAsciiDigit with
        | nil => simp [digits] at isRead
        | cons digit more =>
            have all : ∀ point ∈ digit :: more, isAsciiDigit point = true := by
              rw [← digits]
              exact fun _ => isAsciiDigit_of_mem_takeWhile
            simp only [digits, Option.some.injEq, Prod.mk.injEq] at isRead
            obtain ⟨rfl, rfl⟩ := isRead
            refine ⟨mark, sign ++ digit :: more, ?_, by simpa using isMark, ?_, ?_⟩
            · have whole : body.takeWhile isAsciiDigit ++ body.dropWhile isAsciiDigit = body :=
                List.takeWhile_append_dropWhile
              rw [List.cons_append, List.append_assoc, ← digits, whole]
            · intro point member
              rcases List.mem_append.mp member with member | member
              · exact signPoints point member
              · exact isNumberPoint_of_isAsciiDigit (all point member)
            · intro after stops
              have again := takeWhile_digits_append all stops
              have left := dropWhile_digits_append all stops
              rw [List.cons_append] at again left
              simp only [Binary64.readExponent?, List.append_assoc, List.cons_append, isMark,
                if_true, signAgain digit _ (all digit (by simp)), again, left]
      · simp [Binary64.readExponent?, isMark] at isRead

theorem splitExponent_front {text rest : Text} {exponent : Option Int}
    (isSplit : splitExponent text = (exponent, rest)) :
    ∃ part, text = part ++ rest ∧ (∀ point ∈ part, isNumberPoint point = true) ∧
      (∀ point ∈ part.head?, point = .char 'e' ∨ point = .char 'E') ∧
      ∀ after, NoDigit after → NoMark after →
        splitExponent (part ++ after) = (exponent, after) := by
  unfold splitExponent at isSplit
  split at isSplit
  · rename_i value rest isRead
    cases isSplit
    obtain ⟨mark, part, rfl, isMark, points, again⟩ := readExponent?_front isRead
    refine ⟨mark :: part, rfl, ?_, ?_, ?_⟩
    · intro point member
      rcases List.mem_cons.mp member with rfl | member
      · rcases isMark with rfl | rfl <;> decide
      · exact points point member
    · intro point same
      cases same
      exact isMark
    · intro after stops _
      rw [splitExponent, again after stops]
  · cases isSplit
    refine ⟨[], rfl, by simp, by simp, ?_⟩
    intro after _ noMark
    exact splitExponent_of_noMark noMark

/-! ## Numbers -/

/-- The sign of a number and the text after it; true for minus. -/
def splitMinus (text : Text) : Bool × Text :=
  match text with
  | .char '-' :: rest => (true, rest)
  | _ => (false, text)

theorem readNumber_eq (text : Text) :
    readNumber text =
      let (negative, body) := splitMinus text
      let (whole, afterWhole) := splitWhole body
      if whole.isEmpty then .error (.malformed .value text.length)
      else
        let (fraction, afterFraction) := splitFraction afterWhole
        let (exponent, rest) := splitExponent afterFraction
        match numberOfParts negative whole fraction exponent with
        | .ok value => .ok (value, rest)
        | .error fault => .error fault :=
  rfl

/-- A number is read in four parts, and its value depends on these only. -/
theorem readNumber_eq_ok_iff (text : Text) (value : Value) (rest : Text) :
    readNumber text = .ok (value, rest) ↔
      ∃ negative body whole afterWhole fraction afterFraction exponent,
        splitMinus text = (negative, body) ∧ splitWhole body = (whole, afterWhole) ∧ whole ≠ [] ∧
        splitFraction afterWhole = (fraction, afterFraction) ∧
        splitExponent afterFraction = (exponent, rest) ∧
        numberOfParts negative whole fraction exponent = .ok value := by
  rw [readNumber_eq]
  rcases splitMinus text with ⟨negative, body⟩
  rcases wholeParts : splitWhole body with ⟨whole, afterWhole⟩
  rcases fractionParts : splitFraction afterWhole with ⟨fraction, afterFraction⟩
  rcases exponentParts : splitExponent afterFraction with ⟨exponent, last⟩
  simp only [wholeParts, fractionParts, exponentParts]
  constructor
  · intro isRead
    split at isRead
    · cases isRead
    · rename_i notEmpty
      split at isRead
      · rename_i number isNumber
        cases isRead
        exact ⟨negative, body, whole, afterWhole, fraction, afterFraction, exponent, rfl,
          wholeParts, by simpa using notEmpty, fractionParts, exponentParts, isNumber⟩
      · cases isRead
  · rintro ⟨_, _, _, _, _, _, _, same, sameWhole, notEmpty, sameFraction, sameExponent, isNumber⟩
    cases same
    rw [wholeParts] at sameWhole
    cases sameWhole
    rw [fractionParts] at sameFraction
    cases sameFraction
    rw [exponentParts] at sameExponent
    cases sameExponent
    rw [if_neg (by simpa using notEmpty), isNumber]

/-- The text starts with a digit, or with a minus and a digit. -/
def StartsNumber (text : Text) : Prop :=
  ∃ digit rest, isAsciiDigit digit = true ∧
    (text = digit :: rest ∨ text = .char '-' :: digit :: rest)

def EndsNumber (text : Text) : Prop :=
  ∀ point ∈ text.head?, isAsciiDigit point = false ∧ point ≠ .char '.' ∧ point ≠ .char 'e' ∧
    point ≠ .char 'E'

theorem splitMinus_front {text body : Text} {negative : Bool}
    (isSplit : splitMinus text = (negative, body)) :
    ∃ sign, text = sign ++ body ∧ (sign = [] ∨ sign = [.char '-']) ∧
      ∀ digit rest, isAsciiDigit digit = true →
        splitMinus (sign ++ digit :: rest) = (negative, digit :: rest) := by
  unfold splitMinus at isSplit
  split at isSplit
  · cases isSplit
    exact ⟨[.char '-'], rfl, .inr rfl, fun _ _ _ => rfl⟩
  · cases isSplit
    refine ⟨[], rfl, .inl rfl, ?_⟩
    intro digit rest isDigit
    rw [List.nil_append]
    unfold splitMinus
    split
    · rename_i same
      rw [(List.cons.inj same).1] at isDigit
      exact absurd isDigit (by decide)
    · rfl

theorem noDigit_append {part after : Text} (partStops : NoDigit part) (stops : NoDigit after) :
    NoDigit (part ++ after) := by
  cases part with
  | nil => exact stops
  | cons point rest => exact partStops

/-- A number is read up to its own end, whatever stands after it that does not continue it. -/
theorem readNumber_front {text rest : Text} {value : Value}
    (isRead : readNumber text = .ok (value, rest)) :
    ∃ part, text = part ++ rest ∧ StartsNumber part ∧
      (∀ point ∈ part, isNumberPoint point = true) ∧
      ∀ after, EndsNumber after → readNumber (part ++ after) = .ok (value, after) := by
  obtain ⟨negative, body, whole, afterWhole, fraction, afterFraction, exponent, isMinus, isWhole,
    notEmpty, isFraction, isExponent, isNumber⟩ := (readNumber_eq_ok_iff ..).mp isRead
  obtain ⟨sign, rfl, isSign, signAgain⟩ := splitMinus_front isMinus
  obtain ⟨rfl, wholeDigits, wholeAgain⟩ := splitWhole_front isWhole
  obtain ⟨fractionPart, rfl, fractionPoints, fractionHead, fractionAgain⟩ :=
    splitFraction_front isFraction
  obtain ⟨exponentPart, rfl, exponentPoints, exponentHead, exponentAgain⟩ :=
    splitExponent_front isExponent
  obtain ⟨digit, digits, rfl⟩ : ∃ digit digits, whole = digit :: digits :=
    List.exists_cons_of_ne_nil notEmpty
  have isDigit : isAsciiDigit digit = true := wholeDigits digit (by simp)
  refine ⟨sign ++ (digit :: digits ++ (fractionPart ++ exponentPart)), by simp, ?_, ?_, ?_⟩
  · rcases isSign with rfl | rfl
    · exact ⟨digit, _, isDigit, .inl rfl⟩
    · exact ⟨digit, _, isDigit, .inr rfl⟩
  · intro point member
    simp only [List.mem_append] at member
    rcases member with member | member | member | member
    · rcases isSign with rfl | rfl
      · cases member
      · cases List.mem_singleton.mp member
        decide
    · exact isNumberPoint_of_isAsciiDigit (wholeDigits point member)
    · exact fractionPoints point member
    · exact exponentPoints point member
  · intro after ends
    have afterStops : NoDigit after := fun point same => (ends point same).1
    have exponentStops : NoDigit (exponentPart ++ after) := by
      refine noDigit_append ?_ afterStops
      intro point same
      rcases exponentHead point same with rfl | rfl <;> decide
    have noPoint : (exponentPart ++ after).head? ≠ some (.char '.') := by
      cases exponentPart with
      | nil => exact fun same => (ends _ same).2.1 rfl
      | cons point others =>
          intro same
          cases same
          rcases exponentHead _ rfl with same | same <;> cases same
    have fractionStops : NoDigit (fractionPart ++ (exponentPart ++ after)) := by
      refine noDigit_append ?_ exponentStops
      intro point same
      rw [fractionHead point same]
      decide
    refine (readNumber_eq_ok_iff ..).mpr ⟨negative, _, digit :: digits, _, fraction, _, exponent,
      ?_, wholeAgain _ fractionStops, by simp, fractionAgain _ exponentStops noPoint,
      exponentAgain after afterStops (fun point same => (ends point same).2.2), isNumber⟩
    simpa only [List.append_assoc, List.cons_append] using
      signAgain digit (digits ++ (fractionPart ++ (exponentPart ++ after))) isDigit

end ChangeImpact.Json
