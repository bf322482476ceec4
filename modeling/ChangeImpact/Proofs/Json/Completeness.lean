import ChangeImpact.Proofs.Json.Soundness
/-!
# The reader is complete for the grammar

A stretch that denotes something is read as that, whatever text follows, if only that text cannot
continue a number. An array needs no condition at all, so arrays are read from the front of a text
exactly where the grammar has one.
-/
set_option autoImplicit false

namespace ChangeImpact.Json

/-! ## What may follow a value -/

/-- The text goes on with what may stand after a value inside brackets, or not at all. -/
def Delimits (text : Text) : Prop :=
  ∀ point ∈ text.head?, isJsonBlank point = true ∨ point = .char ',' ∨ point = .char ']' ∨
    point = .char '}'

theorem isJsonBlank_iff (point : CodePoint) :
    isJsonBlank point = true ↔
      point = .char ' ' ∨ point = .char '\t' ∨ point = .char '\n' ∨ point = .char '\r' := by
  simp [isJsonBlank, or_assoc]

theorem endsNumber_of_delimits {text : Text} (delimits : Delimits text) : EndsNumber text := by
  intro point same
  rcases delimits point same with blank | rfl | rfl | rfl
  · rcases (isJsonBlank_iff point).mp blank with rfl | rfl | rfl | rfl <;> decide
  · decide
  · decide
  · decide

theorem delimits_blanks_append {blanks rest : Text} (blank : Blank blanks)
    (delimits : Delimits rest) : Delimits (blanks ++ rest) := by
  cases blanks with
  | nil => exact delimits
  | cons first others =>
      intro point same
      cases same
      exact .inl (blank first (by simp))

theorem delimits_cons (point : CodePoint) (rest : Text)
    (delimits : isJsonBlank point = true ∨ point = .char ',' ∨ point = .char ']' ∨
      point = .char '}') : Delimits (point :: rest) := by
  intro first same
  cases same
  exact delimits

theorem noBlank_cons {point : CodePoint} {rest : Text} (other : isJsonBlank point = false) :
    NoBlank (point :: rest) := by
  intro first same
  cases same
  exact other

/-- A value starts with a quote, an opening bracket or brace, a letter of a word, a minus or a
digit, so neither with a blank nor with a closing bracket or brace. -/
theorem exists_cons_of_denotes_value {part : Text} {value : Value}
    (denotes : Denotes part (.value value)) :
    ∃ point rest, part = point :: rest ∧ isJsonBlank point = false ∧ point ≠ .char ']' ∧
      point ≠ .char '}' := by
  cases denotes with
  | string => exact ⟨_, _, rfl, by decide, by decide, by decide⟩
  | word isWord =>
      simp only [words, List.mem_cons, Prod.mk.injEq, List.not_mem_nil, or_false] at isWord
      rcases isWord with ⟨rfl, -⟩ | ⟨rfl, -⟩ | ⟨rfl, -⟩ | ⟨rfl, -⟩ | ⟨rfl, -⟩ | ⟨rfl, -⟩ <;>
        exact ⟨_, _, rfl, by decide, by decide, by decide⟩
  | number isNumber =>
      obtain ⟨_, same, ⟨digit, rest, isDigit, starts⟩, -, -⟩ := readNumber_front isNumber
      rw [List.append_nil] at same
      subst same
      rcases starts with rfl | rfl
      · refine ⟨_, _, rfl, ?_, ?_, ?_⟩
        · rw [Bool.eq_false_iff]
          intro blank
          rcases (isJsonBlank_iff digit).mp blank with rfl | rfl | rfl | rfl <;>
            exact absurd isDigit (by decide)
        · rintro rfl
          exact absurd isDigit (by decide)
        · rintro rfl
          exact absurd isDigit (by decide)
      · exact ⟨_, _, rfl, by decide, by decide, by decide⟩
  | emptyArray => exact ⟨_, _, rfl, by decide, by decide, by decide⟩
  | array => exact ⟨_, _, rfl, by decide, by decide, by decide⟩
  | emptyObject => exact ⟨_, _, rfl, by decide, by decide, by decide⟩
  | object => exact ⟨_, _, rfl, by decide, by decide, by decide⟩

theorem exists_cons_of_denotes_items {part : Text} {values : List Value}
    (denotes : Denotes part (.items values)) :
    ∃ point rest, part = point :: rest ∧ isJsonBlank point = false ∧ point ≠ .char ']' := by
  cases denotes with
  | lastItem item =>
      obtain ⟨point, rest, rfl, noBlank, notBracket, -⟩ := exists_cons_of_denotes_value item
      exact ⟨point, _, rfl, noBlank, notBracket⟩
  | moreItems item =>
      obtain ⟨point, rest, rfl, noBlank, notBracket, -⟩ := exists_cons_of_denotes_value item
      exact ⟨point, _, rfl, noBlank, notBracket⟩

theorem exists_cons_of_denotes_members {part : Text} {pairs : List (Text × Value)}
    (denotes : Denotes part (.members pairs)) : ∃ rest, part = .char '"' :: rest := by
  cases denotes with
  | lastMember => exact ⟨_, rfl⟩
  | moreMembers => exact ⟨_, rfl⟩

theorem readNumber_ne_array {text rest : Text} {values : List Value} :
    readNumber text ≠ .ok (.array values, rest) := by
  intro isRead
  obtain ⟨negative, _, whole, _, fraction, _, exponent, -, -, -, -, -, isNumber⟩ :=
    (readNumber_eq_ok_iff ..).mp isRead
  unfold numberOfParts at isNumber
  split at isNumber
  · split at isNumber <;> cases isNumber
  · cases isNumber

/-- What has to hold of the text after a stretch, which matters if it is a number. -/
def Meaning.Ends (after : Text) : Meaning → Prop
  | .value (.array _) => True
  | .value _ => Delimits after
  | .items _ => True
  | .members _ => True

theorem ends_of_delimits {after : Text} (delimits : Delimits after) (meaning : Meaning) :
    meaning.Ends after := by
  cases meaning with
  | value value => cases value <;> first | exact delimits | trivial
  | items values => trivial
  | members pairs => trivial

theorem readValue_of_number (depth : Nat) {part after : Text} {value : Value}
    (isNumber : readNumber part = .ok (value, [])) (ends : (Meaning.value value).Ends after) :
    readValue (depth + 1) (part ++ after) = .ok (value, after) := by
  obtain ⟨_, same, starts, -, again⟩ := readNumber_front isNumber
  rw [List.append_nil] at same
  subst same
  have delimits : Delimits after := by
    cases value <;> first | exact ends | exact absurd isNumber readNumber_ne_array
  have startsAfter : StartsNumber (part ++ after) := by
    obtain ⟨digit, rest, isDigit, rfl | rfl⟩ := starts
    · exact ⟨digit, rest ++ after, isDigit, .inl rfl⟩
    · exact ⟨digit, rest ++ after, isDigit, .inr rfl⟩
  rw [readValue_other, readWord?_eq_none_of_startsNumber startsAfter]
  · exact again after (endsNumber_of_delimits delimits)
  · intro point same
    obtain ⟨digit, rest, isDigit, shape | shape⟩ := startsAfter
    · rw [shape] at same
      cases same
      refine ⟨?_, ?_, ?_⟩ <;> rintro rfl <;> exact absurd isDigit (by decide)
    · rw [shape] at same
      cases same
      decide

theorem readValue_of_word (depth : Nat) {word : String} {value : Value} (after : Text)
    (isWord : (word, value) ∈ words) :
    readValue (depth + 1) (Text.ofString word ++ after) = .ok (value, after) := by
  rw [readValue_other, readWord?_append isWord]
  simp only [words, List.mem_cons, Prod.mk.injEq, List.not_mem_nil, or_false] at isWord
  intro point same
  rcases isWord with ⟨rfl, -⟩ | ⟨rfl, -⟩ | ⟨rfl, -⟩ | ⟨rfl, -⟩ | ⟨rfl, -⟩ | ⟨rfl, -⟩ <;>
    cases same <;> decide

theorem readString_of_stringBody {body : Text} {units : List Unit16}
    (isBody : StringBody body units) (after : Text) :
    readString (body ++ after) = .ok (joinUnits units, after) := by
  rw [readString, readUnits_of_stringBody _ isBody]

/-- How much deeper a value is read than twice its length, less than which are the items and members
inside it. -/
def Meaning.slack : Meaning → Nat
  | .value _ => 1
  | .items _ => 0
  | .members _ => 0

theorem readArray_of_items {depth : Nat} {blanks inner after : Text} {values : List Value}
    (blank : Blank blanks) (denotes : Denotes inner (.items values))
    (isRead : readItems depth (inner ++ .char ']' :: after) = .ok (values, after)) :
    readValue (depth + 1) (.char '[' :: (blanks ++ (inner ++ .char ']' :: after))) =
      .ok (.array values, after) := by
  obtain ⟨point, rest, rfl, noBlank, notBracket⟩ := exists_cons_of_denotes_items denotes
  rw [List.cons_append] at isRead ⊢
  rw [readValue_bracket, skipBlanks_append blank (noBlank_cons noBlank)]
  split
  · rename_i shape
    exact absurd (List.cons.inj shape).1 notBracket
  · rw [isRead]

theorem readObject_of_members {depth : Nat} {blanks inner after : Text}
    {pairs : List (Text × Value)} (blank : Blank blanks) (denotes : Denotes inner (.members pairs))
    (isRead : readMembers depth (inner ++ .char '}' :: after) = .ok (pairs, after)) :
    readValue (depth + 1) (.char '{' :: (blanks ++ (inner ++ .char '}' :: after))) =
      .ok (.object (Members.ofPairs pairs), after) := by
  obtain ⟨rest, rfl⟩ := exists_cons_of_denotes_members denotes
  rw [List.cons_append] at isRead ⊢
  rw [readValue_brace, skipBlanks_append blank (noBlank_cons (by decide))]
  split
  · rename_i shape
    cases shape
  · rw [isRead]

theorem readMembers_of_member {depth : Nat} {key beforeColon afterColon part rest : Text}
    {units : List Unit16} {value : Value} (isKey : StringBody key units)
    (blankBefore : Blank beforeColon) (blankAfter : Blank afterColon)
    (item : Denotes part (.value value))
    (isRead : readValue depth (part ++ rest) = .ok (value, rest)) :
    readMembers (depth + 1)
        (.char '"' :: (key ++ (beforeColon ++ .char ':' :: (afterColon ++ (part ++ rest))))) =
      readAfterMember depth (joinUnits units, value) rest := by
  obtain ⟨point, others, rfl, noBlank, -, -⟩ := exists_cons_of_denotes_value item
  rw [readMembers_quote, readString_of_stringBody isKey]
  have colon : isJsonBlank (.char ':') = false := by decide
  simp only [skipBlanks_append blankBefore (noBlank_cons colon), List.cons_append,
    skipBlanks_append blankAfter (noBlank_cons noBlank)]
  rw [List.cons_append] at isRead
  simp only [isRead]

theorem length_pos_of_denotes_value {part : Text} {value : Value}
    (denotes : Denotes part (.value value)) : 0 < part.length := by
  obtain ⟨point, rest, rfl, -⟩ := exists_cons_of_denotes_value denotes
  exact Nat.succ_pos _

theorem readsAs_of_denotes {part : Text} {meaning : Meaning} (denotes : Denotes part meaning)
    (depth : Nat) (after : Text) (enough : 2 * part.length ≤ depth + meaning.slack)
    (ends : meaning.Ends after) :
    ReadsAs depth (part ++ (meaning.closing ++ after)) after meaning := by
  -- Two steps for each point are enough: one to read an item, and one to go on after it.
  induction denotes generalizing depth after with
  | string isBody =>
      simp only [List.length_cons, Meaning.slack] at enough
      obtain ⟨depth, rfl⟩ := Nat.exists_eq_add_one_of_ne_zero (show depth ≠ 0 by omega)
      simp only [ReadsAs, Meaning.closing, List.nil_append, List.cons_append]
      rw [readValue_quote, readString_of_stringBody isBody]
  | word isWord =>
      have positive := length_pos_of_denotes_value (.word isWord)
      simp only [Meaning.slack] at enough
      obtain ⟨depth, rfl⟩ := Nat.exists_eq_add_one_of_ne_zero (show depth ≠ 0 by omega)
      exact readValue_of_word depth after isWord
  | number isNumber =>
      have positive := length_pos_of_denotes_value (.number isNumber)
      simp only [Meaning.slack] at enough
      obtain ⟨depth, rfl⟩ := Nat.exists_eq_add_one_of_ne_zero (show depth ≠ 0 by omega)
      exact readValue_of_number depth isNumber ends
  | emptyArray blank =>
      simp only [List.length_cons, List.length_append, Meaning.slack] at enough
      obtain ⟨depth, rfl⟩ := Nat.exists_eq_add_one_of_ne_zero (show depth ≠ 0 by omega)
      simp only [ReadsAs, Meaning.closing, List.nil_append, List.cons_append, List.append_assoc]
      rw [readValue_bracket, skipBlanks_append blank (noBlank_cons (by decide))]
      rfl
  | array blank items ih =>
      simp only [List.length_cons, List.length_append, Meaning.slack] at enough ih
      obtain ⟨depth, rfl⟩ := Nat.exists_eq_add_one_of_ne_zero (show depth ≠ 0 by omega)
      have isRead := ih depth after (by omega) trivial
      simp only [ReadsAs, Meaning.closing, List.nil_append, List.cons_append, List.append_assoc]
        at isRead ⊢
      exact readArray_of_items blank items isRead
  | emptyObject blank =>
      simp only [List.length_cons, List.length_append, Meaning.slack] at enough
      obtain ⟨depth, rfl⟩ := Nat.exists_eq_add_one_of_ne_zero (show depth ≠ 0 by omega)
      simp only [ReadsAs, Meaning.closing, List.nil_append, List.cons_append, List.append_assoc]
      rw [readValue_brace, skipBlanks_append blank (noBlank_cons (by decide))]
      rfl
  | object blank members ih =>
      simp only [List.length_cons, List.length_append, Meaning.slack] at enough ih
      obtain ⟨depth, rfl⟩ := Nat.exists_eq_add_one_of_ne_zero (show depth ≠ 0 by omega)
      have isRead := ih depth after (by omega) trivial
      simp only [ReadsAs, Meaning.closing, List.nil_append, List.cons_append, List.append_assoc]
        at isRead ⊢
      exact readObject_of_members blank members isRead
  | lastItem item blank ih =>
      have positive := length_pos_of_denotes_value item
      simp only [List.length_append, Meaning.slack] at enough ih
      obtain ⟨depth, rfl⟩ := Nat.exists_eq_add_one_of_ne_zero (show depth ≠ 0 by omega)
      have isRead := ih depth _ (by omega)
        (ends_of_delimits
          (delimits_blanks_append blank (delimits_cons (.char ']') after (by decide))) _)
      simp only [ReadsAs, Meaning.closing, List.nil_append, List.cons_append, List.append_assoc]
        at isRead ⊢
      rw [readItems_succ, isRead]
      have bracket : isJsonBlank (.char ']') = false := by decide
      simp only [skipBlanks_append blank (noBlank_cons bracket)]
  | moreItems item blankBefore blankAfter others ihItem ihOthers =>
      obtain ⟨point, rest, rfl, noBlank, -⟩ := exists_cons_of_denotes_items others
      simp only [List.length_append, List.length_cons, Meaning.slack] at enough ihItem ihOthers
      obtain ⟨depth, rfl⟩ := Nat.exists_eq_add_one_of_ne_zero (show depth ≠ 0 by omega)
      have isRead (rest : Text) := ihItem depth _ (by omega)
        (ends_of_delimits
          (delimits_blanks_append blankBefore (delimits_cons (.char ',') rest (by decide))) _)
      have isReadOthers := ihOthers depth after (by omega) trivial
      simp only [ReadsAs, Meaning.closing, List.nil_append, List.cons_append, List.append_assoc]
        at isRead isReadOthers ⊢
      rw [readItems_succ, isRead]
      have comma : isJsonBlank (.char ',') = false := by decide
      simp only [skipBlanks_append blankBefore (noBlank_cons comma),
        skipBlanks_append blankAfter (noBlank_cons noBlank), isReadOthers]
  | lastMember isKey blankBefore blankAfter item blank ih =>
      simp only [List.length_append, List.length_cons, Meaning.slack] at enough ih
      obtain ⟨depth, rfl⟩ := Nat.exists_eq_add_one_of_ne_zero (show depth ≠ 0 by omega)
      have isRead := ih depth _ (by omega)
        (ends_of_delimits
          (delimits_blanks_append blank (delimits_cons (.char '}') after (by decide))) _)
      simp only [ReadsAs, Meaning.closing, List.nil_append, List.cons_append, List.append_assoc]
        at isRead ⊢
      rw [readMembers_of_member isKey blankBefore blankAfter item isRead, readAfterMember,
        skipBlanks_append blank (noBlank_cons (by decide))]
      rfl
  | moreMembers isKey blankBefore blankAfter item blank blankNext others ihItem ihOthers =>
      obtain ⟨rest, rfl⟩ := exists_cons_of_denotes_members others
      simp only [List.length_append, List.length_cons, Meaning.slack] at enough ihItem ihOthers
      obtain ⟨depth, rfl⟩ := Nat.exists_eq_add_one_of_ne_zero (show depth ≠ 0 by omega)
      have isRead (rest : Text) := ihItem depth _ (by omega)
        (ends_of_delimits
          (delimits_blanks_append blank (delimits_cons (.char ',') rest (by decide))) _)
      have isReadOthers := ihOthers depth after (by omega) trivial
      simp only [ReadsAs, Meaning.closing, List.nil_append, List.cons_append, List.append_assoc]
        at isRead isReadOthers ⊢
      rw [readMembers_of_member isKey blankBefore blankAfter item (isRead _), readAfterMember,
        skipBlanks_append blank (noBlank_cons (by decide))]
      have quote : isJsonBlank (.char '"') = false := by decide
      simp only [skipBlanks_append blankNext (noBlank_cons quote), isReadOthers]

/-! ## Arrays -/

/-- A stretch that starts with a bracket and denotes a value is an array: blanks, and items if it
has any, up to its own bracket. -/
theorem exists_array_of_denotes {part : Text} {value : Value} {rest : Text}
    (denotes : Denotes part (.value value)) (starts : part = .char '[' :: rest) :
    ∃ values blanks inner, value = .array values ∧ Blank blanks ∧
      part = .char '[' :: (blanks ++ inner ++ [.char ']']) ∧
      (inner = [] ∨ Denotes inner (.items values)) := by
  cases denotes with
  | string => cases starts
  | word isWord =>
      simp only [words, List.mem_cons, Prod.mk.injEq, List.not_mem_nil, or_false] at isWord
      rcases isWord with ⟨rfl, -⟩ | ⟨rfl, -⟩ | ⟨rfl, -⟩ | ⟨rfl, -⟩ | ⟨rfl, -⟩ | ⟨rfl, -⟩ <;>
        cases starts
  | number isNumber =>
      obtain ⟨_, same, ⟨digit, others, isDigit, shape⟩, -, -⟩ := readNumber_front isNumber
      rw [List.append_nil] at same
      rw [← same, starts] at shape
      rcases shape with shape | shape
      · rw [← (List.cons.inj shape).1] at isDigit
        exact absurd isDigit (by decide)
      · cases shape
  | emptyArray blank => exact ⟨_, _, [], rfl, blank, by rw [List.append_nil], .inl rfl⟩
  | array blank items => exact ⟨_, _, _, rfl, blank, rfl, .inr items⟩
  | emptyObject => cases starts
  | object => cases starts

theorem readFront_of_denotes_array {part : Text} {values : List Value}
    (denotes : Denotes part (.value (.array values))) (after : Text) :
    readFront (part ++ after) = .ok (.array values, after) := by
  refine readsAs_of_denotes denotes _ after ?_ trivial
  simp only [List.length_append, Meaning.slack]
  omega

theorem denotes_of_readFront {text rest : Text} {value : Value}
    (isRead : readFront text = .ok (value, rest)) :
    ∃ part, text = part ++ rest ∧ Denotes part (.value value) :=
  soundWithin _ text rest (.value value) isRead

theorem read_bracket (rest : Text) :
    read (.char '[' :: rest) =
      match readFront (.char '[' :: rest) with
      | .error fault => .error (fault.locate (.char '[' :: rest))
      | .ok (value, left) =>
          match skipBlanks left with
          | [] => .ok value
          | left => .error ((Fault.malformed .extraData left.length).locate (.char '[' :: rest)) :=
  rfl

/-- A text that starts with a bracket is read exactly if it is an array and blanks. -/
theorem read_bracket_eq_ok_iff (rest : Text) (value : Value) :
    read (.char '[' :: rest) = .ok value ↔
      ∃ part blanks values, .char '[' :: rest = part ++ blanks ∧ Blank blanks ∧
        value = .array values ∧ Denotes part (.value (.array values)) := by
  rw [read_bracket]
  constructor
  · intro isRead
    split at isRead
    · cases isRead
    · rename_i found left isFront
      obtain ⟨part, isText, denotes⟩ := denotes_of_readFront isFront
      obtain ⟨point, others, rfl, -⟩ := exists_cons_of_denotes_value denotes
      have sameFirst := (List.cons.inj isText).1
      subst sameFirst
      obtain ⟨values, -, -, rfl, -⟩ := exists_array_of_denotes denotes rfl
      split at isRead
      · rename_i skipped
        cases isRead
        obtain ⟨blanks, isLeft, blank⟩ := exists_blanks_of_skipBlanks skipped
        rw [List.append_nil] at isLeft
        exact ⟨_, left, values, isText, isLeft ▸ blank, rfl, denotes⟩
      · cases isRead
  · rintro ⟨part, blanks, values, isText, blank, rfl, denotes⟩
    have skipped : skipBlanks blanks = [] := by
      have appended := skipBlanks_append blank (show NoBlank [] by simp [NoBlank])
      rwa [List.append_nil] at appended
    rw [isText, readFront_of_denotes_array denotes blanks]
    simp only [skipped]

end ChangeImpact.Json
