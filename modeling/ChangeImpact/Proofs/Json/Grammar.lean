import ChangeImpact.Proofs.Json.Number
/-!
# The grammar of JSON text

`Denotes part meaning` says that a stretch of text writes a value, the items of an array or the
members of an object. Blanks, strings, words and numbers are its leaves; for each of them stand here
the facts that tie it to the function that reads it.
-/
set_option autoImplicit false

namespace ChangeImpact.Json

/-! ## Blanks -/

def Blank (text : Text) : Prop :=
  ∀ point ∈ text, isJsonBlank point = true

/-- The text does not go on with a blank. -/
def NoBlank (text : Text) : Prop :=
  ∀ point ∈ text.head?, isJsonBlank point = false

theorem skipBlanks_append {blanks rest : Text} (blank : Blank blanks) (stops : NoBlank rest) :
    skipBlanks (blanks ++ rest) = rest := by
  rw [skipBlanks, List.dropWhile_append_of_pos blank]
  cases rest with
  | nil => rfl
  | cons point rest => simp [stops point rfl]

theorem exists_blanks (text : Text) :
    ∃ blanks, text = blanks ++ skipBlanks text ∧ Blank blanks ∧ NoBlank (skipBlanks text) := by
  induction text with
  | nil => exact ⟨[], rfl, by simp [Blank], by simp [NoBlank, skipBlanks]⟩
  | cons point rest ih =>
      cases blank : isJsonBlank point with
      | true =>
          obtain ⟨blanks, isText, allBlank, stops⟩ := ih
          have skipped : skipBlanks (point :: rest) = skipBlanks rest := by simp [skipBlanks, blank]
          refine ⟨point :: blanks, ?_, ?_, ?_⟩
          · rw [skipped, List.cons_append, ← isText]
          · intro other member
            rcases List.mem_cons.mp member with rfl | member
            · exact blank
            · exact allBlank other member
          · rwa [skipped]
      | false =>
          have kept : skipBlanks (point :: rest) = point :: rest := by simp [skipBlanks, blank]
          refine ⟨[], by rw [kept]; rfl, by simp [Blank], ?_⟩
          rw [kept]
          intro first same
          cases same
          exact blank

theorem exists_blanks_of_skipBlanks {text rest : Text} (skipped : skipBlanks text = rest) :
    ∃ blanks, text = blanks ++ rest ∧ Blank blanks := by
  obtain ⟨blanks, isText, blank, -⟩ := exists_blanks text
  exact ⟨blanks, skipped ▸ isText, blank⟩

/-! ## Strings -/

/-- The text of a string after its opening quote, with the closing one, and the parts that it
writes. -/
inductive StringBody : Text → List Unit16 → Prop
  | close : StringBody [.char '"'] []
  | plain {point : CodePoint} {body : Text} {units : List Unit16} (notQuote : point ≠ .char '"')
      (notBackslash : point ≠ .char '\\') (notControl : 0x20 ≤ point.code)
      (rest : StringBody body units) : StringBody (point :: body) (.plain point :: units)
  | short {mark : CodePoint} {escaped : Char} {body : Text} {units : List Unit16}
      (isShort : escapedChar? mark = some escaped) (rest : StringBody body units) :
      StringBody (.char '\\' :: mark :: body) (.plain escaped :: units)
  | code {a b c d point : CodePoint} {body : Text} {units : List Unit16}
      (isCode : unitOf? a b c d = some point) (rest : StringBody body units) :
      StringBody (.char '\\' :: .char 'u' :: a :: b :: c :: d :: body) (.escaped point :: units)

theorem consUnit_eq_ok_iff (unit : Unit16) (result : Except Fault (List Unit16 × Text))
    (units : List Unit16) (rest : Text) :
    consUnit unit result = .ok (units, rest) ↔
      ∃ others, result = .ok (others, rest) ∧ units = unit :: others := by
  unfold consUnit
  split
  · rename_i others left
    simp only [Except.ok.injEq, Prod.mk.injEq]
    constructor
    · rintro ⟨rfl, rfl⟩
      exact ⟨others, ⟨rfl, rfl⟩, rfl⟩
    · rintro ⟨_, ⟨rfl, rfl⟩, rfl⟩
      exact ⟨rfl, rfl⟩
  · simp

theorem stringBody_of_readUnits {opening : Nat} {text left : Text} {units : List Unit16}
    (isRead : readUnits opening text = .ok (units, left)) :
    ∃ body, text = body ++ left ∧ StringBody body units := by
  fun_induction readUnits opening text generalizing units with
  | case1 => cases isRead
  | case2 rest =>
      cases isRead
      exact ⟨[.char '"'], rfl, .close⟩
  | case3 => cases isRead
  | case4 a b c d next rest point isCode ih =>
      obtain ⟨others, isRest, rfl⟩ := (consUnit_eq_ok_iff ..).mp isRead
      obtain ⟨body, isText, isBody⟩ := ih isRest
      exact ⟨_, by rw [isText]; rfl, .code isCode isBody⟩
  | case5 => cases isRead
  | case6 => cases isRead
  | case7 mark rest _ _ escaped isShort ih =>
      obtain ⟨others, isRest, rfl⟩ := (consUnit_eq_ok_iff ..).mp isRead
      obtain ⟨body, rfl, isBody⟩ := ih isRest
      exact ⟨_, rfl, .short isShort isBody⟩
  | case8 => cases isRead
  | case9 => cases isRead
  | case10 point rest notQuote notAlone _ _ notEscape notControl ih =>
      obtain ⟨others, isRest, rfl⟩ := (consUnit_eq_ok_iff ..).mp isRead
      obtain ⟨body, rfl, isBody⟩ := ih isRest
      have notBackslash : point ≠ .char '\\' := by
        intro same
        cases shape : body ++ left with
        | nil => exact notAlone same shape
        | cons mark rest => exact notEscape mark rest same shape
      exact ⟨_, rfl, .plain notQuote notBackslash (Nat.not_lt.mp notControl) isBody⟩

theorem readUnits_plain (opening : Nat) {point : CodePoint} (rest : Text)
    (notQuote : point ≠ .char '"') (notBackslash : point ≠ .char '\\')
    (notControl : 0x20 ≤ point.code) :
    readUnits opening (point :: rest) = consUnit (.plain point) (readUnits opening rest) := by
  rw [readUnits, if_neg (Nat.not_lt.mpr notControl)]
  · exact notQuote
  · exact fun same _ => notBackslash same
  · exact fun _ _ _ _ _ _ same _ => notBackslash same
  · exact fun _ same _ => notBackslash same
  · exact fun _ _ same _ => notBackslash same

theorem readUnits_short (opening : Nat) {mark : CodePoint} {escaped : Char} (rest : Text)
    (isShort : escapedChar? mark = some escaped) :
    readUnits opening (.char '\\' :: mark :: rest) =
      consUnit (.plain escaped) (readUnits opening rest) := by
  have notCode : mark ≠ .char 'u' := by
    rintro rfl
    cases isShort
  rw [readUnits, isShort]
  · exact fun _ _ _ _ _ _ same _ => notCode same
  · exact notCode

theorem stringBody_ne_nil {body : Text} {units : List Unit16} (isBody : StringBody body units) :
    body ≠ [] := by
  cases isBody <;> simp

theorem readUnits_of_stringBody (opening : Nat) {body : Text} {units : List Unit16}
    (isBody : StringBody body units) (after : Text) :
    readUnits opening (body ++ after) = .ok (units, after) := by
  induction isBody with
  | close => rfl
  | plain notQuote notBackslash notControl _ ih =>
      rw [List.cons_append, readUnits_plain opening _ notQuote notBackslash notControl, ih]
      rfl
  | short isShort _ ih =>
      rw [List.cons_append, List.cons_append, readUnits_short opening _ isShort, ih]
      rfl
  | @code a b c d point body units isCode rest ih =>
      obtain ⟨next, others, rfl⟩ := List.exists_cons_of_ne_nil (stringBody_ne_nil rest)
      have unfolded : readUnits opening
          (.char '\\' :: .char 'u' :: a :: b :: c :: d :: next :: (others ++ after)) =
          consUnit (.escaped point) (readUnits opening (next :: (others ++ after))) := by
        rw [readUnits, isCode]
      rw [List.cons_append] at ih
      simp only [List.cons_append]
      rw [unfolded, ih]
      rfl

/-! ## Words -/

theorem readWord?_append {word : String} {value : Value} (isWord : (word, value) ∈ words)
    (after : Text) : readWord? (Text.ofString word ++ after) = some (value, after) := by
  simp only [words, List.mem_cons, Prod.mk.injEq, List.not_mem_nil, or_false] at isWord
  rcases isWord with ⟨rfl, rfl⟩ | ⟨rfl, rfl⟩ | ⟨rfl, rfl⟩ | ⟨rfl, rfl⟩ | ⟨rfl, rfl⟩ | ⟨rfl, rfl⟩ <;>
    rfl

theorem exists_word_of_readWord? {text rest : Text} {value : Value}
    (isRead : readWord? text = some (value, rest)) :
    ∃ word, (word, value) ∈ words ∧ text = Text.ofString word ++ rest := by
  obtain ⟨⟨word, wordValue⟩, isWord, found⟩ := List.exists_of_findSome?_eq_some isRead
  obtain ⟨left, isAfter, same⟩ := Option.map_eq_some_iff.mp found
  cases same
  refine ⟨word, isWord, ?_⟩
  unfold Text.after? at isAfter
  split at isAfter
  · rename_i isPrefix
    obtain ⟨others, rfl⟩ := List.isPrefixOf_iff_prefix.mp isPrefix
    cases isAfter
    rw [List.drop_left' (by simp [Text.ofString, Text.ofChars, String.length_toList])]
  · cases isAfter

theorem readWord?_eq_none_of_startsNumber {text : Text} (starts : StartsNumber text) :
    readWord? text = none := by
  cases found : readWord? text with
  | none => rfl
  | some pair =>
      obtain ⟨digit, rest, isDigit, starts⟩ := starts
      obtain ⟨word, isWord, rfl⟩ := exists_word_of_readWord? found
      simp only [words, List.mem_cons, Prod.mk.injEq, List.not_mem_nil, or_false] at isWord
      -- No word starts with a digit, and the one that starts with a minus goes on with a letter.
      rcases isWord with ⟨rfl, -⟩ | ⟨rfl, -⟩ | ⟨rfl, -⟩ | ⟨rfl, -⟩ | ⟨rfl, -⟩ | ⟨rfl, -⟩ <;>
        rcases starts with same | same <;> cases same <;> exact absurd isDigit (by decide)

/-! ## Values -/

/-- What a stretch of text may stand for. -/
inductive Meaning where
  | value (value : Value)
  | items (values : List Value)
  | members (pairs : List (Text × Value))

/-- A stretch of JSON text and what it stands for. Items and members are meant without the brackets
around them and with the blanks after each of them. -/
inductive Denotes : Text → Meaning → Prop
  | string {body : Text} {units : List Unit16} (isBody : StringBody body units) :
      Denotes (.char '"' :: body) (.value (.string (joinUnits units)))
  | word {word : String} {value : Value} (isWord : (word, value) ∈ words) :
      Denotes (Text.ofString word) (.value value)
  | number {part : Text} {value : Value} (isNumber : readNumber part = .ok (value, [])) :
      Denotes part (.value value)
  | emptyArray {blanks : Text} (blank : Blank blanks) :
      Denotes (.char '[' :: (blanks ++ [.char ']'])) (.value (.array []))
  | array {blanks inner : Text} {values : List Value} (blank : Blank blanks)
      (items : Denotes inner (.items values)) :
      Denotes (.char '[' :: (blanks ++ inner ++ [.char ']'])) (.value (.array values))
  | emptyObject {blanks : Text} (blank : Blank blanks) :
      Denotes (.char '{' :: (blanks ++ [.char '}'])) (.value (.object []))
  | object {blanks inner : Text} {pairs : List (Text × Value)} (blank : Blank blanks)
      (members : Denotes inner (.members pairs)) :
      Denotes (.char '{' :: (blanks ++ inner ++ [.char '}']))
        (.value (.object (Members.ofPairs pairs)))
  | lastItem {part blanks : Text} {value : Value} (item : Denotes part (.value value))
      (blank : Blank blanks) : Denotes (part ++ blanks) (.items [value])
  | moreItems {part before after rest : Text} {value : Value} {values : List Value}
      (item : Denotes part (.value value)) (blankBefore : Blank before) (blankAfter : Blank after)
      (others : Denotes rest (.items values)) :
      Denotes (part ++ before ++ .char ',' :: (after ++ rest)) (.items (value :: values))
  | lastMember {key beforeColon afterColon part blanks : Text} {units : List Unit16} {value : Value}
      (isKey : StringBody key units) (blankBefore : Blank beforeColon)
        (blankAfter : Blank afterColon)
      (item : Denotes part (.value value)) (blank : Blank blanks) :
      Denotes (.char '"' :: (key ++ beforeColon ++ .char ':' :: (afterColon ++ part ++ blanks)))
        (.members [(joinUnits units, value)])
  | moreMembers {key beforeColon afterColon part before after rest : Text} {units : List Unit16}
      {value : Value} {pairs : List (Text × Value)}
      (isKey : StringBody key units) (blankBefore : Blank beforeColon)
        (blankAfter : Blank afterColon)
      (item : Denotes part (.value value)) (blank : Blank before) (blankNext : Blank after)
      (others : Denotes rest (.members pairs)) :
      Denotes (.char '"' :: (key ++ beforeColon ++ .char ':' :: (afterColon ++ part ++ before ++
        .char ',' :: (after ++ rest)))) (.members ((joinUnits units, value) :: pairs))

end ChangeImpact.Json
