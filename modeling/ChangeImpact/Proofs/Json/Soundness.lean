import ChangeImpact.Proofs.Json.Grammar
/-!
# The reader is sound for the grammar

What the reader takes from the front of a text denotes what it returns.
-/
set_option autoImplicit false

namespace ChangeImpact.Json

/-! ## The reader's equations -/

theorem readValue_quote (depth : Nat) (rest : Text) :
    readValue (depth + 1) (.char '"' :: rest) =
      match readString rest with
      | .ok (text, rest) => .ok (.string text, rest)
      | .error fault => .error fault :=
  rfl

theorem readValue_bracket (depth : Nat) (rest : Text) :
    readValue (depth + 1) (.char '[' :: rest) =
      match skipBlanks rest with
      | .char ']' :: rest => .ok (.array [], rest)
      | rest =>
          match readItems depth rest with
          | .ok (items, rest) => .ok (.array items, rest)
          | .error fault => .error fault :=
  rfl

theorem readValue_brace (depth : Nat) (rest : Text) :
    readValue (depth + 1) (.char '{' :: rest) =
      match skipBlanks rest with
      | .char '}' :: rest => .ok (.object [], rest)
      | rest =>
          match readMembers depth rest with
          | .ok (pairs, rest) => .ok (.object (Members.ofPairs pairs), rest)
          | .error fault => .error fault :=
  rfl

theorem readValue_other (depth : Nat) {text : Text}
    (other : ∀ point ∈ text.head?, point ≠ .char '"' ∧ point ≠ .char '[' ∧ point ≠ .char '{') :
    readValue (depth + 1) text =
      match readWord? text with
      | some result => .ok result
      | none => readNumber text := by
  unfold readValue
  split
  · exact absurd rfl (other _ rfl).1
  · exact absurd rfl (other _ rfl).2.1
  · exact absurd rfl (other _ rfl).2.2
  · rfl

theorem readItems_succ (depth : Nat) (text : Text) :
    readItems (depth + 1) text =
      match readValue depth text with
      | .error fault => .error fault
      | .ok (value, rest) =>
          match skipBlanks rest with
          | .char ']' :: rest => .ok ([value], rest)
          | .char ',' :: rest =>
              match readItems depth (skipBlanks rest) with
              | .ok (values, rest) => .ok (value :: values, rest)
              | .error fault => .error fault
          | rest => .error (.malformed .comma rest.length) :=
  rfl

/-- Reads on after a member, which a brace ends or a comma and other members follow. -/
def readAfterMember (depth : Nat) (member : Text × Value) (rest : Text) :
    Except Fault (List (Text × Value) × Text) :=
  match skipBlanks rest with
  | .char '}' :: rest => .ok ([member], rest)
  | .char ',' :: rest =>
      match readMembers depth (skipBlanks rest) with
      | .ok (pairs, rest) => .ok (member :: pairs, rest)
      | .error fault => .error fault
  | rest => .error (.malformed .comma rest.length)

theorem readMembers_quote (depth : Nat) (rest : Text) :
    readMembers (depth + 1) (.char '"' :: rest) =
      match readString rest with
      | .error fault => .error fault
      | .ok (key, rest) =>
          match skipBlanks rest with
          | .char ':' :: rest =>
              match readValue depth (skipBlanks rest) with
              | .error fault => .error fault
              | .ok (value, rest) => readAfterMember depth (key, value) rest
          | rest => .error (.malformed .colon rest.length) :=
  rfl

theorem exists_quote_of_readMembers {depth : Nat} {text rest : Text}
    {pairs : List (Text × Value)} (isRead : readMembers depth text = .ok (pairs, rest)) :
    ∃ inner body, depth = inner + 1 ∧ text = .char '"' :: body := by
  cases depth with
  | zero => cases isRead
  | succ inner =>
      unfold readMembers at isRead
      split at isRead
      · exact ⟨inner, _, rfl, rfl⟩
      · cases isRead

/-! ## The reader is sound -/

/-- The reading of a meaning from the front of a text, in at most `depth` readings inside each
other. -/
def ReadsAs (depth : Nat) (text : Text) (rest : Text) : Meaning → Prop
  | .value value => readValue depth text = .ok (value, rest)
  | .items values => readItems depth text = .ok (values, rest)
  | .members pairs => readMembers depth text = .ok (pairs, rest)

/-- What a reading takes after the stretch of a meaning: the bracket that closes items or
members. -/
def Meaning.closing : Meaning → Text
  | .value _ => []
  | .items _ => [.char ']']
  | .members _ => [.char '}']

theorem exists_stringBody_of_readString {text rest key : Text}
    (isRead : readString text = .ok (key, rest)) :
    ∃ body units, text = body ++ rest ∧ StringBody body units ∧ key = joinUnits units := by
  unfold readString at isRead
  split at isRead
  · rename_i units left isUnits
    cases isRead
    obtain ⟨body, isText, isBody⟩ := stringBody_of_readUnits isUnits
    exact ⟨body, units, isText, isBody, rfl⟩
  · cases isRead

/-- Every reading in at most `depth` readings inside each other takes a stretch that denotes what it
returns. -/
def SoundWithin (depth : Nat) : Prop :=
  ∀ text rest meaning, ReadsAs depth text rest meaning →
    ∃ part, text = part ++ (meaning.closing ++ rest) ∧ Denotes part meaning

theorem denotes_of_readArray {depth : Nat} {body rest : Text} {value : Value}
    (sound : SoundWithin depth)
    (isRead : readValue (depth + 1) (.char '[' :: body) = .ok (value, rest)) :
    ∃ part, .char '[' :: body = part ++ rest ∧ Denotes part (.value value) := by
  rw [readValue_bracket] at isRead
  split at isRead
  · rename_i left skipped
    cases isRead
    obtain ⟨blanks, rfl, blank⟩ := exists_blanks_of_skipBlanks skipped
    exact ⟨_, by simp, .emptyArray blank⟩
  · split at isRead
    · rename_i values left isItems
      cases isRead
      obtain ⟨blanks, isBody, blank, -⟩ := exists_blanks body
      obtain ⟨inner, isInner, items⟩ := sound _ _ (.items values) isItems
      rw [isInner] at isBody
      exact ⟨_, by rw [isBody]; simp [Meaning.closing], .array blank items⟩
    · cases isRead

theorem denotes_of_readObject {depth : Nat} {body rest : Text} {value : Value}
    (sound : SoundWithin depth)
    (isRead : readValue (depth + 1) (.char '{' :: body) = .ok (value, rest)) :
    ∃ part, .char '{' :: body = part ++ rest ∧ Denotes part (.value value) := by
  rw [readValue_brace] at isRead
  split at isRead
  · rename_i left skipped
    cases isRead
    obtain ⟨blanks, rfl, blank⟩ := exists_blanks_of_skipBlanks skipped
    exact ⟨_, by simp, .emptyObject blank⟩
  · split at isRead
    · rename_i pairs left isMembers
      cases isRead
      obtain ⟨blanks, isBody, blank, -⟩ := exists_blanks body
      obtain ⟨inner, isInner, members⟩ := sound _ _ (.members pairs) isMembers
      rw [isInner] at isBody
      exact ⟨_, by rw [isBody]; simp [Meaning.closing], .object blank members⟩
    · cases isRead

theorem denotes_of_readScalar {depth : Nat} {text rest : Text} {value : Value}
    (other : ∀ point ∈ text.head?, point ≠ .char '"' ∧ point ≠ .char '[' ∧ point ≠ .char '{')
    (isRead : readValue (depth + 1) text = .ok (value, rest)) :
    ∃ part, text = part ++ rest ∧ Denotes part (.value value) := by
  rw [readValue_other depth other] at isRead
  split at isRead
  · rename_i result isWord
    cases isRead
    obtain ⟨word, isMember, rfl⟩ := exists_word_of_readWord? isWord
    exact ⟨_, rfl, .word isMember⟩
  · obtain ⟨part, rfl, -, -, again⟩ := readNumber_front isRead
    have alone := again [] (by simp [EndsNumber])
    rw [List.append_nil] at alone
    exact ⟨part, rfl, .number alone⟩

theorem denotes_of_readValue {depth : Nat} {text rest : Text} {value : Value}
    (sound : SoundWithin depth) (isRead : readValue (depth + 1) text = .ok (value, rest)) :
    ∃ part, text = part ++ rest ∧ Denotes part (.value value) := by
  cases text with
  | nil => exact denotes_of_readScalar (by simp) isRead
  | cons point body =>
      by_cases quote : point = .char '"'
      · subst quote
        rw [readValue_quote] at isRead
        split at isRead
        · rename_i string left isString
          cases isRead
          obtain ⟨part, units, rfl, isBody, rfl⟩ := exists_stringBody_of_readString isString
          exact ⟨_, rfl, .string isBody⟩
        · cases isRead
      by_cases bracket : point = .char '['
      · subst bracket
        exact denotes_of_readArray sound isRead
      by_cases brace : point = .char '{'
      · subst brace
        exact denotes_of_readObject sound isRead
      refine denotes_of_readScalar ?_ isRead
      intro first same
      cases same
      exact ⟨quote, bracket, brace⟩

theorem denotes_of_readItems {depth : Nat} {text rest : Text} {values : List Value}
    (sound : SoundWithin depth) (isRead : readItems (depth + 1) text = .ok (values, rest)) :
    ∃ part, text = part ++ (.char ']' :: rest) ∧ Denotes part (.items values) := by
  rw [readItems_succ] at isRead
  split at isRead
  · cases isRead
  · rename_i value afterValue isValue
    obtain ⟨part, isText, item⟩ := sound _ _ (.value value) isValue
    split at isRead
    · rename_i left skipped
      cases isRead
      obtain ⟨blanks, rfl, blank⟩ := exists_blanks_of_skipBlanks skipped
      exact ⟨_, by rw [isText]; simp [Meaning.closing], .lastItem item blank⟩
    · rename_i left skipped
      obtain ⟨before, rfl, blankBefore⟩ := exists_blanks_of_skipBlanks skipped
      split at isRead
      · rename_i others last isOthers
        cases isRead
        obtain ⟨after, isLeft, blankAfter, -⟩ := exists_blanks left
        obtain ⟨inner, isInner, items⟩ := sound _ _ (.items others) isOthers
        rw [isInner] at isLeft
        exact ⟨_, by rw [isText, isLeft]; simp [Meaning.closing],
          .moreItems item blankBefore blankAfter items⟩
      · cases isRead
    · cases isRead

theorem denotes_of_readMembers {depth : Nat} {text rest : Text} {pairs : List (Text × Value)}
    (sound : SoundWithin depth) (isRead : readMembers (depth + 1) text = .ok (pairs, rest)) :
    ∃ part, text = part ++ (.char '}' :: rest) ∧ Denotes part (.members pairs) := by
  obtain ⟨_, body, -, rfl⟩ := exists_quote_of_readMembers isRead
  rw [readMembers_quote] at isRead
  split at isRead
  · cases isRead
  · rename_i key afterKey isString
    obtain ⟨keyBody, units, rfl, isKey, rfl⟩ := exists_stringBody_of_readString isString
    split at isRead
    · rename_i afterColon skippedKey
      obtain ⟨beforeColon, rfl, blankBefore⟩ := exists_blanks_of_skipBlanks skippedKey
      split at isRead
      · cases isRead
      · rename_i value afterValue isValue
        obtain ⟨colonBlanks, isAfterColon, blankAfter, -⟩ := exists_blanks afterColon
        obtain ⟨part, isPart, item⟩ := sound _ _ (.value value) isValue
        rw [isPart] at isAfterColon
        unfold readAfterMember at isRead
        split at isRead
        · rename_i left skipped
          cases isRead
          obtain ⟨blanks, rfl, blank⟩ := exists_blanks_of_skipBlanks skipped
          exact ⟨_, by rw [isAfterColon]; simp [Meaning.closing],
            .lastMember isKey blankBefore blankAfter item blank⟩
        · rename_i left skipped
          obtain ⟨before, rfl, blank⟩ := exists_blanks_of_skipBlanks skipped
          split at isRead
          · rename_i others last isOthers
            cases isRead
            obtain ⟨after, isLeft, blankNext, -⟩ := exists_blanks left
            obtain ⟨inner, isInner, members⟩ := sound _ _ (.members others) isOthers
            rw [isInner] at isLeft
            exact ⟨_, by rw [isAfterColon, isLeft]; simp [Meaning.closing],
              .moreMembers isKey blankBefore blankAfter item blank blankNext members⟩
          · cases isRead
        · cases isRead
    · cases isRead

/-- What the reader takes denotes what it returns. -/
theorem soundWithin (depth : Nat) : SoundWithin depth := by
  induction depth with
  | zero =>
      intro text rest meaning isRead
      cases meaning <;> cases isRead
  | succ depth ih =>
      intro text rest meaning isRead
      cases meaning with
      | value value => exact denotes_of_readValue ih isRead
      | items values => exact denotes_of_readItems ih isRead
      | members pairs => exact denotes_of_readMembers ih isRead

end ChangeImpact.Json
