import ChangeImpact.Json.Writer
import ChangeImpact.Proofs.Json.Written
/-!
# The writer writes JSON text

What `writeString` and `writeMembers` give is among the texts that a writer may write, whether or
not characters beyond ASCII are escaped.
-/
set_option autoImplicit false

namespace ChangeImpact.Json

theorem hexValue?_digitChar :
    ∀ digit < 16, Text.hexValue? (.char digit.digitChar) = some digit := by
  decide

theorem hexDigits_succ {width : Nat} (positive : 0 < width) (number : Nat) :
    Text.hexDigits (width + 1) number =
      Text.hexDigits width (number / 16) ++ [(number % 16).digitChar] := by
  unfold Text.hexDigits
  dsimp only
  by_cases small : number < 16
  · have zeros : List.replicate (width - 1) '0' ++ ['0'] = List.replicate width '0' := by
      rw [← List.replicate_succ', Nat.sub_add_cancel positive]
    rw [Nat.toDigits_of_lt_base small, Nat.div_eq_of_lt small, Nat.mod_eq_of_lt small,
      Nat.toDigits_zero]
    simp only [List.length_singleton, Nat.add_sub_cancel, zeros]
  · rw [Nat.toDigits_of_base_le (by decide) (Nat.not_lt.mp small), List.length_append,
      List.length_singleton, Nat.add_sub_add_right, List.append_assoc]

theorem hexDigits_four {number : Nat} (small : number < 0x10000) :
    Text.hexDigits 4 number =
      [(number / 16 / 16 / 16).digitChar, (number / 16 / 16 % 16).digitChar,
        (number / 16 % 16).digitChar, (number % 16).digitChar] := by
  have first : number / 16 / 16 / 16 < 16 := by omega
  have single : Text.hexDigits 1 (number / 16 / 16 / 16) = [(number / 16 / 16 / 16).digitChar] := by
    rw [Text.hexDigits, Nat.toDigits_of_lt_base first]
    rfl
  rw [hexDigits_succ (by decide), hexDigits_succ (by decide), hexDigits_succ (by decide), single]
  rfl

theorem writesUnit_hexDigits {number : Nat} (small : number < 0x10000) :
    WritesUnit number (Text.hexDigits 4 number) := by
  have isHex (digit : Nat) (less : digit < 16) := hexValue?_digitChar digit less
  refine ⟨_, _, _, _, _, _, _, _, hexDigits_four small, isHex _ (by omega), isHex _ (by omega),
    isHex _ (by omega), isHex _ (by omega), by omega⟩

theorem writesChar_pointEscape (c : Char) : WritesChar c (pointEscape c.toNat) := by
  have bound := toNat_lt c
  unfold pointEscape
  split
  · rename_i small
    exact .unit (writesUnit_hexDigits small)
  · rename_i large
    exact .pair (Nat.not_lt.mp large) (writesUnit_hexDigits (by omega))
      (writesUnit_hexDigits (by omega))

theorem writesChar_writePoint (asciiOnly : Bool) (c : Char) :
    WritesChar c (writePoint asciiOnly (.char c)) := by
  by_cases isShort : c = '"' ∨ c = '\\' ∨ c = '\n' ∨ c = '\r' ∨ c = '\t'
  · rcases isShort with rfl | rfl | rfl | rfl | rfl
    · exact .short (by simp [shortEscapes])
    · exact .short (by simp [shortEscapes])
    · exact .short (by simp [shortEscapes])
    · exact .short (by simp [shortEscapes])
    · exact .short (by simp [shortEscapes])
  · simp only [not_or] at isShort
    obtain ⟨notQuote, notBackslash, notFeed, notReturn, notTab⟩ := isShort
    rw [writePoint, if_neg notQuote, if_neg notBackslash, if_neg notFeed, if_neg notReturn,
      if_neg notTab]
    split
    · exact writesChar_pointEscape c
    · rename_i notEscaped
      simp only [Bool.or_eq_true, decide_eq_true_eq, not_or] at notEscaped
      exact .plain notQuote notBackslash (Nat.not_lt.mp notEscaped.1)

theorem writesString_writeString (asciiOnly : Bool) (chars : List Char) :
    WritesString chars (writeString asciiOnly (Text.ofChars chars)) := by
  refine ⟨(Text.ofChars chars).flatMap (writePoint asciiOnly), ?_, rfl⟩
  induction chars with
  | nil => exact .nil
  | cons c rest ih =>
      rw [Text.ofChars, List.map_cons, List.flatMap_cons]
      exact .cons (writesChar_writePoint asciiOnly c) ih

theorem writesScalar_string (asciiOnly : Bool) (chars : List Char) :
    WritesScalar (.string (Text.ofChars chars))
      (writeValue asciiOnly (.string (Text.ofChars chars))) :=
  .string (writesString_writeString asciiOnly chars)

theorem writesScalar_number (asciiOnly : Bool) (number : Nat) :
    WritesScalar (.int number) (writeValue asciiOnly (.int number)) := by
  have digits : writeValue asciiOnly (.int number) = Nat.toDigits 10 number := Nat.toList_repr
  rw [digits]
  exact .number number

theorem writesScalar_null (asciiOnly : Bool) : WritesScalar .null (writeValue asciiOnly .null) :=
  .null

theorem writesBlanks_nil : WritesBlanks [] := by
  simp [WritesBlanks]

/-- A member that `writeMembers` writes as a writer may: its key has characters, and its value is
null, such text or a number that is not negative. -/
def PlainMember (asciiOnly : Bool) (member : Text × Value) : Prop :=
  (∃ key, member.1 = Text.ofChars key) ∧ WritesScalar member.2 (writeValue asciiOnly member.2)

theorem writesMember_of_plain {asciiOnly : Bool} {member : Text × Value}
    (isPlain : PlainMember asciiOnly member) :
    WritesMember member
      (writeString asciiOnly member.1 ++ ':' :: writeValue asciiOnly member.2) := by
  obtain ⟨name, value⟩ := member
  obtain ⟨⟨key, rfl⟩, isValue⟩ := isPlain
  have isMember := WritesMember.mk (writesString_writeString asciiOnly key) writesBlanks_nil
    writesBlanks_nil isValue
  rwa [List.append_nil, List.nil_append] at isMember

theorem writesItems_writeMembers {asciiOnly : Bool} {members : Members} (notEmpty : members ≠ [])
    (arePlain : ∀ member ∈ members, PlainMember asciiOnly member) :
    WritesItems WritesMember members (writeMembers asciiOnly members) := by
  induction members with
  | nil => exact absurd rfl notEmpty
  | cons member rest ih =>
      have isMember := writesMember_of_plain (arePlain member (by simp))
      obtain ⟨key, value⟩ := member
      cases rest with
      | nil =>
          have single := WritesItems.last isMember writesBlanks_nil
          rwa [List.append_nil] at single
      | cons next others =>
          have areMembers := ih (by simp) fun other inRest => arePlain other (by simp [inRest])
          have all := WritesItems.more isMember writesBlanks_nil writesBlanks_nil areMembers
          rwa [List.append_nil, List.nil_append] at all

theorem writesList_writeObject {asciiOnly : Bool} {members : Members} (notEmpty : members ≠ [])
    (arePlain : ∀ member ∈ members, PlainMember asciiOnly member) :
    WritesList WritesMember '{' '}' members (writeValue asciiOnly (.object members)) := by
  have isList : WritesList WritesMember '{' '}' members _ :=
    .items writesBlanks_nil (writesItems_writeMembers notEmpty arePlain)
  rwa [List.nil_append] at isList

theorem writesItems_writeItems {α : Type} {writes : α → List Char → Prop} {asciiOnly : Bool}
    {toValue : α → Value} {items : List α} (notEmpty : items ≠ [])
    (areWritten : ∀ item ∈ items, writes item (writeValue asciiOnly (toValue item))) :
    WritesItems writes items (writeItems asciiOnly (items.map toValue)) := by
  induction items with
  | nil => exact absurd rfl notEmpty
  | cons item rest ih =>
      have isItem := areWritten item (by simp)
      cases rest with
      | nil =>
          have single := WritesItems.last isItem writesBlanks_nil
          rwa [List.append_nil] at single
      | cons next others =>
          have areItems := ih (by simp) fun other inRest => areWritten other (by simp [inRest])
          have all := WritesItems.more isItem writesBlanks_nil writesBlanks_nil areItems
          rwa [List.append_nil, List.nil_append] at all

theorem writesList_writeArray {α : Type} {writes : α → List Char → Prop} {asciiOnly : Bool}
    {toValue : α → Value} {items : List α}
    (areWritten : ∀ item ∈ items, writes item (writeValue asciiOnly (toValue item))) :
    WritesList writes '[' ']' items (writeValue asciiOnly (.array (items.map toValue))) := by
  by_cases empty : items = []
  · subst empty
    exact .empty writesBlanks_nil
  · have isList : WritesList writes '[' ']' items _ :=
      .items writesBlanks_nil (writesItems_writeItems empty areWritten)
    rwa [List.nil_append] at isList

end ChangeImpact.Json
