import Mathlib.Data.List.Forall2
import ChangeImpact.Proofs.Json.Completeness
/-!
# What a JSON writer may write

A writer has choices: it may put blanks between the parts of a value, and write a character as it
is, with a short escape or with the code of its one or two units. `WritesString` and `WritesList`
admit all of them and know nothing of a reader. Here stands that every such text denotes what was
written.
-/
set_option autoImplicit false

namespace ChangeImpact.Json

/-! ## Strings -/

def shortEscapes : List (Char × Char) :=
  [('"', '"'), ('\\', '\\'), ('/', '/'), ('b', '\x08'), ('f', '\x0c'), ('n', '\n'), ('r', '\r'),
    ('t', '\t')]

/-- Four hexadecimal digits, in either case, that write the number. -/
def WritesUnit (number : Nat) (digits : List Char) : Prop :=
  ∃ a b c d w x y z, digits = [a, b, c, d] ∧ Text.hexValue? a = some w ∧ Text.hexValue? b = some x ∧
    Text.hexValue? c = some y ∧ Text.hexValue? d = some z ∧
    number = ((w * 16 + x) * 16 + y) * 16 + z

inductive WritesChar : Char → List Char → Prop
  | plain {c : Char} (notQuote : c ≠ '"') (notBackslash : c ≠ '\\') (notControl : 0x20 ≤ c.toNat) :
      WritesChar c [c]
  | short {mark c : Char} (isShort : (mark, c) ∈ shortEscapes) : WritesChar c ['\\', mark]
  | unit {c : Char} {digits : List Char} (isUnit : WritesUnit c.toNat digits) :
      WritesChar c ('\\' :: 'u' :: digits)
  /-- A character beyond the first plane, in a high and a low surrogate. -/
  | pair {c : Char} {high low : List Char} (beyond : 0x10000 ≤ c.toNat)
      (isHigh : WritesUnit (0xD800 + (c.toNat - 0x10000) / 0x400) high)
      (isLow : WritesUnit (0xDC00 + (c.toNat - 0x10000) % 0x400) low) :
      WritesChar c ('\\' :: 'u' :: high ++ '\\' :: 'u' :: low)

inductive WritesChars : List Char → List Char → Prop
  | nil : WritesChars [] []
  | cons {c : Char} {part : List Char} {chars body : List Char} (isChar : WritesChar c part)
      (others : WritesChars chars body) : WritesChars (c :: chars) (part ++ body)

def WritesString (chars text : List Char) : Prop :=
  ∃ body, WritesChars chars body ∧ text = '"' :: (body ++ ['"'])

theorem escapedChar?_of_mem {mark c : Char} (isShort : (mark, c) ∈ shortEscapes) :
    escapedChar? (.char mark) = some c := by
  simp only [shortEscapes, List.mem_cons, Prod.mk.injEq, List.not_mem_nil, or_false] at isShort
  rcases isShort with ⟨rfl, rfl⟩ | ⟨rfl, rfl⟩ | ⟨rfl, rfl⟩ | ⟨rfl, rfl⟩ | ⟨rfl, rfl⟩ | ⟨rfl, rfl⟩ |
    ⟨rfl, rfl⟩ | ⟨rfl, rfl⟩ <;> rfl

theorem ofCode?_toNat (c : Char) : CodePoint.ofCode? c.toNat = some (.char c) := by
  have valid : c.toNat.isValidChar := c.valid
  rw [CodePoint.ofCode?, dif_pos valid]
  rfl

theorem ofCode?_surrogate (offset : Fin 0x800) :
    CodePoint.ofCode? (0xD800 + offset.val) = some (.surrogate offset) := by
  have small := offset.isLt
  have invalid : ¬(0xD800 + offset.val).isValidChar := by
    intro valid
    have bounds : 0xD800 + offset.val < 0xD800 ∨
        0xDFFF < 0xD800 + offset.val ∧ 0xD800 + offset.val < 0x110000 := valid
    omega
  have distance : 0xD800 + offset.val - CodePoint.firstSurrogate = offset.val :=
    Nat.add_sub_cancel_left ..
  rw [CodePoint.ofCode?, dif_neg invalid, dif_pos (by rw [distance]; exact small)]
  simp only [distance]

theorem stringBody_of_writesUnit {number : Nat} {digits body : List Char} {point : CodePoint}
    {units : List Unit16} (isUnit : WritesUnit number digits)
    (isPoint : CodePoint.ofCode? number = some point)
    (rest : StringBody (Text.ofChars body) units) :
    StringBody (Text.ofChars ('\\' :: 'u' :: digits ++ body)) (.escaped point :: units) := by
  obtain ⟨a, b, c, d, w, x, y, z, rfl, isA, isB, isC, isD, rfl⟩ := isUnit
  have isCode : unitOf? a b c d = some point := by
    simp only [unitOf?, isA, isB, isC, isD, isPoint]
  exact .code isCode rest

def highSurrogate (c : Char) : Fin 0x800 :=
  Fin.ofNat 0x800 ((c.toNat - 0x10000) / 0x400)

def lowSurrogate (c : Char) : Fin 0x800 :=
  Fin.ofNat 0x800 (0x400 + (c.toNat - 0x10000) % 0x400)

theorem toNat_lt (c : Char) : c.toNat < 0x110000 := by
  have valid : c.toNat < 0xD800 ∨ 0xDFFF < c.toNat ∧ c.toNat < 0x110000 := c.valid
  omega

theorem val_highSurrogate (c : Char) :
    (highSurrogate c).val = (c.toNat - 0x10000) / 0x400 := by
  have bound := toNat_lt c
  exact Nat.mod_eq_of_lt (by omega)

theorem val_lowSurrogate (c : Char) :
    (lowSurrogate c).val = 0x400 + (c.toNat - 0x10000) % 0x400 :=
  Nat.mod_eq_of_lt (by omega)

theorem joined?_surrogates {c : Char} (beyond : 0x10000 ≤ c.toNat) :
    joined? (highSurrogate c) (lowSurrogate c) = some c := by
  have bound := toNat_lt c
  have isHigh : (c.toNat - 0x10000) / 0x400 < 0x400 := by omega
  have isLow : 0x400 ≤ 0x400 + (c.toNat - 0x10000) % 0x400 := Nat.le_add_right ..
  have sum : 0x10000 + (c.toNat - 0x10000) / 0x400 * 0x400 +
      (0x400 + (c.toNat - 0x10000) % 0x400 - 0x400) = c.toNat := by
    omega
  rw [joined?, val_highSurrogate, val_lowSurrogate, sum, Char.ofNat_toNat]
  simp [isHigh, isLow]

theorem joinUnits_surrogates {c : Char} (beyond : 0x10000 ≤ c.toNat) (units : List Unit16) :
    joinUnits (.escaped (.surrogate (highSurrogate c)) :: .escaped (.surrogate (lowSurrogate c)) ::
      units) = .char c :: joinUnits units := by
  rw [joinUnits, joined?_surrogates beyond]

theorem exists_units_of_writesChar {c : Char} {part body : List Char} {units : List Unit16}
    (isChar : WritesChar c part) (rest : StringBody (Text.ofChars body) units) :
    ∃ longer, StringBody (Text.ofChars (part ++ body)) longer ∧
      joinUnits longer = .char c :: joinUnits units := by
  cases isChar with
  | plain notQuote notBackslash notControl =>
      refine ⟨.plain (.char c) :: units, .plain ?_ ?_ notControl rest, rfl⟩
      · simpa using notQuote
      · simpa using notBackslash
  | short isShort =>
      exact ⟨.plain (.char c) :: units, .short (escapedChar?_of_mem isShort) rest, rfl⟩
  | unit isUnit =>
      have isBody := stringBody_of_writesUnit isUnit (ofCode?_toNat c) rest
      exact ⟨.escaped (.char c) :: units, isBody, rfl⟩
  | pair beyond isHigh isLow =>
      have highPoint := ofCode?_surrogate (highSurrogate c)
      have lowPoint := ofCode?_surrogate (lowSurrogate c)
      rw [val_highSurrogate] at highPoint
      rw [val_lowSurrogate, ← Nat.add_assoc] at lowPoint
      have isBody := stringBody_of_writesUnit isHigh highPoint
        (stringBody_of_writesUnit isLow lowPoint rest)
      rw [← List.append_assoc] at isBody
      exact ⟨_, isBody, joinUnits_surrogates beyond units⟩

theorem exists_units_of_writesChars {chars body : List Char} (isWritten : WritesChars chars body) :
    ∃ units, StringBody (Text.ofChars (body ++ ['"'])) units ∧
      joinUnits units = Text.ofChars chars := by
  induction isWritten with
  | nil => exact ⟨[], .close, rfl⟩
  | cons isChar _ ih =>
      obtain ⟨units, isBody, joined⟩ := ih
      obtain ⟨longer, isLonger, joinedLonger⟩ := exists_units_of_writesChar isChar isBody
      rw [List.append_assoc]
      refine ⟨longer, isLonger, ?_⟩
      rw [joinedLonger, joined]
      rfl

/-! ## Numbers -/

theorem isAsciiDigit_of_isDigit {c : Char} (isDigit : c.isDigit = true) :
    Text.isAsciiDigit (.char c) = true := by
  simp only [Char.isDigit, Bool.and_eq_true, decide_eq_true_eq, UInt32.le_iff_toNat_le] at isDigit
  rw [Text.isAsciiDigit, CodePoint.code, Bool.and_eq_true]
  exact ⟨decide_eq_true isDigit.1, decide_eq_true isDigit.2⟩

theorem digitValue?_of_isAsciiDigit {point : CodePoint} (isDigit : Text.isAsciiDigit point = true) :
    Text.digitValue? point = some (point.code - 0x30) := by
  have inside : (decide (0x30 ≤ point.code) && decide (point.code < 0x30 + 10)) = true := by
    simp only [Text.isAsciiDigit, Bool.and_eq_true, decide_eq_true_eq] at isDigit ⊢
    omega
  obtain ⟨others, zeros⟩ : ∃ others, Text.decimalZeros = 0x30 :: others := ⟨_, rfl⟩
  rw [Text.digitValue?, zeros, List.find?_cons]
  simp only [inside, Option.map_some]

theorem isAsciiDigit_of_mem_toDigits {number : Nat} {point : CodePoint}
    (member : point ∈ Text.ofChars (Nat.toDigits 10 number)) : Text.isAsciiDigit point = true := by
  obtain ⟨c, isDigit, rfl⟩ := List.mem_map.mp member
  exact isAsciiDigit_of_isDigit (Nat.isDigit_of_mem_toDigits (by decide) (by decide) isDigit)

theorem numberOfDigits_toDigits (number : Nat) :
    Text.numberOfDigits (Text.ofChars (Nat.toDigits 10 number)) = number := by
  have digits : ∀ c ∈ Nat.toDigits 10 number, c.isDigit = true :=
    fun c member => Nat.isDigit_of_mem_toDigits (by decide) (by decide) member
  have sameFold (chars : List Char) (all : ∀ c ∈ chars, c.isDigit = true) (start : Nat) :
      (Text.ofChars chars).foldl
          (fun number point => 10 * number + (Text.digitValue? point).getD 0) start =
        Nat.ofDigitChars 10 chars start := by
    induction chars generalizing start with
    | nil => rfl
    | cons c rest ih =>
        have isDigit := isAsciiDigit_of_isDigit (all c (by simp))
        rw [Text.ofChars, List.map_cons, List.foldl_cons, digitValue?_of_isAsciiDigit isDigit,
          Nat.ofDigitChars_cons]
        exact ih (fun other member => all other (by simp [member])) _
  rw [Text.numberOfDigits, sameFold _ digits, Nat.ofDigitChars_ten_toDigits]

theorem head?_toDigits_ne_zero {number : Nat} (positive : 0 < number) :
    (Nat.toDigits 10 number).head? ≠ some '0' := by
  induction number using Nat.strongRecOn with
  | ind number ih =>
      rw [Nat.toDigits_eq_if (by decide)]
      split
      · rename_i small
        intro same
        have isZero := Nat.digitChar_eq_zero.mp (Option.some.inj same)
        omega
      · rename_i large
        have positiveRest : 0 < number / 10 := by omega
        have shorter := ih (number / 10) (by omega) positiveRest
        have notEmpty : Nat.toDigits 10 (number / 10) ≠ [] := Nat.toDigits_ne_nil
        obtain ⟨first, rest, same⟩ := List.exists_cons_of_ne_nil notEmpty
        rw [same] at shorter ⊢
        exact shorter

theorem splitWhole_toDigits (number : Nat) :
    splitWhole (Text.ofChars (Nat.toDigits 10 number)) =
      (Text.ofChars (Nat.toDigits 10 number), []) := by
  rcases Nat.eq_zero_or_pos number with rfl | positive
  · rfl
  · have digits : ∀ point ∈ Text.ofChars (Nat.toDigits 10 number), Text.isAsciiDigit point = true :=
      fun _ => isAsciiDigit_of_mem_toDigits
    have noZero : ∀ rest, Text.ofChars (Nat.toDigits 10 number) ≠ .char '0' :: rest := by
      intro rest same
      apply head?_toDigits_ne_zero positive
      have first := congrArg List.head? same
      rw [Text.ofChars, List.head?_map] at first
      obtain ⟨c, isFirst, isZero⟩ := Option.map_eq_some_iff.mp first
      rw [isFirst, CodePoint.char.inj isZero]
    have noDigit : NoDigit [] := by simp [NoDigit]
    have taken := takeWhile_digits_append digits noDigit
    have dropped := dropWhile_digits_append digits noDigit
    rw [List.append_nil] at taken dropped
    rw [splitWhole_of_ne noZero, taken, dropped]

theorem readNumber_toDigits {number : Nat}
    (short : (Nat.toDigits 10 number).length ≤ Numeral.digitLimit) :
    readNumber (Text.ofChars (Nat.toDigits 10 number)) = .ok (.int number, []) := by
  have noMinus : splitMinus (Text.ofChars (Nat.toDigits 10 number)) =
      (false, Text.ofChars (Nat.toDigits 10 number)) := by
    unfold splitMinus
    split
    · rename_i rest same
      have member : CodePoint.char '-' ∈ Text.ofChars (Nat.toDigits 10 number) := by simp [same]
      exact absurd (isAsciiDigit_of_mem_toDigits member) (by decide)
    · rfl
  have notEmpty : Text.ofChars (Nat.toDigits 10 number) ≠ [] := by
    simp [Text.ofChars]
  have isNumber : numberOfParts false (Text.ofChars (Nat.toDigits 10 number)) [] none =
      .ok (.int number) := by
    have fits : ¬Numeral.digitLimit < (Text.ofChars (Nat.toDigits 10 number)).length := by
      simpa [Text.ofChars] using short
    simp only [numberOfParts, Numeral.ofDigits, if_neg fits, numberOfDigits_toDigits,
      Numeral.signed]
    rfl
  rw [readNumber_eq_ok_iff]
  exact ⟨false, _, _, [], [], [], none, noMinus, splitWhole_toDigits number, notEmpty, rfl, rfl,
    isNumber⟩

/-! ## Lists -/

def blankChars : List Char := [' ', '\t', '\n', '\r']

def WritesBlanks (text : List Char) : Prop :=
  ∀ c ∈ text, c ∈ blankChars

section

variable {α : Type} (writes : α → List Char → Prop)

/-- Items with commas between them, and blanks after each and after each comma. -/
inductive WritesItems : List α → List Char → Prop
  | last {item : α} {part blanks : List Char} (isItem : writes item part)
    (blank : WritesBlanks blanks) :
      WritesItems [item] (part ++ blanks)
  | more {item : α} {items : List α} {part before after rest : List Char}
    (isItem : writes item part)
      (blankBefore : WritesBlanks before) (blankAfter : WritesBlanks after)
      (others : WritesItems items rest) :
      WritesItems (item :: items) (part ++ before ++ ',' :: (after ++ rest))

/-- Items in brackets of some kind. -/
inductive WritesList (opening closing : Char) : List α → List Char → Prop
  | empty {blanks : List Char} (blank : WritesBlanks blanks) :
      WritesList opening closing [] (opening :: (blanks ++ [closing]))
  | items {items : List α} {blanks inner : List Char} (blank : WritesBlanks blanks)
      (isInner : WritesItems writes items inner) :
      WritesList opening closing items (opening :: (blanks ++ inner ++ [closing]))

end

inductive WritesScalar : Value → List Char → Prop
  | null : WritesScalar .null "null".toList
  | string {chars text : List Char} (isString : WritesString chars text) :
      WritesScalar (.string (Text.ofChars chars)) text
  | number (number : Nat) : WritesScalar (.int number) (Nat.toDigits 10 number)

inductive WritesMember : Text × Value → List Char → Prop
  | mk {key keyText before after valueText : List Char} {value : Value}
      (isKey : WritesString key keyText) (blankBefore : WritesBlanks before)
      (blankAfter : WritesBlanks after) (isValue : WritesScalar value valueText) :
      WritesMember (Text.ofChars key, value) (keyText ++ before ++ ':' :: (after ++ valueText))

/-- The numbers among values have no more digits than are read. -/
def ShortNumber (value : Value) : Prop :=
  ∀ number : Nat, value = .int number → (Nat.toDigits 10 number).length ≤ Numeral.digitLimit

theorem ofChars_append (first second : List Char) :
    Text.ofChars (first ++ second) = Text.ofChars first ++ Text.ofChars second :=
  List.map_append

theorem ofChars_cons (c : Char) (rest : List Char) :
    Text.ofChars (c :: rest) = .char c :: Text.ofChars rest := rfl

theorem blank_of_writesBlanks {text : List Char} (blank : WritesBlanks text) :
    Blank (Text.ofChars text) := by
  intro point member
  obtain ⟨c, isChar, rfl⟩ := List.mem_map.mp member
  have isBlank := blank c isChar
  simp only [blankChars, List.mem_cons, List.not_mem_nil, or_false] at isBlank
  rcases isBlank with rfl | rfl | rfl | rfl <;> rfl

theorem denotes_of_writesScalar {value : Value} {text : List Char}
    (isWritten : WritesScalar value text) (short : ShortNumber value) :
    Denotes (Text.ofChars text) (.value value) := by
  cases isWritten with
  | null =>
      have isWord : ("null", Value.null) ∈ words := by simp [words]
      exact .word isWord
  | string isString =>
      obtain ⟨body, isBody, rfl⟩ := isString
      obtain ⟨units, isUnits, joined⟩ := exists_units_of_writesChars isBody
      rw [← joined]
      exact .string isUnits
  | number number => exact .number (readNumber_toDigits (short number rfl))

theorem exists_items_of_writesItems {α : Type} {writes : α → List Char → Prop}
    {means : α → Value → Prop} {items : List α} {text : List Char}
    (isWritten : WritesItems writes items text) (reads : ∀ item ∈ items, ∀ text, writes item text →
      ∃ value, Denotes (Text.ofChars text) (.value value) ∧ means item value) :
    ∃ values, Denotes (Text.ofChars text) (.items values) ∧ List.Forall₂ means items values := by
  induction isWritten with
  | last isItem blank =>
      obtain ⟨value, denotes, isMeant⟩ := reads _ (by simp) _ isItem
      refine ⟨[value], ?_, .cons isMeant .nil⟩
      rw [ofChars_append]
      exact .lastItem denotes (blank_of_writesBlanks blank)
  | more isItem blankBefore blankAfter _ ih =>
      obtain ⟨value, denotes, isMeant⟩ := reads _ (by simp) _ isItem
      obtain ⟨values, denotesOthers, areMeant⟩ := ih fun item member =>
        reads item (by simp [member])
      refine ⟨value :: values, ?_, .cons isMeant areMeant⟩
      rw [ofChars_append, ofChars_append, ofChars_cons, ofChars_append]
      exact .moreItems denotes (blank_of_writesBlanks blankBefore)
        (blank_of_writesBlanks blankAfter)
        denotesOthers

theorem exists_array_of_writesList {α : Type} {writes : α → List Char → Prop}
    {means : α → Value → Prop} {items : List α} {text : List Char}
    (isWritten : WritesList writes '[' ']' items text)
    (reads : ∀ item ∈ items, ∀ text, writes item text →
      ∃ value, Denotes (Text.ofChars text) (.value value) ∧ means item value) :
    ∃ values, Denotes (Text.ofChars text) (.value (.array values)) ∧
      List.Forall₂ means items values := by
  cases isWritten with
  | empty blank =>
      refine ⟨[], ?_, .nil⟩
      rw [ofChars_cons, ofChars_append]
      exact .emptyArray (blank_of_writesBlanks blank)
  | items blank isInner =>
      obtain ⟨values, denotes, areMeant⟩ := exists_items_of_writesItems isInner reads
      refine ⟨values, ?_, areMeant⟩
      rw [ofChars_cons, ofChars_append, ofChars_append]
      exact .array (blank_of_writesBlanks blank) denotes

theorem denotes_of_writesMembers {members : List (Text × Value)} {text : List Char}
    (isWritten : WritesItems WritesMember members text)
    (short : ∀ member ∈ members, ShortNumber member.2) :
    Denotes (Text.ofChars text) (.members members) := by
  induction isWritten with
  | last isMember blank =>
      obtain ⟨⟨body, isBody, rfl⟩, blankBefore, blankAfter, isValue⟩ := isMember
      obtain ⟨units, isUnits, joined⟩ := exists_units_of_writesChars isBody
      have denotes := denotes_of_writesScalar isValue (short _ List.mem_cons_self)
      have member := Denotes.lastMember isUnits (blank_of_writesBlanks blankBefore)
        (blank_of_writesBlanks blankAfter) denotes (blank_of_writesBlanks blank)
      rw [joined] at member
      simpa only [ofChars_append, ofChars_cons, List.append_assoc, List.cons_append] using member
  | more isMember blankNext blankThen _ ih =>
      obtain ⟨⟨body, isBody, rfl⟩, blankBefore, blankAfter, isValue⟩ := isMember
      obtain ⟨units, isUnits, joined⟩ := exists_units_of_writesChars isBody
      have denotes := denotes_of_writesScalar isValue (short _ List.mem_cons_self)
      have others := ih fun member isMember => short member (List.mem_cons_of_mem _ isMember)
      have members := Denotes.moreMembers isUnits (blank_of_writesBlanks blankBefore)
        (blank_of_writesBlanks blankAfter) denotes (blank_of_writesBlanks blankNext)
        (blank_of_writesBlanks blankThen) others
      rw [joined] at members
      simpa only [ofChars_append, ofChars_cons, List.append_assoc, List.cons_append] using members

theorem put_of_notMem {members : Members} {key : Text} (fresh : key ∉ Members.keys members)
    (value : Value) : Members.put members key value = members ++ [(key, value)] := by
  induction members with
  | nil => rfl
  | cons member rest ih =>
      obtain ⟨name, old⟩ := member
      obtain ⟨different, freshRest⟩ := not_or.mp (mt List.mem_cons.mpr fresh)
      rw [Members.put, if_neg (Ne.symm different), ih freshRest, List.cons_append]

theorem ofPairs_of_nodup {members : Members} (distinct : (Members.keys members).Nodup) :
    Members.ofPairs members = members := by
  have grown (first second : Members) (distinct : (Members.keys (first ++ second)).Nodup) :
      second.foldl (fun members pair => Members.put members pair.1 pair.2) first =
        first ++ second := by
    induction second generalizing first with
    | nil => rw [List.foldl_nil, List.append_nil]
    | cons pair rest ih =>
        have fresh : pair.1 ∉ Members.keys first := by
          intro member
          rw [Members.keys, List.map_append, List.map_cons] at distinct
          exact (List.nodup_append.mp distinct).2.2 _ member _ (by simp) rfl
        rw [List.foldl_cons, put_of_notMem fresh, ih]
        · simp
        · simpa using distinct
  exact grown [] members distinct

theorem get?_of_mem {members : Members} (distinct : (Members.keys members).Nodup) {key : Text}
    {value : Value} (member : (key, value) ∈ members) : Members.get? members key = some value := by
  induction members with
  | nil => cases member
  | cons first rest ih =>
      obtain ⟨name, other⟩ := first
      obtain ⟨fresh, distinctRest⟩ := List.nodup_cons.mp distinct
      rcases List.mem_cons.mp member with same | inRest
      · cases same
        rw [Members.get?, if_pos rfl]
      · have different : name ≠ key := by
          rintro rfl
          exact fresh (List.mem_map.mpr ⟨_, inRest, rfl⟩)
        rw [Members.get?, if_neg different, ih distinctRest inRest]

theorem denotes_of_writesObject {members : Members} {text : List Char}
    (isWritten : WritesList WritesMember '{' '}' members text)
    (short : ∀ member ∈ members, ShortNumber member.2)
    (distinct : (Members.keys members).Nodup) :
    Denotes (Text.ofChars text) (.value (.object members)) := by
  cases isWritten with
  | empty blank =>
      rw [ofChars_cons, ofChars_append]
      exact .emptyObject (blank_of_writesBlanks blank)
  | items blank isInner =>
      have object := Denotes.object (blank_of_writesBlanks blank)
        (denotes_of_writesMembers isInner short)
      rw [ofPairs_of_nodup distinct] at object
      rwa [ofChars_cons, ofChars_append, ofChars_append]

end ChangeImpact.Json
