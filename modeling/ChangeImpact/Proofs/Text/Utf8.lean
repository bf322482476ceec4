import ChangeImpact.Text.Utf8
/-!
# Strict decoding accepts exactly what encoding writes

The bytes that the machine holds are always the beginning of a character, and the byte that
completes one gives back the character whose encoding they are. So bytes can be decoded exactly if
they are the encoding of some characters, and those are the text decoded. Reading the bytes in two
parts is reading them as one list.
-/
set_option autoImplicit false

namespace ChangeImpact.Utf8

/-! ## Decoding in parts -/

/-- Positions are told in errors only. -/
theorem decodeFrom_eq_ok_of_position {position : Nat} (other : Nat) {pending bytes : Bytes}
    {result : Text × Bytes} (decoded : decodeFrom position pending bytes = .ok result) :
    decodeFrom other pending bytes = .ok result := by
  induction bytes generalizing position other pending result with
  | nil => exact decoded
  | cons b rest ih =>
      rw [decodeFrom] at decoded ⊢
      cases stepped : step pending b with
      | scalar c =>
          simp only [stepped] at decoded ⊢
          cases after : decodeFrom (position + pending.length + 1) [] rest with
          | error error => rw [after] at decoded; cases decoded
          | ok pair => rw [ih (other + pending.length + 1) after]; rwa [after] at decoded
      | hold held =>
          simp only [stepped] at decoded ⊢
          exact ih other decoded
      | badStart => rw [stepped] at decoded; cases decoded
      | badContinuation bad => rw [stepped] at decoded; cases decoded

/-- A byte is read when it completes a character or can be held. -/
theorem decodeMore_cons_eq_ok_iff (pending : Bytes) (b : UInt8) (rest : Bytes) (text : Text)
    (left : Bytes) :
    decodeMore pending (b :: rest) = .ok (text, left) ↔
      (∃ c more, step pending b = .scalar c ∧ decodeMore [] rest = .ok (more, left) ∧
        text = .char c :: more) ∨
      (∃ held, step pending b = .hold held ∧ decodeMore held rest = .ok (text, left)) := by
  rw [decodeMore, decodeFrom]
  cases stepped : step pending b with
  | scalar c =>
      constructor
      · intro decoded
        left
        cases after : decodeFrom (0 + pending.length + 1) [] rest with
        | error error => rw [after] at decoded; cases decoded
        | ok pair =>
            rw [after] at decoded
            cases decoded
            exact ⟨c, pair.1, rfl, decodeFrom_eq_ok_of_position 0 after, rfl⟩
      · rintro (⟨c, more, same, decoded, rfl⟩ | ⟨held, other, -⟩)
        · cases same
          simp only [decodeFrom_eq_ok_of_position (0 + pending.length + 1) decoded]
        · cases other
  | hold held =>
      constructor
      · intro decoded
        exact .inr ⟨held, rfl, decoded⟩
      · rintro (⟨c, more, other, -⟩ | ⟨held, same, decoded⟩)
        · cases other
        · cases same
          exact decoded
  | badStart => simp
  | badContinuation bad => simp

theorem decodeMore_append_eq_ok_iff (pending first second : Bytes) (text : Text) (left : Bytes) :
    decodeMore pending (first ++ second) = .ok (text, left) ↔
      ∃ before held after, decodeMore pending first = .ok (before, held) ∧
        decodeMore held second = .ok (after, left) ∧ text = before ++ after := by
  induction first generalizing pending text with
  | nil =>
      constructor
      · intro decoded
        exact ⟨[], pending, text, rfl, decoded, rfl⟩
      · rintro ⟨before, held, after, same, decoded, rfl⟩
        cases same
        exact decoded
  | cons b rest ih =>
      rw [List.cons_append, decodeMore_cons_eq_ok_iff]
      constructor
      · rintro (⟨c, more, stepped, decoded, rfl⟩ | ⟨held, stepped, decoded⟩)
        · obtain ⟨before, held, after, first, second, rfl⟩ := (ih [] more).mp decoded
          refine ⟨.char c :: before, held, after, ?_, second, rfl⟩
          exact (decodeMore_cons_eq_ok_iff ..).mpr (.inl ⟨c, before, stepped, first, rfl⟩)
        · obtain ⟨before, last, after, first, second, rfl⟩ := (ih held text).mp decoded
          refine ⟨before, last, after, ?_, second, rfl⟩
          exact (decodeMore_cons_eq_ok_iff ..).mpr (.inr ⟨held, stepped, first⟩)
      · rintro ⟨before, held, after, first, second, rfl⟩
        rcases (decodeMore_cons_eq_ok_iff ..).mp first with
          ⟨c, more, stepped, decoded, rfl⟩ | ⟨inner, stepped, decoded⟩
        · exact .inl ⟨c, more ++ after, stepped,
            (ih [] (more ++ after)).mpr ⟨more, held, after, decoded, second, rfl⟩, rfl⟩
        · exact .inr ⟨inner, stepped,
            (ih inner (before ++ after)).mpr ⟨before, held, after, decoded, second, rfl⟩⟩

/-! ## What the machine holds -/

/-- The bytes that the machine can hold: none, or the beginning of the encoding of a character or of
a surrogate. -/
inductive Held : Bytes → Prop
  | none : Held []
  | one {first : UInt8} (low : 0xC2 ≤ first.toNat) (high : first.toNat ≤ 0xF4) : Held [first]
  | two {first second : UInt8} (low : 0xE0 ≤ first.toNat) (high : first.toNat ≤ 0xF4)
      (fits : (fitsSecond first second || beginsSurrogate first second) = true) :
      Held [first, second]
  | three {first second third : UInt8} (low : 0xF0 ≤ first.toNat) (high : first.toNat ≤ 0xF4)
      (fits : fitsSecond first second = true) (tail : isTail third = true) :
      Held [first, second, third]

theorem isTail_iff (b : UInt8) : isTail b = true ↔ 0x80 ≤ b.toNat ∧ b.toNat ≤ 0xBF := by
  simp [isTail]

theorem fitsSecond_iff (first second : UInt8) :
    fitsSecond first second = true ↔
      (0x80 ≤ second.toNat ∧ second.toNat ≤ 0xBF) ∧
        (first.toNat = 0xE0 → 0xA0 ≤ second.toNat) ∧
        (first.toNat = 0xED → second.toNat ≤ 0x9F) ∧
        (first.toNat = 0xF0 → 0x90 ≤ second.toNat) ∧
        (first.toNat = 0xF4 → second.toNat ≤ 0x8F) := by
  rw [fitsSecond, Bool.and_eq_true, isTail_iff]
  refine and_congr_right fun _ => ?_
  split
  · simp; omega
  · split
    · simp; omega
    · split
      · simp; omega
      · split
        · simp; omega
        · simp; omega

theorem beginsSurrogate_iff (first second : UInt8) :
    beginsSurrogate first second = true ↔
      first.toNat = 0xED ∧ 0xA0 ≤ second.toNat ∧ second.toNat ≤ 0xBF := by
  simp [beginsSurrogate, and_assoc]

theorem tailBits_add {b : UInt8} (tail : isTail b = true) : tailBits b + 0x80 = b.toNat :=
  Nat.sub_add_cancel ((isTail_iff b).mp tail).1

theorem toNat_ofNat_of_valid {code : Nat}
    (valid : code < 0xD800 ∨ 0xDFFF < code ∧ code < 0x110000) :
    (Char.ofNat code).toNat = code := by
  have isValid : code.isValidChar := valid
  rw [Char.ofNat, dif_pos isValid]
  rfl

theorem ofNat_eq_of_toNat_eq {code : Nat} {b : UInt8} (same : b.toNat = code) :
    UInt8.ofNat code = b := by
  rw [← same, UInt8.ofNat_toNat]

/-! ## What completes a character -/

theorem encodeChar_one {b : UInt8} (ascii : b.toNat < 0x80) :
    encodeChar (Char.ofNat b.toNat) = [b] := by
  have code : (Char.ofNat b.toNat).toNat = b.toNat := toNat_ofNat_of_valid (by omega)
  simp only [encodeChar, code, if_pos ascii, UInt8.ofNat_toNat]

theorem encodeChar_two {first b : UInt8} (low : 0xC2 ≤ first.toNat) (high : first.toNat < 0xE0)
    (tail : isTail b = true) :
    encodeChar (Char.ofNat ((first.toNat - 0xC0) * 64 + tailBits b)) = [first, b] := by
  have bits := tailBits_add tail
  rw [isTail_iff] at tail
  have code : (Char.ofNat ((first.toNat - 0xC0) * 64 + tailBits b)).toNat =
      (first.toNat - 0xC0) * 64 + tailBits b :=
    toNat_ofNat_of_valid (by omega)
  generalize Char.ofNat ((first.toNat - 0xC0) * 64 + tailBits b) = c at code ⊢
  simp only [encodeChar]
  rw [if_neg (by omega), if_pos (by omega), ofNat_eq_of_toNat_eq (b := first) (by omega),
    ofNat_eq_of_toNat_eq (b := b) (by omega)]

theorem encodeChar_three {first second b : UInt8} (low : 0xE0 ≤ first.toNat)
    (high : first.toNat < 0xF0) (fits : fitsSecond first second = true) (tail : isTail b = true) :
    encodeChar (Char.ofNat ((first.toNat - 0xE0) * 4096 + tailBits second * 64 + tailBits b)) =
      [first, second, b] := by
  have secondBits := tailBits_add (Bool.and_eq_true_iff.mp fits).1
  have bits := tailBits_add tail
  rw [isTail_iff] at tail
  rw [fitsSecond_iff] at fits
  have code : (Char.ofNat ((first.toNat - 0xE0) * 4096 + tailBits second * 64 + tailBits b)).toNat =
      (first.toNat - 0xE0) * 4096 + tailBits second * 64 + tailBits b :=
    toNat_ofNat_of_valid (by omega)
  generalize Char.ofNat ((first.toNat - 0xE0) * 4096 + tailBits second * 64 + tailBits b) = c
    at code ⊢
  simp only [encodeChar]
  rw [if_neg (by omega), if_neg (by omega), if_pos (by omega),
    ofNat_eq_of_toNat_eq (b := first) (by omega), ofNat_eq_of_toNat_eq (b := second) (by omega),
    ofNat_eq_of_toNat_eq (b := b) (by omega)]

theorem encodeChar_four {first second third b : UInt8} (low : 0xF0 ≤ first.toNat)
    (high : first.toNat ≤ 0xF4) (fits : fitsSecond first second = true)
    (tailThird : isTail third = true) (tail : isTail b = true) :
    encodeChar (Char.ofNat ((first.toNat - 0xF0) * 262144 + tailBits second * 4096 +
      tailBits third * 64 + tailBits b)) = [first, second, third, b] := by
  have secondBits := tailBits_add (Bool.and_eq_true_iff.mp fits).1
  have thirdBits := tailBits_add tailThird
  have bits := tailBits_add tail
  rw [isTail_iff] at tail tailThird
  rw [fitsSecond_iff] at fits
  have code : (Char.ofNat ((first.toNat - 0xF0) * 262144 + tailBits second * 4096 +
      tailBits third * 64 + tailBits b)).toNat = (first.toNat - 0xF0) * 262144 +
      tailBits second * 4096 + tailBits third * 64 + tailBits b :=
    toNat_ofNat_of_valid (by omega)
  generalize Char.ofNat ((first.toNat - 0xF0) * 262144 + tailBits second * 4096 +
    tailBits third * 64 + tailBits b) = c at code ⊢
  simp only [encodeChar]
  rw [if_neg (by omega), if_neg (by omega), if_neg (by omega),
    ofNat_eq_of_toNat_eq (b := first) (by omega), ofNat_eq_of_toNat_eq (b := second) (by omega),
    ofNat_eq_of_toNat_eq (b := third) (by omega), ofNat_eq_of_toNat_eq (b := b) (by omega)]

/-- What a step from bytes held does with one more byte: either they are together the encoding of
the character read, or they are held together. -/
theorem step_of_held {pending : Bytes} (before : Held pending) (b : UInt8) :
    (∀ c, step pending b = .scalar c → encodeChar c = pending ++ [b]) ∧
      ∀ held, step pending b = .hold held → held = pending ++ [b] ∧ Held held := by
  cases before with
  | none =>
      simp only [step]
      split
      · rename_i ascii
        refine ⟨fun c stepped => ?_, nofun⟩
        rw [← Step.scalar.inj stepped]
        exact encodeChar_one ascii
      · split
        · rename_i bounds
          refine ⟨nofun, fun held stepped => ?_⟩
          cases stepped
          simp only [Bool.and_eq_true, decide_eq_true_eq] at bounds
          exact ⟨rfl, .one bounds.1 bounds.2⟩
        · exact ⟨nofun, nofun⟩
  | one low high =>
      simp only [step]
      split
      · rename_i small
        split
        · rename_i tail
          refine ⟨fun c stepped => ?_, nofun⟩
          rw [← Step.scalar.inj stepped]
          exact encodeChar_two low small tail
        · exact ⟨nofun, nofun⟩
      · rename_i large
        split
        · rename_i fits
          refine ⟨nofun, fun held stepped => ?_⟩
          cases stepped
          exact ⟨rfl, .two (Nat.not_lt.mp large) high fits⟩
        · exact ⟨nofun, nofun⟩
  | @two first second low high fits =>
      simp only [step]
      split
      · exact ⟨nofun, nofun⟩
      · rename_i notSurrogate
        have fitsFirst : fitsSecond first second = true := by simpa [notSurrogate] using fits
        split
        · exact ⟨nofun, nofun⟩
        · rename_i tail
          simp only [Bool.not_eq_true', Bool.not_eq_false] at tail
          split
          · rename_i small
            refine ⟨fun c stepped => ?_, nofun⟩
            rw [← Step.scalar.inj stepped]
            exact encodeChar_three low small fitsFirst tail
          · rename_i large
            refine ⟨nofun, fun held stepped => ?_⟩
            cases stepped
            exact ⟨rfl, .three (Nat.not_lt.mp large) high fitsFirst tail⟩
  | three low high fits tailThird =>
      simp only [step]
      split
      · rename_i tail
        refine ⟨fun c stepped => ?_, nofun⟩
        rw [← Step.scalar.inj stepped]
        exact encodeChar_four low high fits tailThird tail
      · exact ⟨nofun, nofun⟩

/-! ## What a character is read from -/

theorem toNat_ofNat_of_lt {code : Nat} (small : code < 0x100) : (UInt8.ofNat code).toNat = code :=
  UInt8.toNat_ofNat_of_lt' small

theorem ofNat_eq_of_eq_toNat {code : Nat} {c : Char} (same : code = c.toNat) :
    Char.ofNat code = c := by
  rw [same, Char.ofNat_toNat]

theorem step_first {b : UInt8} (low : 0xC2 ≤ b.toNat) (high : b.toNat ≤ 0xF4) :
    step [] b = .hold [b] := by
  simp only [step]
  rw [if_neg (by omega), if_pos (by simp [low, high])]

theorem step_second {first b : UInt8} (low : 0xE0 ≤ first.toNat)
    (fits : fitsSecond first b = true) : step [first] b = .hold [first, b] := by
  simp only [step]
  rw [if_neg (by omega), if_pos (by simp [fits])]

theorem not_beginsSurrogate_of_fitsSecond {first second : UInt8}
    (fits : fitsSecond first second = true) : beginsSurrogate first second = false := by
  rw [fitsSecond_iff] at fits
  rw [Bool.eq_false_iff, ne_eq, beginsSurrogate_iff]
  omega

theorem step_third {first second b : UInt8} (low : 0xF0 ≤ first.toNat)
    (fits : fitsSecond first second = true) (tail : isTail b = true) :
    step [first, second] b = .hold [first, second, b] := by
  simp only [step, not_beginsSurrogate_of_fitsSecond fits, tail]
  rw [if_neg (by simp), if_neg (by simp), if_neg (by omega)]

theorem steps_two {c : Char} {first b : UInt8} (low : 0x80 ≤ c.toNat) (high : c.toNat < 0x800)
    (isFirst : first.toNat = 0xC0 + c.toNat / 64) (isLast : b.toNat = 0x80 + c.toNat % 64) :
    step [] first = .hold [first] ∧ step [first] b = .scalar c := by
  have tail : isTail b = true := (isTail_iff b).mpr (by omega)
  have bits := tailBits_add tail
  refine ⟨step_first (by omega) (by omega), ?_⟩
  simp only [step]
  rw [if_pos (by omega), if_pos tail, ofNat_eq_of_eq_toNat (c := c) (by omega)]

theorem steps_three {c : Char} {first second b : UInt8} (low : 0x800 ≤ c.toNat)
    (high : c.toNat < 0x10000) (isFirst : first.toNat = 0xE0 + c.toNat / 4096)
    (isSecond : second.toNat = 0x80 + c.toNat / 64 % 64) (isLast : b.toNat = 0x80 + c.toNat % 64) :
    step [] first = .hold [first] ∧ step [first] second = .hold [first, second] ∧
      step [first, second] b = .scalar c := by
  have valid : c.toNat < 0xD800 ∨ 0xDFFF < c.toNat ∧ c.toNat < 0x110000 := c.valid
  have fits : fitsSecond first second = true := (fitsSecond_iff ..).mpr (by omega)
  have tail : isTail b = true := (isTail_iff b).mpr (by omega)
  have secondBits := tailBits_add (Bool.and_eq_true_iff.mp fits).1
  have bits := tailBits_add tail
  refine ⟨step_first (by omega) (by omega), step_second (by omega) fits, ?_⟩
  simp only [step, not_beginsSurrogate_of_fitsSecond fits, tail]
  rw [if_neg (by simp), if_neg (by simp), if_pos (by omega),
    ofNat_eq_of_eq_toNat (c := c) (by omega)]

theorem steps_four {c : Char} {first second third b : UInt8} (low : 0x10000 ≤ c.toNat)
    (isFirst : first.toNat = 0xF0 + c.toNat / 262144)
    (isSecond : second.toNat = 0x80 + c.toNat / 4096 % 64)
    (isThird : third.toNat = 0x80 + c.toNat / 64 % 64) (isLast : b.toNat = 0x80 + c.toNat % 64) :
    step [] first = .hold [first] ∧ step [first] second = .hold [first, second] ∧
      step [first, second] third = .hold [first, second, third] ∧
      step [first, second, third] b = .scalar c := by
  have valid : c.toNat < 0xD800 ∨ 0xDFFF < c.toNat ∧ c.toNat < 0x110000 := c.valid
  have fits : fitsSecond first second = true := (fitsSecond_iff ..).mpr (by omega)
  have thirdTail : isTail third = true := (isTail_iff third).mpr (by omega)
  have tail : isTail b = true := (isTail_iff b).mpr (by omega)
  have secondBits := tailBits_add (Bool.and_eq_true_iff.mp fits).1
  have thirdBits := tailBits_add thirdTail
  have bits := tailBits_add tail
  refine ⟨step_first (by omega) (by omega), step_second (by omega) fits,
    step_third (by omega) fits thirdTail, ?_⟩
  simp only [step, if_pos tail]
  rw [ofNat_eq_of_eq_toNat (c := c) (by omega)]

theorem decodeMore_of_scalar {pending rest left : Bytes} {b : UInt8} {c : Char} {more : Text}
    (stepped : step pending b = .scalar c) (decoded : decodeMore [] rest = .ok (more, left)) :
    decodeMore pending (b :: rest) = .ok (.char c :: more, left) :=
  (decodeMore_cons_eq_ok_iff ..).mpr (.inl ⟨c, more, stepped, decoded, rfl⟩)

theorem decodeMore_of_hold {pending held rest left : Bytes} {b : UInt8} {text : Text}
    (stepped : step pending b = .hold held) (decoded : decodeMore held rest = .ok (text, left)) :
    decodeMore pending (b :: rest) = .ok (text, left) :=
  (decodeMore_cons_eq_ok_iff ..).mpr (.inr ⟨held, stepped, decoded⟩)

/-- The encoding of a character is read as that character. -/
theorem decodeMore_encodeChar_append (c : Char) {rest left : Bytes} {more : Text}
    (decoded : decodeMore [] rest = .ok (more, left)) :
    decodeMore [] (encodeChar c ++ rest) = .ok (.char c :: more, left) := by
  have valid : c.toNat < 0xD800 ∨ 0xDFFF < c.toNat ∧ c.toNat < 0x110000 := c.valid
  simp only [encodeChar]
  split
  · rename_i ascii
    apply decodeMore_of_scalar _ decoded
    simp only [step, toNat_ofNat_of_lt (show c.toNat < 0x100 by omega), if_pos ascii,
      Char.ofNat_toNat]
  · rename_i beyondOne
    split
    · rename_i small
      obtain ⟨holdsFirst, reads⟩ := steps_two (Nat.not_lt.mp beyondOne) small
        (toNat_ofNat_of_lt (by omega)) (toNat_ofNat_of_lt (by omega))
      exact decodeMore_of_hold holdsFirst (decodeMore_of_scalar reads decoded)
    · rename_i beyondTwo
      split
      · rename_i small
        obtain ⟨holdsFirst, holdsSecond, reads⟩ := steps_three (Nat.not_lt.mp beyondTwo) small
          (toNat_ofNat_of_lt (by omega)) (toNat_ofNat_of_lt (by omega))
            (toNat_ofNat_of_lt (by omega))
        exact decodeMore_of_hold holdsFirst
          (decodeMore_of_hold holdsSecond (decodeMore_of_scalar reads decoded))
      · rename_i beyondThree
        obtain ⟨holdsFirst, holdsSecond, holdsThird, reads⟩ :=
          steps_four (Nat.not_lt.mp beyondThree) (toNat_ofNat_of_lt (by omega))
            (toNat_ofNat_of_lt (by omega)) (toNat_ofNat_of_lt (by omega))
              (toNat_ofNat_of_lt (by omega))
        exact decodeMore_of_hold holdsFirst (decodeMore_of_hold holdsSecond
          (decodeMore_of_hold holdsThird (decodeMore_of_scalar reads decoded)))

theorem decodeMore_encodeChars (chars : List Char) :
    decodeMore [] (encodeChars chars) = .ok (Text.ofChars chars, []) := by
  induction chars with
  | nil => rfl
  | cons c rest ih => exact decodeMore_encodeChar_append c ih

/-- All that is read is the encoding of the characters read and the bytes left over. -/
theorem encodeChars_of_decodeMore {pending bytes left : Bytes} {text : Text} (before : Held pending)
    (decoded : decodeMore pending bytes = .ok (text, left)) :
    ∃ chars, text = Text.ofChars chars ∧ pending ++ bytes = encodeChars chars ++ left ∧
      Held left := by
  induction bytes generalizing pending text with
  | nil =>
      cases decoded
      exact ⟨[], rfl, List.append_nil _, before⟩
  | cons b rest ih =>
      rcases (decodeMore_cons_eq_ok_iff ..).mp decoded with
        ⟨c, more, stepped, after, rfl⟩ | ⟨held, stepped, after⟩
      · obtain ⟨chars, rfl, bytes, heldLeft⟩ := ih .none after
        refine ⟨c :: chars, rfl, ?_, heldLeft⟩
        rw [List.nil_append] at bytes
        rw [List.append_cons, ← (step_of_held before b).1 c stepped, bytes, ← List.append_assoc]
        rfl
      · obtain ⟨same, heldNext⟩ := (step_of_held before b).2 held stepped
        obtain ⟨chars, rfl, bytes, heldLeft⟩ := ih heldNext after
        refine ⟨chars, rfl, ?_, heldLeft⟩
        rw [List.append_cons, ← same, bytes]

theorem endError?_eq_none_iff (position : Nat) (pending : Bytes) :
    endError? position pending = none ↔ pending = [] := by
  unfold endError?
  split
  · simp
  · split <;> simp
  · rename_i notEmpty _
    simpa using notEmpty

/-- Reading to the end with nothing left over is reading an encoding of characters. -/
theorem decodeMore_eq_ok_nil_iff (bytes : Bytes) (text : Text) :
    decodeMore [] bytes = .ok (text, []) ↔
      ∃ chars, text = Text.ofChars chars ∧ bytes = encodeChars chars := by
  constructor
  · intro decoded
    obtain ⟨chars, isText, isBytes, -⟩ := encodeChars_of_decodeMore .none decoded
    exact ⟨chars, isText, by simpa using isBytes⟩
  · rintro ⟨chars, rfl, rfl⟩
    exact decodeMore_encodeChars chars

/-! ## Text and its bytes -/

theorem encodeFrom_ofChars (position : Nat) (chars : List Char) :
    encodeFrom position (Text.ofChars chars) = .ok (encodeChars chars) := by
  induction chars generalizing position with
  | nil => rfl
  | cons c rest ih =>
      change encodeFrom position (.char c :: Text.ofChars rest) = _
      rw [encodeFrom, ih]
      rfl

theorem encode_ofChars (chars : List Char) :
    encode (Text.ofChars chars) = .ok (encodeChars chars) :=
  encodeFrom_ofChars 0 chars

/-- Bytes that a strict reading takes are read alike by a lossy one, but for what is left over. -/
theorem decodeLossyFrom_of_decodeMore {pending bytes left : Bytes} {text : Text}
    (decoded : decodeMore pending bytes = .ok (text, left)) :
    decodeLossyFrom pending bytes = text ++ replaced left := by
  induction bytes generalizing pending text with
  | nil =>
      cases decoded
      rfl
  | cons b rest ih =>
      rcases (decodeMore_cons_eq_ok_iff ..).mp decoded with
        ⟨c, more, stepped, after, rfl⟩ | ⟨held, stepped, after⟩
      · simp only [decodeLossyFrom, decodeNextLossy, stepped, ih after, List.cons_append,
          List.nil_append]
      · simp only [decodeLossyFrom, decodeNextLossy, stepped, ih after, List.nil_append]

theorem decodeLossy_encodeChars (chars : List Char) :
    decodeLossy (encodeChars chars) = Text.ofChars chars := by
  rw [decodeLossy, decodeLossyFrom_of_decodeMore (decodeMore_encodeChars chars)]
  exact List.append_nil _

end ChangeImpact.Utf8
