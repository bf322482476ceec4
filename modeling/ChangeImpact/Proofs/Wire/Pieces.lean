import ChangeImpact.Proofs.Wire.Arrays
/-!
# Cutting a piece in two

A stream that was fed pieces without an error can be fed the next piece at once or in two parts:
both ways succeed alike, with the same values and the same state. So a piece can be followed byte by
byte, and each of its values is seen to appear with the byte that writes its last bracket.
-/
set_option autoImplicit false

namespace ChangeImpact.Wire

open Json (Value Denotes)
open Utf8 (Bytes)

/-! ## The end of an array -/

theorem denotes_of_read_end {rest : Text} {point : CodePoint} {value : Value}
    (notBlank : Json.isJsonBlank point = false)
    (isRead : Json.read (.char '[' :: (rest ++ [point])) = .ok value) :
    point = .char ']' ∧ Denotes (.char '[' :: (rest ++ [point])) (.value value) := by
  obtain ⟨part, blanks, values, isText, blank, rfl, denotes⟩ :=
    (Json.read_bracket_eq_ok_iff ..).mp isRead
  rcases List.eq_nil_or_concat blanks with rfl | ⟨others, last, rfl⟩
  · rw [List.append_nil] at isText
    rw [← isText] at denotes
    obtain ⟨_, front, inner, -, -, same, -⟩ := Json.exists_array_of_denotes denotes rfl
    have sameEnd := congrArg List.getLast? (List.cons.inj same).2
    rw [List.getLast?_concat, List.getLast?_concat, Option.some.injEq] at sameEnd
    exact ⟨sameEnd, denotes⟩
  · -- No blank follows the last bracket, which is the point that is not one.
    rw [List.concat_eq_append, ← List.append_assoc, ← List.cons_append] at isText
    have sameEnd := congrArg List.getLast? isText
    rw [List.getLast?_concat, List.getLast?_concat, Option.some.injEq] at sameEnd
    have isBlank := blank last (by simp)
    rw [← sameEnd, notBlank] at isBlank
    cases isBlank

theorem Scanner.isClosing_of_step {scanner : Scanner} {point : CodePoint}
    (inside : scanner.depth ≠ 0) (completed : (scanner.step point).depth = 0) :
    point = .char ']' ∨ point = .char '}' := by
  obtain ⟨depth, inString, escaped⟩ := scanner
  unfold step at completed
  cases inString <;> cases escaped <;> grind

theorem drains_unique {scanner last otherLast : Scanner} {taken text left otherLeft : Text}
    {values others : List Value} (drains : Drains scanner taken text last values left)
    (drainsOther : Drains scanner taken text otherLast others otherLeft) :
    last = otherLast ∧ values = others ∧ left = otherLeft := by
  have same := (drain_of_drains drains).symm.trans (drain_of_drains drainsOther)
  simp only [Prod.mk.injEq, Except.ok.injEq] at same
  exact same

/-- What was taken of an array that is not complete is drained again as a whole. -/
theorem Tracks.drains_taken {scanner : Scanner} {taken : Text} (tracks : Tracks scanner taken) :
    Drains .outside [] taken.reverse scanner [] taken := by
  rcases tracks.begun with rfl | ⟨rest, same, above⟩
  · rw [tracks.scanned]
    exact .done
  · have drainsRest := drains_of_above [.char '['] (Nat.le_refl 1) above
    have isTaken : taken = rest.reverse ++ [.char '['] := by
      rw [← List.reverse_cons, ← same, List.reverse_reverse]
    have scanned := tracks.scanned
    rw [same] at scanned ⊢
    rw [scanned, isTaken]
    exact .opens rfl drainsRest

/-- A bracket that makes an array of the text taken completes it. -/
theorem Tracks.drains_end {scanner : Scanner} {taken : Text} {value : Value}
    (tracks : Tracks scanner taken)
    (isRead : Json.read (taken.reverse ++ [.char ']']) = .ok value) :
    Drains scanner taken [.char ']'] .outside [value] [] := by
  rcases tracks.begun with rfl | ⟨rest, same, above⟩
  · cases isRead
  · rw [same, List.cons_append] at isRead
    obtain ⟨-, denotes⟩ := denotes_of_read_end (by decide) isRead
    have drainsArray := drains_array denotes
    rw [← List.cons_append, ← same] at drainsArray
    obtain ⟨middle, before, kept, after, drainsTaken, drainsEnd, isValue⟩ :=
      exists_drains_of_append taken.reverse drainsArray
    obtain ⟨rfl, rfl, rfl⟩ := drains_unique drainsTaken tracks.drains_taken
    rw [isValue]
    exact drainsEnd

namespace Stream

/-! ## States between pieces -/

/-- The states that a stream is in after pieces that were taken without an error. -/
inductive Reached : Stream → Prop
  | start : Reached start
  | fed {stream next : Stream} {bytes : Bytes} {values : List Value} (before : Reached stream)
      (taken : stream.feed bytes = (next, .ok values)) : Reached next

namespace Reached

variable {stream : Stream}

theorem ready (reached : stream.Reached) : stream.unscanned = [] := by
  cases reached with
  | start => rfl
  | fed before taken =>
      obtain ⟨text, -, -, isReady⟩ := (feed_eq_ok_iff ..).mp taken
      exact isReady

theorem tracks (reached : stream.Reached) : Tracks stream.scanner stream.scanned := by
  induction reached with
  | start => exact tracks_outside
  | fed before taken ih =>
      obtain ⟨text, -, drains, -⟩ := (feed_eq_ok_iff ..).mp taken
      rw [before.ready] at drains
      exact ih.drains drains

theorem held (reached : stream.Reached) : Utf8.Held stream.pending := by
  induction reached with
  | start => exact .none
  | fed before taken ih =>
      obtain ⟨text, decoded, -, -⟩ := (feed_eq_ok_iff ..).mp taken
      obtain ⟨chars, -, -, isHeld⟩ := Utf8.encodeChars_of_decodeMore ih decoded
      exact isHeld

theorem buffer_eq (reached : stream.Reached) : stream.buffer = stream.scanned.reverse := by
  rw [buffer, reached.ready, List.append_nil]

end Reached

/-! ## Two parts of a piece -/

theorem feed_eq_ok_iff_feedAll (stream last : Stream) (piece : Bytes) (values : List Value) :
    stream.feed piece = (last, .ok values) ↔ stream.feedAll [piece] = (last, .ok values) := by
  rw [feedAll_cons_eq_ok_iff]
  constructor
  · intro fed
    exact ⟨last, values, [], fed, rfl, (List.append_nil values).symm⟩
  · rintro ⟨next, before, after, fed, isLast, rfl⟩
    cases isLast
    rw [List.append_nil]
    exact fed

theorem feed_append_eq_ok_iff {stream : Stream} (reached : stream.Reached) (first second : Bytes)
    (last : Stream) (values : List Value) :
    stream.feed (first ++ second) = (last, .ok values) ↔
      ∃ next before after, stream.feed first = (next, .ok before) ∧
        next.feed second = (last, .ok after) ∧ values = before ++ after := by
  have sameBytes : [first ++ second].flatten = [first, second].flatten := by simp
  rw [feed_eq_ok_iff_feedAll, feedAll_eq_ok_iff _ _ reached.ready, sameBytes,
    ← feedAll_eq_ok_iff _ _ reached.ready, feedAll_cons_eq_ok_iff]
  simp only [← feed_eq_ok_iff_feedAll]

/-! ## One byte -/

/-- The byte ends the array that the stream is in, and the array's value is this. -/
structure Completes (stream : Stream) (byte : UInt8) (value : Value) : Prop where
  betweenCharacters : stream.pending = []
  isBracket : byte = 0x5D
  isRead : Json.read (stream.buffer ++ [.char ']']) = .ok value

theorem feed_of_completes {stream : Stream} (reached : stream.Reached) {byte : UInt8}
    {value : Value} (completes : stream.Completes byte value) :
    stream.feed [byte] = (start, .ok [value]) := by
  obtain ⟨noBytes, rfl, isRead⟩ := completes
  rw [reached.buffer_eq] at isRead
  rw [feed_eq_ok_iff, reached.ready, noBytes]
  exact ⟨[.char ']'], rfl, reached.tracks.drains_end isRead, rfl⟩

theorem completes_of_feed {stream next : Stream} (reached : stream.Reached) {byte : UInt8}
    {values : List Value} (fed : stream.feed [byte] = (next, .ok values)) :
    values = [] ∨ ∃ value, values = [value] ∧ stream.Completes byte value := by
  obtain ⟨pending, scanned, unscanned, scanner⟩ := next
  obtain ⟨text, decoded, drains, -⟩ := (feed_eq_ok_iff ..).mp fed
  rw [reached.ready, List.nil_append] at drains
  rcases (Utf8.decodeMore_cons_eq_ok_iff ..).mp decoded with
    ⟨c, more, stepped, isMore, rfl⟩ | ⟨held, -, isText⟩
  · cases isMore
    cases drains with
    | blank _ _ others =>
        cases others
        exact .inl rfl
    | opens _ others =>
        cases others
        exact .inl rfl
    | goesOn _ _ others =>
        cases others
        exact .inl rfl
    | closes inside completed isRead others =>
        cases others
        obtain ⟨rest, same, -, -⟩ := reached.tracks.exists_bracket inside
        have isArray := isRead
        rw [List.reverse_cons, same, List.cons_append] at isArray
        have notBlank : Json.isJsonBlank (.char c) = false := by
          rcases Scanner.isClosing_of_step inside completed with isBracket | isBrace
          · rw [isBracket]
            decide
          · rw [isBrace]
            decide
        obtain ⟨isBracket, -⟩ := denotes_of_read_end notBlank isArray
        cases isBracket
        -- The bracket is one byte long, so no other byte was held before it.
        have isByte : [] ++ [0x5D] = stream.pending ++ [byte] :=
          (Utf8.step_of_held reached.held byte).1 _ stepped
        obtain ⟨noBytes, same⟩ := List.append_inj' isByte rfl
        refine .inr ⟨_, rfl, noBytes.symm, (List.cons.inj same).1.symm, ?_⟩
        rw [reached.buffer_eq, ← List.reverse_cons]
        exact isRead
  · cases isText
    cases drains
    exact .inl rfl

/-! ## Each value with its last byte -/

theorem exists_completes_of_feed {stream last : Stream} (reached : stream.Reached) {bytes : Bytes}
    {before after : List Value} {value : Value}
    (fed : stream.feed bytes = (last, .ok (before ++ value :: after))) :
    ∃ front byte back middle, bytes = front ++ byte :: back ∧
      stream.feed front = (middle, .ok before) ∧ middle.Completes byte value := by
  induction bytes generalizing stream before with
  | nil =>
      rw [feed_nil stream reached.ready] at fed
      simp at fed
  | cons byte rest ih =>
      obtain ⟨next, first, others, fedByte, fedRest, same⟩ :=
        (feed_append_eq_ok_iff reached [byte] rest ..).mp fed
      have nextReached : next.Reached := .fed reached fedByte
      -- A place further on is found in the rest, and the byte is put in front of what leads there.
      have further {earlier : List Value} (isFurther : others = earlier ++ value :: after) :
          ∃ front ending back middle, byte :: rest = front ++ ending :: back ∧
            stream.feed front = (middle, .ok (first ++ earlier)) ∧
              middle.Completes ending value := by
        rw [isFurther] at fedRest
        obtain ⟨front, ending, back, middle, rfl, fedFront, completes⟩ := ih nextReached fedRest
        refine ⟨byte :: front, ending, back, middle, rfl, ?_, completes⟩
        exact (feed_append_eq_ok_iff reached [byte] front ..).mpr
          ⟨next, first, earlier, fedByte, fedFront, rfl⟩
      rcases completes_of_feed reached fedByte with rfl | ⟨found, rfl, completes⟩
      · exact further same.symm
      · cases before with
        | nil =>
            obtain ⟨rfl, -⟩ := List.cons.inj same
            exact ⟨[], byte, rest, stream, rfl, feed_nil stream reached.ready, completes⟩
        | cons head earlier =>
            obtain ⟨rfl, isRest⟩ := List.cons.inj same
            exact further isRest.symm

theorem exists_after_of_completes {stream middle last : Stream} (reached : stream.Reached)
    {front back : Bytes} {byte : UInt8} {before values : List Value} {value : Value}
    (fedFront : stream.feed front = (middle, .ok before)) (completes : middle.Completes byte value)
    (fed : stream.feed (front ++ byte :: back) = (last, .ok values)) :
    ∃ after, values = before ++ value :: after := by
  obtain ⟨next, first, others, fedFirst, fedOthers, rfl⟩ :=
    (feed_append_eq_ok_iff reached ..).mp fed
  cases fedFront.symm.trans fedFirst
  have middleReached : middle.Reached := .fed reached fedFront
  obtain ⟨_, found, after, fedByte, -, rfl⟩ :=
    (feed_append_eq_ok_iff middleReached [byte] back ..).mp fedOthers
  cases (feed_of_completes middleReached completes).symm.trans fedByte
  exact ⟨after, rfl⟩

/-- In every state reached without an error, taking two pieces is taking them as one: both ways
succeed alike, with the same values and the same last state. A value is among those of a piece
exactly if the piece has its last byte. -/
theorem feed_append_and_completes {stream : Stream} (reached : stream.Reached) :
    (∀ first second last values, stream.feed (first ++ second) = (last, .ok values) ↔
      ∃ next before after, stream.feed first = (next, .ok before) ∧
        next.feed second = (last, .ok after) ∧ values = before ++ after) ∧
    ∀ bytes last values, stream.feed bytes = (last, .ok values) → ∀ before value,
      (∃ after, values = before ++ value :: after) ↔
        ∃ front byte back middle, bytes = front ++ byte :: back ∧
          stream.feed front = (middle, .ok before) ∧ middle.Completes byte value := by
  refine ⟨fun first second last values => feed_append_eq_ok_iff reached first second last values,
    ?_⟩
  intro bytes last values fed before value
  constructor
  · rintro ⟨after, rfl⟩
    exact exists_completes_of_feed reached fed
  · rintro ⟨front, byte, back, middle, rfl, fedFront, completes⟩
    exact exists_after_of_completes reached fedFront completes fed

/-- In a string of an array, after the first of two bytes of a character. -/
def insideCharacter : Stream := ⟨[0xC3], [.char '"', .char '['], [], ⟨1, true, false⟩⟩

/-- A cut inside a character, one after a backslash, and another array begun behind the one
completed. -/
theorem feed_insideCharacter :
    insideCharacter.Reached ∧
      (∃ next before after, insideCharacter.feed [0xA9, 0x5C] = (next, .ok before) ∧
        next.feed
          [0x22, 0x22, 0x5D, 0x20, 0x5B] = (⟨[], [.char '['], [], ⟨1, false, false⟩⟩, .ok after) ∧
        [Value.array [.string "é\""]] = before ++ after) ∧
      ∃ front byte back middle, [0xA9, 0x5C] ++
        [0x22, 0x22, 0x5D, 0x20, 0x5B] = front ++ byte :: back ∧
        insideCharacter.feed front = (middle, .ok []) ∧
        middle.Completes byte (.array [.string "é\""]) := by
  have reached : insideCharacter.Reached :=
    .fed .start (show start.feed [0x5B, 0x22, 0xC3] = (insideCharacter, .ok []) from rfl)
  have fed : insideCharacter.feed ([0xA9, 0x5C] ++ [0x22, 0x22, 0x5D, 0x20, 0x5B]) =
      (⟨[], [.char '['], [], ⟨1, false, false⟩⟩, .ok [.array [.string "é\""]]) :=
    (feed_eq_ok_iff ..).mpr ⟨"é\\\"\"] [", by decide +kernel, drains_of_drain rfl, rfl⟩
  obtain ⟨cut, completion⟩ := feed_append_and_completes reached
  exact ⟨reached, (cut _ _ _ _).mp fed, (completion _ _ _ fed [] _).mp ⟨[], rfl⟩⟩

end Stream

end ChangeImpact.Wire
