import ChangeImpact.Proofs.Wire.Pieces
/-!
# What a stream holds between pieces

A stream that was fed pieces without an error holds the text of at most one array, from its first
bracket on, and knows of it what one scan from the bracket tells. The text fed is complete arrays
and then that text. So the text kept says whether an array was begun and not completed, and closing
the stream reports exactly that, unless it is inside a character.
-/
set_option autoImplicit false

namespace ChangeImpact.Wire

open Json (Value Denotes)
open Utf8 (Bytes)

/-! ## Arrays and the beginning of another -/

/-- The text is complete arrays, and then an array is begun that the text does not complete. -/
def EndsInside (text : Text) : Prop :=
  ∃ front values begun, text = front ++ .char '[' :: begun ∧ Arrays front values ∧
    ∀ part value, part <+: .char '[' :: begun → ¬ Denotes part (.value value)

/-- No front part of the text kept is a complete array. -/
theorem Tracks.not_denotes {scanner : Scanner} {taken part : Text} (tracks : Tracks scanner taken)
    (isFront : part <+: taken.reverse) (value : Value) : ¬ Denotes part (.value value) := by
  intro denotes
  obtain ⟨rest, isTaken⟩ := isFront
  obtain ⟨point, more, rfl, -⟩ := Json.exists_cons_of_denotes_value denotes
  have isBracket : point = .char '[' := by
    rcases tracks.begun with rfl | ⟨inner, same, -⟩
    · cases isTaken
    · exact (List.cons.inj (isTaken.trans same)).1
  subst isBracket
  have drainsTaken := tracks.drains_taken
  rw [← isTaken] at drainsTaken
  obtain ⟨middle, before, kept, after, drainsPart, -, none⟩ := exists_drains_of_append _ drainsTaken
  obtain ⟨rfl, -⟩ := List.append_eq_nil_iff.mp none.symm
  obtain ⟨-, same, -⟩ := drains_unique drainsPart (drains_array denotes)
  cases same

theorem exists_prefix_of_arrays {begun : Text} {values : List Value}
    (arrays : Arrays (.char '[' :: begun) values) :
    ∃ part value, part <+: .char '[' :: begun ∧ Denotes part (.value value) := by
  generalize isText : CodePoint.char '[' :: begun = text at arrays
  cases arrays with
  | done blank =>
      subst isText
      have isBlank := blank (.char '[') List.mem_cons_self
      cases isBlank
  | @more blanks part rest value _ blank denotes _ =>
      cases blanks with
      | nil => exact ⟨.char '[' :: part, value, List.prefix_append _ rest, denotes⟩
      | cons point others =>
          have isBlank := blank point List.mem_cons_self
          rw [← (List.cons.inj isText).1] at isBlank
          cases isBlank

/-- Text is left over from a drain exactly if an array is begun and not completed. -/
theorem endsInside_iff {last : Scanner} {text left : Text} {values : List Value}
    (drains : Drains .outside [] text last values left) : EndsInside text ↔ left ≠ [] := by
  constructor
  · rintro ⟨front, others, begun, rfl, arrays, notComplete⟩ rfl
    obtain ⟨middle, before, kept, after, drainsFront, drainsBegun, -⟩ :=
      exists_drains_of_append front drains
    obtain ⟨rfl, -, rfl⟩ := drains_unique drainsFront (drains_of_arrays arrays)
    obtain ⟨part, value, isFront, denotes⟩ :=
      exists_prefix_of_arrays (arrays_of_drains drainsBegun)
    exact notComplete part value isFront denotes
  · intro notEmpty
    have tracks := tracks_outside.drains drains
    obtain ⟨front, isText, arrays⟩ := exists_front_of_drains tracks_outside drains
    rcases tracks.begun with empty | ⟨begun, isLeft, -⟩
    · exact absurd empty notEmpty
    · rw [isLeft] at isText
      refine ⟨front, values, begun, isText, arrays, fun part value isFront => ?_⟩
      rw [← isLeft] at isFront
      exact tracks.not_denotes isFront value

namespace Stream

/-! ## Every state -/

/-- All text kept has been scanned, and its scan from the beginning ends in this state. There is
text exactly inside an array; it begins with the bracket of the array. Only what is in a string is
escaped, and a string is only inside an array. -/
structure Consistent (stream : Stream) : Prop where
  scannedAll : stream.scanned.length = stream.buffer.length
  rescanned : drain .outside [] stream.buffer = (stream.scanner, .ok ([], stream.scanned))
  outside_iff : stream.scanner.depth = 0 ↔ stream.buffer = []
  bracketFirst : stream.buffer ≠ [] → stream.buffer.head? = some (.char '[')
  escapedInString : stream.scanner.escaped = true → stream.scanner.inString = true
  stringInside : stream.scanner.inString = true → 0 < stream.scanner.depth

variable {stream : Stream}

theorem Reached.consistent (reached : stream.Reached) : stream.Consistent := by
  have tracks := reached.tracks
  have isEmpty_iff : stream.buffer = [] ↔ stream.scanned = [] := by
    rw [reached.buffer_eq, List.reverse_eq_nil_iff]
  have outside_of_empty (empty : stream.scanned = []) : stream.scanner = .outside := by
    rw [tracks.scanned, empty]
    rfl
  refine ⟨?_, ?_, ?_, ?_, tracks.regular, ?_⟩
  · rw [reached.buffer_eq, List.length_reverse]
  · rw [reached.buffer_eq]
    exact drain_of_drains tracks.drains_taken
  · rw [isEmpty_iff]
    refine ⟨tracks.taken_eq_nil, fun empty => ?_⟩
    rw [outside_of_empty empty]
    rfl
  · intro notEmpty
    rw [reached.buffer_eq]
    rcases tracks.begun with empty | ⟨rest, same, -⟩
    · exact absurd (isEmpty_iff.mpr empty) notEmpty
    · rw [same]
      rfl
  · intro inString
    rw [Nat.pos_iff_ne_zero]
    intro outside
    rw [tracks.eq_outside outside] at inString
    cases inString

theorem Reached.feedAll (reached : stream.Reached) {last : Stream} {pieces : List Bytes}
    {values : List Value} (fed : stream.feedAll pieces = (last, .ok values)) : last.Reached := by
  induction pieces generalizing stream values with
  | nil =>
      cases fed
      exact reached
  | cons piece rest ih =>
      obtain ⟨next, _, _, fedPiece, fedRest, -⟩ := (feedAll_cons_eq_ok_iff ..).mp fed
      exact ih (.fed reached fedPiece) fedRest

/-! ## Closing -/

/-- How a stream ends that is fed no more: inside a character, between arrays, or inside one. -/
theorem Reached.close_eq (reached : stream.Reached) :
    (stream.pending ≠ [] ∧ ∃ error, stream.close = (stream, .error (.notUtf8 error))) ∨
      (stream.pending = [] ∧ stream.buffer = [] ∧ stream.close = (stream, .ok [])) ∨
      (stream.pending = [] ∧ stream.buffer ≠ [] ∧
        stream.close = (stream, .error (.unfinished stream.buffer.length))) := by
  have trimmed : (Text.trim stream.buffer).isEmpty = true ↔ stream.buffer = [] := by
    rw [reached.buffer_eq, trim_isEmpty_iff reached.tracks, List.reverse_eq_nil_iff]
  unfold close
  simp only [stream.feed_nil reached.ready]
  cases ends : Utf8.endError? 0 stream.pending with
  | some error =>
      refine .inl ⟨?_, error, rfl⟩
      intro noBytes
      rw [(Utf8.endError?_eq_none_iff ..).mpr noBytes] at ends
      cases ends
  | none =>
      have noBytes := (Utf8.endError?_eq_none_iff ..).mp ends
      by_cases empty : stream.buffer = []
      · exact .inr (.inl ⟨noBytes, empty, if_pos (trimmed.mpr empty)⟩)
      · exact .inr (.inr ⟨noBytes, empty, if_neg (mt trimmed.mp empty)⟩)

/-- Every state that pieces lead to without an error is consistent, and holds of the text fed what
follows the arrays completed. Closing changes nothing; it reports bytes of a character if some are
held, else an array that was begun and not completed, and succeeds exactly if there is neither. -/
theorem feedAll_consistent_and_close {pieces : List Bytes} {values : List Value}
    (fed : start.feedAll pieces = (stream, .ok values)) :
    stream.Consistent ∧
      ∃ chars front, pieces.flatten = Utf8.encodeChars chars ++ stream.pending ∧
        Text.ofChars chars = front ++ stream.buffer ∧ Arrays front values ∧
        stream.close.1 = stream ∧
        (∀ count, stream.close.2 = .error (.unfinished count) ↔
          EndsInside (Text.ofChars chars) ∧ stream.pending = [] ∧ count = stream.buffer.length) ∧
        ((∃ error, stream.close.2 = .error (.notUtf8 error)) ↔ stream.pending ≠ []) ∧
        ∀ others, stream.close.2 = .ok others ↔
          stream.buffer = [] ∧ stream.pending = [] ∧ others = [] := by
  have reached : stream.Reached := Reached.start.feedAll fed
  obtain ⟨text, decoded, drains, -⟩ := (feedAll_eq_ok_iff start stream rfl ..).mp fed
  obtain ⟨chars, rfl, isBytes, -⟩ := Utf8.encodeChars_of_decodeMore .none decoded
  obtain ⟨front, isText, arrays⟩ := exists_front_of_drains tracks_outside drains
  have begun : EndsInside (Text.ofChars chars) ↔ stream.buffer ≠ [] := by
    rw [endsInside_iff drains, reached.buffer_eq, Ne, Ne, List.reverse_eq_nil_iff]
  rw [← reached.buffer_eq] at isText
  refine ⟨reached.consistent, chars, front, isBytes, isText, arrays, ?_⟩
  rw [begun]
  rcases reached.close_eq with ⟨bytes, error, closed⟩ | ⟨noBytes, empty, closed⟩ |
    ⟨noBytes, notEmpty, closed⟩
  · simp [closed, bytes]
  · simp [closed, noBytes, empty, eq_comm]
  · simp [closed, noBytes, notEmpty, eq_comm]

/-- In a string of the second array, after a backslash. -/
def afterBackslash : Stream := ⟨[], "\\\"[", [], ⟨1, true, true⟩⟩

theorem feedAll_consistent_afterBackslash :
    start.feedAll
      [[0x5B, 0x31, 0x5D, 0x20], [0x5B, 0x22, 0x5C]] = (afterBackslash, .ok [.array [.int 1]]) ∧
      afterBackslash.Consistent ∧
      ∃ chars, [0x5B, 0x31, 0x5D, 0x20, 0x5B, 0x22, 0x5C] = Utf8.encodeChars chars ++ [] ∧
        EndsInside (Text.ofChars chars) := by
  have fed : start.feedAll [[0x5B, 0x31, 0x5D, 0x20], [0x5B, 0x22, 0x5C]] =
      (afterBackslash, .ok [.array [.int 1]]) := rfl
  obtain ⟨consistent, chars, front, isBytes, -, -, -, unfinished, -⟩ :=
    feedAll_consistent_and_close fed
  have closed : afterBackslash.close.2 = .error (.unfinished 3) := rfl
  exact ⟨fed, consistent, chars, isBytes, ((unfinished 3).mp closed).1⟩

/-- After the bracket of an array and the first of two bytes of a character. -/
def bracketAndByte : Stream := ⟨[0xC3], [.char '['], [], ⟨1, false, false⟩⟩

/-- An array is begun and not completed, but closing reports the character. -/
theorem close_bracketAndByte :
    start.feedAll [[0x5B, 0xC3]] = (bracketAndByte, .ok []) ∧
      [0x5B, 0xC3] = Utf8.encodeChars ['['] ++ bracketAndByte.pending ∧
      EndsInside (Text.ofChars ['[']) ∧
      (∃ error, bracketAndByte.close.2 = .error (.notUtf8 error)) ∧
      ¬ ∃ count, bracketAndByte.close.2 = .error (.unfinished count) := by
  have drains : Drains .outside [] [.char '['] ⟨1, false, false⟩ [] [.char '['] :=
    drains_of_drain rfl
  refine ⟨rfl, by decide, (endsInside_iff drains).mpr (by simp), ⟨_, rfl⟩, ?_⟩
  rintro ⟨count, same⟩
  cases same

end Stream

end ChangeImpact.Wire
