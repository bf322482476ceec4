import ChangeImpact.Failure
import ChangeImpact.Proofs.Json.LongNumerals
import ChangeImpact.Proofs.Wire.Readings
/-!
# How the reading of a wire fails

Whatever bytes come, a reading ends without an error or with a failure of the analyzer, unless more
digits stand next to each other than are converted to a number. Then it may end with a failure that
the program does not foresee.
-/
set_option autoImplicit false

namespace ChangeImpact.Utf8

theorem encodeChars_append (first second : List Char) :
    encodeChars (first ++ second) = encodeChars first ++ encodeChars second :=
  List.flatMap_append

theorem toNat_of_isAsciiDigit {c : Char} (isDigit : Text.isAsciiDigit (.char c) = true) :
    0x30 ≤ c.toNat ∧ c.toNat ≤ 0x39 := by
  rw [Text.isAsciiDigit, Bool.and_eq_true, decide_eq_true_eq, decide_eq_true_eq] at isDigit
  exact isDigit

def isDigit (b : UInt8) : Bool :=
  0x30 ≤ b.toNat && b.toNat ≤ 0x39

theorem encodeChars_of_digits {chars : List Char}
    (areDigits : ∀ c ∈ chars, Text.isAsciiDigit (.char c) = true) :
    encodeChars chars = chars.map fun c => UInt8.ofNat c.toNat := by
  induction chars with
  | nil => rfl
  | cons c rest ih =>
      have isDigit := toNat_of_isAsciiDigit (areDigits c (by simp))
      have single : encodeChar c = [UInt8.ofNat c.toNat] := by
        unfold encodeChar
        exact if_pos (by omega)
      have others := ih fun other member => areDigits other (by simp [member])
      rw [List.map_cons, ← others, encodeChars, List.flatMap_cons, single]
      rfl

end ChangeImpact.Utf8

namespace ChangeImpact.Wire

open Json (Value)
open Numeral (LongDigits)
open Text (isAsciiDigit)
open Utf8 (Bytes)

/-! ## Text -/

theorem ofJson_eq_tooLong {error : Json.Error} {tooLong : Numeral.TooLong}
    (same : StreamError.ofJson error = .tooLong tooLong) : error = .tooLong tooLong := by
  cases error <;> cases same
  rfl

theorem suffix_reverse_append_cons (taken : Text) (point : CodePoint) (rest : Text) :
    rest <:+ taken.reverse ++ point :: rest :=
  (List.suffix_cons ..).trans (List.suffix_append ..)

theorem longNumeral_of_drain {scanner last : Scanner} {taken text : Text}
    {tooLong : Numeral.TooLong}
    (drained : Stream.drain scanner taken text = (last, .error (.tooLong tooLong))) :
    LongDigits isAsciiDigit (taken.reverse ++ text) tooLong.digits := by
  fun_induction Stream.drain scanner taken text with
  | case1 => simp at drained
  | case2 scanner taken point rest outside isBlank ih =>
      exact (ih drained).mono (suffix_reverse_append_cons taken point rest).isInfix
  | case3 scanner taken rest outside _ ih =>
      have inside : [CodePoint.char '['].reverse ++ rest <:+: taken.reverse ++ .char '[' :: rest :=
        (List.suffix_append ..).isInfix
      exact (ih drained).mono inside
  | case4 => simp at drained
  | case5 scanner taken point rest inside next completed error failed =>
      simp only [Prod.mk.injEq, Except.error.injEq] at drained
      rw [ofJson_eq_tooLong drained.2] at failed
      have inside : (point :: taken).reverse <:+: taken.reverse ++ point :: rest := by
        rw [List.reverse_cons, List.append_cons taken.reverse point rest]
        exact (List.prefix_append ..).isInfix
      exact (Json.longNumeral_of_read failed).mono inside
  | case6 => simp at drained
  | case7 scanner taken point rest inside next completed value isRead last error tail ih =>
      simp only [Prod.mk.injEq, Except.error.injEq] at drained
      obtain ⟨rfl, rfl⟩ := drained
      exact (ih tail).mono (suffix_reverse_append_cons taken point rest).isInfix
  | case8 scanner taken point rest inside next stillInside ih =>
      have long := ih drained
      rwa [List.reverse_cons, List.append_assoc] at long

/-- What a drain leaves over is the end of the text that it went through. -/
theorem suffix_of_drains {scanner last : Scanner} {taken text left : Text} {values : List Value}
    (drains : Drains scanner taken text last values left) :
    left.reverse <:+ taken.reverse ++ text := by
  induction drains with
  | done => simp
  | blank _ _ _ ih => exact ih.trans (suffix_reverse_append_cons ..)
  | opens _ _ ih => exact ih.trans (List.suffix_append ..)
  | goesOn _ _ _ ih => rwa [List.reverse_cons, List.append_assoc] at ih
  | closes _ _ _ _ ih => exact ih.trans (suffix_reverse_append_cons ..)

/-! ## Pieces -/

/-- A piece is refused for a numeral in the text kept before it and its own. -/
theorem exists_longNumeral_of_feed {stream next : Stream} {bytes : Bytes}
    {tooLong : Numeral.TooLong} (failed : stream.feed bytes = (next, .error (.tooLong tooLong))) :
    ∃ text held, Utf8.decodeMore stream.pending bytes = .ok (text, held) ∧
      LongDigits isAsciiDigit (stream.buffer ++ text) tooLong.digits := by
  unfold Stream.feed at failed
  split at failed
  · simp at failed
  · rename_i text held decoded
    unfold Stream.takeText at failed
    dsimp only at failed
    split at failed
    · simp at failed
    · rename_i last error drained
      simp only [Prod.mk.injEq, Except.error.injEq] at failed
      rw [failed.2] at drained
      have long := longNumeral_of_drain drained
      rw [← List.append_assoc] at long
      exact ⟨text, held, decoded, long⟩

theorem readValues_error_ne_stream (values : List Value) (error : StreamError) :
    (readValues values).error ≠ some (.stream error) := by
  induction values with
  | nil => simp [readValues]
  | cons value rest ih =>
      rw [readValues]
      cases isBatch : readBatch value with
      | error failure =>
          unfold readBatch at isBatch
          split at isBatch <;> cases isBatch
          simp
      | ok batch => exact ih

/-- A numeral that ends the reading stands in the text of the pieces up to there. -/
theorem exists_longNumeral_of_readPieces {stream last : Stream} {pieces : List Bytes}
    {reading : Reading} {tooLong : Numeral.TooLong}
    (isRead : readPieces stream pieces = (last, reading))
    (failed : reading.error = some (.stream (.tooLong tooLong))) :
    ∃ front text held, front <+: pieces.flatten ∧
      Utf8.decodeMore stream.pending front = .ok (text, held) ∧
      LongDigits isAsciiDigit (stream.buffer ++ text) tooLong.digits := by
  induction pieces generalizing stream reading with
  | nil =>
      cases isRead
      cases failed
  | cons piece rest ih =>
      rw [readPieces] at isRead
      split at isRead
      · rename_i next error fed
        cases isRead
        cases failed
        obtain ⟨text, held, decoded, long⟩ := exists_longNumeral_of_feed fed
        exact ⟨piece, text, held, List.prefix_append .., decoded, long⟩
      · rename_i next values fed
        dsimp only at isRead
        split at isRead
        · cases isRead
          exact absurd failed (readValues_error_ne_stream _ _)
        · cases isRead
          obtain ⟨front, text, held, isFront, decoded, long⟩ := ih rfl failed
          obtain ⟨before, decodedPiece, drains, done⟩ := (Stream.feed_eq_ok_iff ..).mp fed
          refine ⟨piece ++ front, before ++ text, held, ?_, ?_, ?_⟩
          · exact (List.prefix_append_right_inj piece).mpr isFront
          · exact (Utf8.decodeMore_append_eq_ok_iff ..).mpr
              ⟨before, _, text, decodedPiece, decoded, rfl⟩
          · have kept : next.buffer <:+ stream.buffer ++ before := by
              rw [Stream.buffer, done, List.append_nil, Stream.buffer, List.append_assoc]
              exact suffix_of_drains drains
            obtain ⟨dropped, same⟩ := kept
            rw [← List.append_assoc, ← same, List.append_assoc]
            exact long.mono (List.suffix_append ..).isInfix

/-! ## The end -/

theorem close_ne_tooLong (stream last : Stream) (ready : stream.unscanned = [])
    (tooLong : Numeral.TooLong) :
    stream.close ≠ (last, .error (.tooLong tooLong)) := by
  intro closed
  unfold Stream.close at closed
  simp only [stream.feed_nil ready] at closed
  split at closed
  · simp at closed
  · split at closed <;> simp at closed

theorem readEnd_error_ne_tooLong (stream : Stream) (ready : stream.unscanned = [])
    (tooLong : Numeral.TooLong) : (readEnd stream).error ≠ some (.stream (.tooLong tooLong)) := by
  intro failed
  unfold readEnd at failed
  split at failed
  · rename_i last error closed
    cases failed
    exact close_ne_tooLong stream last ready tooLong closed
  · exact readValues_error_ne_stream _ _ failed

theorem exists_longNumeral_of_readWire {pieces : List Bytes} {tooLong : Numeral.TooLong}
    (failed : (readWire pieces).error = some (.stream (.tooLong tooLong))) :
    ∃ front text held, front <+: pieces.flatten ∧ Utf8.decodeMore [] front = .ok (text, held) ∧
      LongDigits isAsciiDigit text tooLong.digits := by
  rcases isRead : readPieces .start pieces with ⟨last, reading⟩
  rw [readWire_of_readPieces isRead] at failed
  unfold Reading.andThen at failed
  cases first : reading.error with
  | some error =>
      rw [first] at failed
      cases failed
      exact exists_longNumeral_of_readPieces isRead first
  | none =>
      -- After the last piece all text is scanned, so the end of the stream reads no array.
      rw [first] at failed
      obtain ⟨values, fed, -⟩ := exists_feedAll_of_readPieces isRead first
      obtain ⟨text, -, -, ready⟩ := (Stream.feedAll_eq_ok_iff .start last rfl ..).mp fed
      exact absurd failed (readEnd_error_ne_tooLong last ready tooLong)

/-! ## Bytes -/

theorem longDigits_of_longNumeral {chars : List Char} {length : Nat}
    (long : LongDigits isAsciiDigit (Text.ofChars chars) length) :
    LongDigits Utf8.isDigit (Utf8.encodeChars chars) length := by
  obtain ⟨digits, ⟨before, after, same⟩, isLength, isLong, areDigits⟩ := long
  obtain ⟨front, last, rfl, isFront, -⟩ := List.map_eq_append_iff.mp same.symm
  obtain ⟨first, middle, rfl, -, rfl⟩ := List.map_eq_append_iff.mp isFront
  have areDigitChars : ∀ c ∈ middle, Text.isAsciiDigit (.char c) = true :=
    fun c member => areDigits _ (List.mem_map_of_mem member)
  rw [List.length_map] at isLength
  refine ⟨Utf8.encodeChars middle, ⟨Utf8.encodeChars first, Utf8.encodeChars last, ?_⟩, ?_, isLong,
    ?_⟩
  · rw [Utf8.encodeChars_append, Utf8.encodeChars_append]
  · rw [Utf8.encodeChars_of_digits areDigitChars, List.length_map, isLength]
  · intro b member
    rw [Utf8.encodeChars_of_digits areDigitChars] at member
    obtain ⟨c, isMember, rfl⟩ := List.mem_map.mp member
    have isDigit := Utf8.toNat_of_isAsciiDigit (areDigitChars c isMember)
    rw [Utf8.isDigit, UInt8.toNat_ofNat_of_lt' (Nat.lt_of_le_of_lt isDigit.2 (by decide))]
    simp [isDigit]

theorem longDigits_of_readWire {pieces : List Bytes} {tooLong : Numeral.TooLong}
    (failed : (readWire pieces).error = some (.stream (.tooLong tooLong))) :
    LongDigits Utf8.isDigit pieces.flatten tooLong.digits := by
  obtain ⟨front, text, held, isFront, decoded, long⟩ := exists_longNumeral_of_readWire failed
  obtain ⟨chars, rfl, isEncoded, -⟩ := Utf8.encodeChars_of_decodeMore .none decoded
  have inFront : Utf8.encodeChars chars <+: front := ⟨held, isEncoded.symm⟩
  exact (longDigits_of_longNumeral long).mono (inFront.trans isFront).isInfix

/-! ## Failures -/

theorem ofBatchError_cases (error : BatchError) :
    Failure.ofBatchError error = .analyzer error.message none [] ∨
      ∃ tooLong, error = .stream (.tooLong tooLong) ∧
        Failure.ofBatchError error = .numeralTooLong tooLong := by
  match error with
  | .stream (.tooLong tooLong) => exact .inr ⟨tooLong, rfl, rfl⟩
  | .stream (.notUtf8 _) => exact .inl rfl
  | .stream (.expectedArray _) => exact .inl rfl
  | .stream (.malformed _ _) => exact .inl rfl
  | .stream (.unfinished _) => exact .inl rfl
  | .invalidRecord _ => exact .inl rfl

/-- A wire that carries batches is read to its end. Any other ends with a failure of the analyzer
that says what is wrong, or it holds more digits next to each other than are converted, and then the
failure may be about their number instead. -/
theorem failure_of_readWire (pieces : List Bytes) :
    (∃ batches, Carries pieces.flatten batches ∧ readWire pieces = ⟨batches, none⟩) ∨
      ∃ error, (∀ batches, ¬Carries pieces.flatten batches) ∧ (readWire pieces).error = some error ∧
        (Failure.ofBatchError error = .analyzer error.message none [] ∨
          ∃ length, LongDigits Utf8.isDigit pieces.flatten length ∧
            Failure.ofBatchError error = .numeralTooLong ⟨length⟩) := by
  cases failed : (readWire pieces).error with
  | none =>
      obtain ⟨batches, carries⟩ := (readWire_error_eq_none_iff pieces).mp failed
      exact .inl ⟨batches, carries, (readWire_eq_iff ..).mpr carries⟩
  | some error =>
      have carriesNone : ∀ batches, ¬Carries pieces.flatten batches := by
        intro batches carries
        rw [(readWire_eq_iff ..).mpr carries] at failed
        cases failed
      refine .inr ⟨error, carriesNone, rfl, ?_⟩
      rcases ofBatchError_cases error with isAnalyzer | ⟨tooLong, rfl, isNumeral⟩
      · exact .inl isAnalyzer
      · exact .inr ⟨tooLong.digits, longDigits_of_readWire failed, isNumeral⟩

/-! ## An array of one long numeral -/

theorem drain_append_of_drains {scanner middle last : Scanner} {taken first kept second : Text}
    {before : List Value} {error : StreamError}
    (drains : Drains scanner taken first middle before kept)
    (failed : Stream.drain middle kept second = (last, .error error)) :
    Stream.drain scanner taken (first ++ second) = (last, .error error) := by
  induction drains with
  | done => exact failed
  | blank outside isBlank _ ih =>
      rw [List.cons_append, Stream.drain, if_pos outside, if_pos isBlank, ih failed]
  | opens outside _ ih =>
      rw [List.cons_append, Stream.drain, if_pos outside, if_neg (by decide), if_pos rfl, ih failed]
  | goesOn inside stillInside _ ih =>
      rw [List.cons_append, Stream.drain, if_neg inside]
      simp only [if_neg stillInside, ih failed]
  | closes inside completed isRead _ ih =>
      rw [List.cons_append, Stream.drain, if_neg inside]
      simp only [if_pos completed, isRead, ih failed]

section

variable {digit : Char} {digits : List Char}

theorem drain_of_long (areDigits : ∀ c ∈ digit :: digits, Text.isAsciiDigit (.char c) = true)
    (notZero : digit ≠ '0') (isLong : Numeral.digitLimit < (digit :: digits).length) :
    Stream.drain .outside [] (Text.ofChars ('[' :: (digit :: digits ++ [']']))) =
      (.outside, .error (.tooLong ⟨(digit :: digits).length⟩)) := by
  generalize isPoints : Text.ofChars digits = points
  have isText : Text.ofChars ('[' :: (digit :: digits ++ [']'])) =
      (.char '[' :: .char digit :: points) ++ [.char ']'] := by
    rw [← isPoints]
    exact Json.ofChars_append ('[' :: digit :: digits) [']']
  have sameLength : (.char digit :: points : Text).length = (digit :: digits).length := by
    rw [← isPoints, Text.ofChars, List.length_cons, List.length_map, List.length_cons]
  have arePoints : ∀ point ∈ .char digit :: points, Text.isAsciiDigit point = true := by
    intro point member
    have mapped : point ∈ (digit :: digits).map CodePoint.char := by rwa [← isPoints] at member
    obtain ⟨c, isMember, rfl⟩ := List.mem_map.mp mapped
    exact areDigits c isMember
  have balanced : Scanner.Balanced (.char digit :: points) :=
    Scanner.balanced_of_not_structural fun point member =>
      Scanner.not_isStructural_of_isNumberPoint
        (Json.isNumberPoint_of_isAsciiDigit (arePoints point member))
  obtain ⟨comesBack, above⟩ := balanced 1
  have drainsDigits := drains_of_above [.char '['] (Nat.le_refl 1) above
  rw [comesBack] at drainsDigits
  have opened : Drains .outside [] (.char '[' :: .char digit :: points) (.within 1) []
      ((.char digit :: points).reverse ++ [.char '[']) := .opens rfl drainsDigits
  have closing :
      Stream.drain (.within 1) ((.char digit :: points).reverse ++ [.char '[']) [.char ']'] =
      (.outside, .error (.tooLong ⟨(digit :: digits).length⟩)) := by
    have slice : (.char ']' :: ((.char digit :: points).reverse ++ [.char '['] : Text)).reverse =
        .char '[' :: (.char digit :: points ++ [.char ']']) := by simp
    have refused := Json.read_of_long arePoints (by simpa using notZero) (by rwa [sameLength])
    rw [Stream.drain, if_neg (by decide)]
    simp only [slice, refused, sameLength]
    rfl
  rw [isText]
  exact drain_append_of_drains opened closing

theorem readWire_of_long (areDigits : ∀ c ∈ digit :: digits, Text.isAsciiDigit (.char c) = true)
    (notZero : digit ≠ '0') (isLong : Numeral.digitLimit < (digit :: digits).length) :
    readWire [Utf8.encodeChars ('[' :: (digit :: digits ++ [']']))] =
      ⟨[], some (.stream (.tooLong ⟨(digit :: digits).length⟩))⟩ := by
  have decoded := Utf8.decodeMore_encodeChars ('[' :: (digit :: digits ++ [']']))
  have drained := drain_of_long areDigits notZero isLong
  simp only [readWire, readPieces, Stream.feed, Stream.start, decoded, Stream.takeText,
    List.nil_append, drained, Reading.andThen]

end

/-- An array of one number, with a digit more than are converted. -/
def longWire : Bytes :=
  Utf8.encodeChars ('[' :: '1' :: (List.replicate Numeral.digitLimit '1' ++ [']']))

/-- The wire is refused, but not with a failure of the analyzer. -/
theorem readWire_longWire :
    ∃ error, (readWire [longWire]).error = some error ∧
      (∀ text status tail, Failure.ofBatchError error ≠ .analyzer text status tail) ∧
      (Failure.ofBatchError error).disposition = .escapes := by
  have areDigits : ∀ c ∈ '1' :: List.replicate Numeral.digitLimit '1',
      Text.isAsciiDigit (.char c) = true := by
    intro c member
    rw [← List.replicate_succ] at member
    rw [List.eq_of_mem_replicate member]
    decide
  have isLong : Numeral.digitLimit < ('1' :: List.replicate Numeral.digitLimit '1').length := by
    rw [List.length_cons, List.length_replicate]
    exact Nat.lt_succ_self _
  have isRead := readWire_of_long areDigits (by decide) isLong
  exact ⟨_, congrArg Reading.error isRead, nofun, rfl⟩

end ChangeImpact.Wire
