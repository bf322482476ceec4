import Mathlib.Data.List.TakeWhile
import ChangeImpact.Proofs.Text.Utf8
import ChangeImpact.Proofs.Wire.Brackets
/-!
# Feeding a stream in pieces

A drain that meets no error is a derivation of `Drains`, one rule for each thing that a code point
can do. From it follows that draining two texts one after the other is draining both as one, and
that the state between two pieces is always what a scan of the text kept gives. So a stream fed in
pieces is in the state of one that is fed all bytes at once.
-/
set_option autoImplicit false

namespace ChangeImpact.Wire

open Json (Value)
open Utf8 (Bytes)

/-! ## Draining -/

/-- A drain without an error, from a scanner and the text taken so far through more text to the last
scanner, with the values completed and the text left over. -/
inductive Drains : Scanner → Text → Text → Scanner → List Value → Text → Prop
  | done {scanner : Scanner} {taken : Text} : Drains scanner taken [] scanner [] taken
  | blank {scanner last : Scanner} {taken rest left : Text} {values : List Value}
      {point : CodePoint} (outside : scanner.depth = 0) (isBlank : Json.isJsonBlank point = true)
      (others : Drains scanner [] rest last values left) :
      Drains scanner taken (point :: rest) last values left
  | opens {scanner last : Scanner} {taken rest left : Text} {values : List Value}
      (outside : scanner.depth = 0)
      (others : Drains { scanner with depth := 1 } [.char '['] rest last values left) :
      Drains scanner taken (.char '[' :: rest) last values left
  | goesOn {scanner last : Scanner} {taken rest left : Text} {values : List Value}
      {point : CodePoint} (inside : scanner.depth ≠ 0)
      (stillInside : (scanner.step point).depth ≠ 0)
      (others : Drains (scanner.step point) (point :: taken) rest last values left) :
      Drains scanner taken (point :: rest) last values left
  | closes {scanner last : Scanner} {taken rest left : Text} {values : List Value}
      {point : CodePoint} {value : Value} (inside : scanner.depth ≠ 0)
      (completed : (scanner.step point).depth = 0)
      (isRead : Json.read (point :: taken).reverse = .ok value)
      (others : Drains (scanner.step point) [] rest last values left) :
      Drains scanner taken (point :: rest) last (value :: values) left

theorem drains_of_drain {scanner last : Scanner} {taken text left : Text} {values : List Value}
    (drained : Stream.drain scanner taken text = (last, .ok (values, left))) :
    Drains scanner taken text last values left := by
  fun_induction Stream.drain scanner taken text generalizing values with
  | case1 scanner taken =>
      simp only [Prod.mk.injEq, Except.ok.injEq] at drained
      obtain ⟨rfl, rfl, rfl⟩ := drained
      exact .done
  | case2 scanner taken point rest outside isBlank ih => exact .blank outside isBlank (ih drained)
  | case3 scanner taken rest outside _ ih => exact .opens outside (ih drained)
  | case4 => simp at drained
  | case5 => simp at drained
  | case6 scanner taken point rest inside next completed value isRead last others left tail =>
      rename_i ih
      simp only [Prod.mk.injEq, Except.ok.injEq] at drained
      obtain ⟨rfl, rfl, rfl⟩ := drained
      exact .closes inside completed isRead (ih tail)
  | case7 => simp at drained
  | case8 scanner taken point rest inside next stillInside =>
      rename_i ih
      exact .goesOn inside stillInside (ih drained)

theorem drain_of_drains {scanner last : Scanner} {taken text left : Text} {values : List Value}
    (drains : Drains scanner taken text last values left) :
    Stream.drain scanner taken text = (last, .ok (values, left)) := by
  induction drains with
  | done => rfl
  | blank outside isBlank _ ih => rw [Stream.drain, if_pos outside, if_pos isBlank, ih]
  | opens outside _ ih =>
      rw [Stream.drain, if_pos outside, if_neg (by decide), if_pos rfl, ih]
  | goesOn inside stillInside _ ih =>
      rw [Stream.drain, if_neg inside]
      simp only [if_neg stillInside, ih]
  | closes inside completed isRead _ ih =>
      rw [Stream.drain, if_neg inside]
      simp only [if_pos completed, isRead, ih]

/-- Draining two texts one after the other is draining both as one. -/
theorem drains_append_of_drains {scanner middle last : Scanner}
    {taken first kept second left : Text} {before after : List Value}
    (drainsFirst : Drains scanner taken first middle before kept)
    (drainsSecond : Drains middle kept second last after left) :
    Drains scanner taken (first ++ second) last (before ++ after) left := by
  induction drainsFirst with
  | done => exact drainsSecond
  | blank outside isBlank _ ih => exact .blank outside isBlank (ih drainsSecond)
  | opens outside _ ih => exact .opens outside (ih drainsSecond)
  | goesOn inside stillInside _ ih => exact .goesOn inside stillInside (ih drainsSecond)
  | closes inside completed isRead _ ih => exact .closes inside completed isRead (ih drainsSecond)

theorem exists_drains_of_append {scanner last : Scanner} {taken second left : Text} (first : Text)
    {values : List Value} (drains : Drains scanner taken (first ++ second) last values left) :
    ∃ middle before kept after, Drains scanner taken first middle before kept ∧
      Drains middle kept second last after left ∧ values = before ++ after := by
  induction first generalizing scanner taken values with
  | nil => exact ⟨scanner, [], taken, values, .done, drains, rfl⟩
  | cons point rest ih =>
      cases drains with
      | blank outside isBlank others =>
          obtain ⟨middle, before, kept, after, head, tail, same⟩ := ih others
          exact ⟨middle, before, kept, after, .blank outside isBlank head, tail, same⟩
      | opens outside others =>
          obtain ⟨middle, before, kept, after, head, tail, same⟩ := ih others
          exact ⟨middle, before, kept, after, .opens outside head, tail, same⟩
      | goesOn inside stillInside others =>
          obtain ⟨middle, before, kept, after, head, tail, same⟩ := ih others
          exact ⟨middle, before, kept, after, .goesOn inside stillInside head, tail, same⟩
      | closes inside completed isRead others =>
          obtain ⟨middle, before, kept, after, head, tail, rfl⟩ := ih others
          exact ⟨middle, _, kept, after, .closes inside completed isRead head, tail, rfl⟩

/-! ## Between two pieces -/

/-- The scanner is where a scan of the text kept ends, and that text is empty or begins an array
that no point of it completes. -/
structure Tracks (scanner : Scanner) (taken : Text) : Prop where
  scanned : scanner = Scanner.outside.run taken.reverse
  begun : taken = [] ∨
    ∃ rest, taken.reverse = .char '[' :: rest ∧ Scanner.Above 1 (.within 1) rest

theorem tracks_outside : Tracks .outside [] :=
  ⟨rfl, .inl rfl⟩

namespace Tracks

variable {scanner : Scanner} {taken : Text}

theorem regular (tracks : Tracks scanner taken) : scanner.Regular := by
  rw [tracks.scanned]
  exact Scanner.regular_run Scanner.regular_outside _

theorem taken_eq_nil (tracks : Tracks scanner taken) (outside : scanner.depth = 0) :
    taken = [] := by
  rcases tracks.begun with empty | ⟨rest, same, above⟩
  · exact empty
  · have scanned := tracks.scanned
    rw [same, Scanner.run_cons] at scanned
    have stillOpen : 1 ≤ ((Scanner.within 1).run rest).depth :=
      Scanner.le_depth_run_of_above (Nat.le_refl 1) above
    rw [scanned] at outside
    change ((Scanner.within 1).run rest).depth = 0 at outside
    omega

theorem eq_outside (tracks : Tracks scanner taken) (outside : scanner.depth = 0) :
    scanner = .outside := by
  rw [tracks.scanned, tracks.taken_eq_nil outside]
  rfl

theorem exists_bracket (tracks : Tracks scanner taken) (inside : scanner.depth ≠ 0) :
    ∃ rest, taken.reverse = .char '[' :: rest ∧ Scanner.Above 1 (.within 1) rest ∧
      scanner = (Scanner.within 1).run rest := by
  have scanned := tracks.scanned
  rcases tracks.begun with rfl | ⟨rest, same, above⟩
  · rw [scanned] at inside
    exact absurd rfl inside
  · rw [same] at scanned
    exact ⟨rest, same, above, scanned⟩

theorem goesOn (tracks : Tracks scanner taken) {point : CodePoint} (inside : scanner.depth ≠ 0)
    (stillInside : (scanner.step point).depth ≠ 0) :
    Tracks (scanner.step point) (point :: taken) := by
  obtain ⟨rest, same, above, scanned⟩ := tracks.exists_bracket inside
  have reversed : (point :: taken).reverse = .char '[' :: (rest ++ [point]) := by
    rw [List.reverse_cons, same, List.cons_append]
  refine ⟨?_, .inr ⟨rest ++ [point], reversed, ?_⟩⟩
  · rw [List.reverse_cons, Scanner.run_append, ← tracks.scanned]
    rfl
  · rw [Scanner.above_append, ← scanned]
    exact ⟨above, Nat.one_le_iff_ne_zero.mpr stillInside, trivial⟩

theorem drains {last : Scanner} {text left : Text} {values : List Value}
    (tracks : Tracks scanner taken) (drains : Drains scanner taken text last values left) :
    Tracks last left := by
  induction drains with
  | done => exact tracks
  | blank outside _ _ ih =>
      rw [tracks.taken_eq_nil outside] at tracks
      exact ih tracks
  | opens outside _ ih =>
      cases tracks.eq_outside outside
      exact ih ⟨rfl, .inr ⟨[], rfl, trivial⟩⟩
  | goesOn inside stillInside _ ih => exact ih (tracks.goesOn inside stillInside)
  | closes inside completed _ _ ih =>
      rw [Scanner.step_eq_outside tracks.regular inside completed] at ih
      exact ih tracks_outside

end Tracks

/-! ## All pieces -/

namespace Stream

/-- Takes in pieces one after the other, up to the first error, and gives all values completed. -/
def feedAll (stream : Stream) : List Bytes → Stream × Except StreamError (List Value)
  | [] => (stream, .ok [])
  | piece :: rest =>
      match stream.feed piece with
      | (next, .error error) => (next, .error error)
      | (next, .ok values) =>
          match feedAll next rest with
          | (last, .error error) => (last, .error error)
          | (last, .ok others) => (last, .ok (values ++ others))

def readAll (pieces : List Bytes) : Except StreamError (List Value) :=
  match start.feedAll pieces with
  | (_, .error error) => .error error
  | (last, .ok values) =>
      match last.close with
      | (_, .error error) => .error error
      | (_, .ok others) => .ok (values ++ others)

theorem feed_eq_ok_iff (stream next : Stream) (bytes : Bytes) (values : List Value) :
    stream.feed bytes = (next, .ok values) ↔
      ∃ text, Utf8.decodeMore stream.pending bytes = .ok (text, next.pending) ∧
        Drains stream.scanner stream.scanned (stream.unscanned ++ text) next.scanner values
          next.scanned ∧ next.unscanned = [] := by
  obtain ⟨pending, scanned, unscanned, scanner⟩ := next
  unfold feed takeText
  constructor
  · intro fed
    split at fed
    · simp at fed
    · rename_i text left decoded
      dsimp only at fed
      split at fed
      · rename_i last completed kept drained
        simp only [Prod.mk.injEq, Stream.mk.injEq, Except.ok.injEq] at fed
        obtain ⟨⟨rfl, rfl, rfl, rfl⟩, rfl⟩ := fed
        exact ⟨text, decoded, drains_of_drain drained, rfl⟩
      · simp at fed
  · rintro ⟨text, decoded, drains, rfl⟩
    simp only [decoded, drain_of_drains drains]

theorem feedAll_cons_eq_ok_iff (stream last : Stream) (piece : Bytes) (rest : List Bytes)
    (values : List Value) :
    stream.feedAll (piece :: rest) = (last, .ok values) ↔
      ∃ next before after, stream.feed piece = (next, .ok before) ∧
        next.feedAll rest = (last, .ok after) ∧ values = before ++ after := by
  rw [feedAll]
  constructor
  · intro fed
    split at fed
    · simp at fed
    · rename_i next before fedPiece
      split at fed
      · simp at fed
      · rename_i final after fedRest
        simp only [Prod.mk.injEq, Except.ok.injEq] at fed
        obtain ⟨rfl, rfl⟩ := fed
        exact ⟨next, before, after, fedPiece, fedRest, rfl⟩
  · rintro ⟨next, before, after, fedPiece, fedRest, rfl⟩
    simp only [fedPiece, fedRest]

/-- Feeding pieces is decoding and draining their bytes as a whole. -/
theorem feedAll_eq_ok_iff (stream last : Stream) (ready : stream.unscanned = [])
    (pieces : List Bytes) (values : List Value) :
    stream.feedAll pieces = (last, .ok values) ↔
      ∃ text, Utf8.decodeMore stream.pending pieces.flatten = .ok (text, last.pending) ∧
        Drains stream.scanner stream.scanned text last.scanner values last.scanned ∧
        last.unscanned = [] := by
  induction pieces generalizing stream values with
  | nil =>
      obtain ⟨pending, scanned, unscanned, scanner⟩ := last
      obtain ⟨pendingBefore, scannedBefore, unscannedBefore, scannerBefore⟩ := stream
      cases ready
      constructor
      · intro fed
        cases fed
        exact ⟨[], rfl, .done, rfl⟩
      · rintro ⟨text, decoded, drains, rfl⟩
        cases decoded
        cases drains
        rfl
  | cons piece rest ih =>
      rw [List.flatten_cons, feedAll_cons_eq_ok_iff]
      constructor
      · rintro ⟨next, before, after, fedPiece, fedRest, rfl⟩
        obtain ⟨text, decoded, drains, nextReady⟩ := (feed_eq_ok_iff ..).mp fedPiece
        obtain ⟨more, decodedMore, drainsMore, done⟩ := (ih next nextReady after).mp fedRest
        rw [ready] at drains
        refine ⟨text ++ more, ?_, drains_append_of_drains drains drainsMore, done⟩
        exact (Utf8.decodeMore_append_eq_ok_iff ..).mpr ⟨text, _, more, decoded, decodedMore, rfl⟩
      · rintro ⟨text, decoded, drains, done⟩
        obtain ⟨first, held, more, decodedFirst, decodedMore, rfl⟩ :=
          (Utf8.decodeMore_append_eq_ok_iff ..).mp decoded
        obtain ⟨middle, before, kept, after, drainsFirst, drainsMore, rfl⟩ :=
          exists_drains_of_append first drains
        -- A cut inside a character leaves bytes held, one inside an array leaves text kept.
        let next : Stream := ⟨held, kept, [], middle⟩
        have fedPiece : stream.feed piece = (next, .ok before) := by
          rw [feed_eq_ok_iff, ready]
          exact ⟨first, decodedFirst, drainsFirst, rfl⟩
        exact ⟨next, before, after, fedPiece, (ih next rfl after).mpr ⟨more, decodedMore,
          drainsMore, done⟩, rfl⟩

/-! ## The end -/

theorem trim_isEmpty_iff {scanner : Scanner} {taken : Text} (tracks : Tracks scanner taken) :
    (Text.trim taken.reverse).isEmpty = true ↔ taken = [] := by
  rcases tracks.begun with rfl | ⟨rest, same, -⟩
  · simp [Text.trim, Text.trimBy]
  · have notBlank : Text.isBlank (.char '[') = false := by decide
    have notEmpty : taken ≠ [] := by
      rintro rfl
      cases same
    rw [same, List.isEmpty_iff]
    simp [Text.trim, Text.trimBy, List.dropWhile_eq_nil_iff, notBlank, notEmpty]

theorem feed_nil (stream : Stream) (ready : stream.unscanned = []) :
    stream.feed [] = (stream, .ok []) :=
  (feed_eq_ok_iff ..).mpr ⟨[], rfl, by rw [ready]; exact .done, ready⟩

/-- Only a stream that is inside no character and no array ends without an error, and its end
completes nothing. -/
theorem close_eq_ok_iff (stream : Stream) (ready : stream.unscanned = [])
    (tracks : Tracks stream.scanner stream.scanned) (values : List Value) :
    (∃ last, stream.close = (last, .ok values)) ↔
      stream.pending = [] ∧ stream.scanned = [] ∧ values = [] := by
  have fed := stream.feed_nil ready
  have buffered : stream.buffer = stream.scanned.reverse := by
    rw [buffer, ready, List.append_nil]
  rw [← trim_isEmpty_iff tracks, ← Utf8.endError?_eq_none_iff 0]
  unfold close
  simp only [fed, buffered]
  constructor
  · rintro ⟨last, closed⟩
    split at closed
    · simp at closed
    · rename_i noError
      split at closed
      · rename_i isEmpty
        cases closed
        exact ⟨noError, isEmpty, rfl⟩
      · simp at closed
  · rintro ⟨noError, isEmpty, rfl⟩
    simp only [noError, isEmpty, if_true]
    exact ⟨stream, rfl⟩

/-- A reading to the end succeeds on the bytes of text that is drained without rest. -/
theorem readAll_eq_ok_iff (pieces : List Bytes) (values : List Value) :
    readAll pieces = .ok values ↔
      ∃ text, Utf8.decodeMore [] pieces.flatten = .ok (text, []) ∧
        Drains .outside [] text .outside values [] := by
  unfold readAll
  constructor
  · intro isRead
    split at isRead
    · simp at isRead
    · rename_i last before fed
      obtain ⟨text, decoded, drains, done⟩ := (feedAll_eq_ok_iff start last rfl ..).mp fed
      have tracks : Tracks last.scanner last.scanned := tracks_outside.drains drains
      split at isRead
      · simp at isRead
      · rename_i final after closed
        obtain ⟨noBytes, noText, rfl⟩ := (close_eq_ok_iff last done tracks after).mp ⟨final, closed⟩
        have outside : last.scanner = .outside := by
          rw [tracks.scanned, noText]
          rfl
        rw [noBytes] at decoded
        rw [noText, outside] at drains
        rw [List.append_nil, Except.ok.injEq] at isRead
        rw [← isRead]
        exact ⟨text, decoded, drains⟩
  · rintro ⟨text, decoded, drains⟩
    have fed : start.feedAll pieces = (start, .ok values) :=
      (feedAll_eq_ok_iff start start rfl ..).mpr ⟨text, decoded, drains, rfl⟩
    obtain ⟨last, closed⟩ := (close_eq_ok_iff start rfl tracks_outside []).mpr ⟨rfl, rfl, rfl⟩
    simp only [fed, closed, List.append_nil]

end Stream

end ChangeImpact.Wire
