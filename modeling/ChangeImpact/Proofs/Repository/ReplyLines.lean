import ChangeImpact.Proofs.Text.Lines
import ChangeImpact.Proofs.Text.Utf8
import ChangeImpact.Repository.Diff
/-!
# Decoding keeps the lines of a reply

A line feed is never part of a malformed sequence: whatever bytes the machine holds, it replaces
them and reads the line feed by itself. So decoding a reply is decoding each of its lines, and a
line that is not UTF-8 has no effect on another.
-/
set_option autoImplicit false

namespace ChangeImpact

namespace Utf8

/-- The byte that ends a line. -/
def lineFeed : UInt8 := 0x0A

/-! ## A line feed interrupts what is held -/

theorem decodeNextLossy_lineFeed (pending : Bytes) :
    decodeNextLossy pending lineFeed = (replaced pending ++ [.char '\n'], []) := by
  have notTail : isTail lineFeed = false := by decide
  have notSecond (first : UInt8) : fitsSecond first lineFeed = false := by
    rw [fitsSecond, notTail, Bool.false_and]
  have notSurrogate (first : UInt8) : beginsSurrogate first lineFeed = false := by
    rw [Bool.eq_false_iff, ne_eq, beginsSurrogate_iff]
    intro bounds
    exact absurd bounds.2.1 (by decide)
  have first : decodeFirstLossy lineFeed = ([.char '\n'], []) := by decide
  rcases pending with _ | ⟨lead, _ | ⟨second, _ | ⟨third, more⟩⟩⟩
  · exact first
  · have stepped : step [lead] lineFeed = .badContinuation 1 := by
      simp [step, notTail, notSecond, notSurrogate]
    rw [decodeNextLossy, stepped, first]
  · have stepped : ∃ bad, step [lead, second] lineFeed = .badContinuation bad := by
      by_cases surrogate : beginsSurrogate lead second = true
      · exact ⟨1, by simp [step, surrogate]⟩
      · exact ⟨2, by simp [step, surrogate, notTail]⟩
    obtain ⟨bad, stepped⟩ := stepped
    rw [decodeNextLossy, stepped, first]
  · have stepped : step (lead :: second :: third :: more) lineFeed = .badContinuation 3 := by
      simp [step, notTail]
    rw [decodeNextLossy, stepped, first]

theorem decodeLossyFrom_append_lineFeed (pending line rest : Bytes) :
    decodeLossyFrom pending (line ++ lineFeed :: rest) =
      decodeLossyFrom pending line ++ .char '\n' :: decodeLossy rest := by
  induction line generalizing pending with
  | nil =>
      simp only [List.nil_append, decodeLossyFrom, decodeNextLossy_lineFeed, List.append_assoc,
        List.singleton_append, decodeLossy]
  | cons b line ih =>
      simp only [List.cons_append, decodeLossyFrom, ih, List.append_assoc]

theorem decodeLossy_intercalate {lines : List Bytes} (nonEmpty : lines ≠ []) :
    decodeLossy ([lineFeed].intercalate lines) =
      [CodePoint.char '\n'].intercalate (lines.map decodeLossy) := by
  induction lines with
  | nil => exact absurd rfl nonEmpty
  | cons line others ih =>
      cases others with
      | nil => simp
      | cons next more =>
          rw [List.map_cons, List.map_cons, List.intercalate_cons_cons, List.intercalate_cons_cons,
            ← List.map_cons, ← ih (by simp), List.append_assoc, List.append_assoc,
            List.singleton_append, List.singleton_append, decodeLossy,
            decodeLossyFrom_append_lineFeed]
          rfl

/-! ## Nothing else becomes a line end -/

theorem eq_lineFeed_of_encodeChar {pending : Bytes} {b : UInt8}
    (encoded : encodeChar '\n' = pending ++ [b]) : b = lineFeed := by
  have single : encodeChar '\n' = [lineFeed] := by decide
  rw [single] at encoded
  have same : [lineFeed].getLast? = (pending ++ [b]).getLast? := congrArg List.getLast? encoded
  simpa using same.symm

/-- What one byte gives: no line end unless it is a line feed, bytes that can be held, and either
text or bytes held. -/
structure GoesOn (b : UInt8) (read : Text × Bytes) : Prop where
  noEnd : b ≠ lineFeed → .char '\n' ∉ read.1
  held : Held read.2
  progress : read.1 = [] → read.2 ≠ []

theorem lineEnd_notMem_replaced (pending : Bytes) : .char '\n' ∉ replaced pending := by
  unfold replaced
  split
  · exact List.not_mem_nil
  · split <;> decide
  · decide

theorem goesOn_scalar {pending : Bytes} (before : Held pending) {b : UInt8} {c : Char}
    (stepped : step pending b = .scalar c) : GoesOn b ([.char c], []) where
  noEnd := by
    intro different member
    have isEnd : '\n' = c := by simpa using member
    subst isEnd
    exact different (eq_lineFeed_of_encodeChar ((step_of_held before b).1 _ stepped))
  held := .none
  progress := by intro empty; cases empty

theorem goesOn_hold {pending : Bytes} (before : Held pending) {b : UInt8} {held : Bytes}
    (stepped : step pending b = .hold held) : GoesOn b ([], held) := by
  obtain ⟨same, isHeld⟩ := (step_of_held before b).2 held stepped
  refine ⟨fun _ => List.not_mem_nil, isHeld, fun _ => ?_⟩
  rw [same]
  simp

theorem goesOn_replacement (b : UInt8) : GoesOn b ([replacement], []) where
  noEnd := by intro _; decide
  held := .none
  progress := by intro empty; cases empty

theorem GoesOn.after {b : UInt8} {read : Text × Bytes} (goesOn : GoesOn b read) (pending : Bytes) :
    GoesOn b (replaced pending ++ read.1, read.2) where
  noEnd := by
    intro different member
    rcases List.mem_append.mp member with inReplaced | inRead
    · exact lineEnd_notMem_replaced pending inReplaced
    · exact goesOn.noEnd different inRead
  held := goesOn.held
  progress := by
    intro empty
    exact goesOn.progress (List.append_eq_nil_iff.mp empty).2

theorem goesOn_decodeFirstLossy (b : UInt8) : GoesOn b (decodeFirstLossy b) := by
  unfold decodeFirstLossy
  split
  · rename_i c stepped
    exact goesOn_scalar .none stepped
  · rename_i held stepped
    exact goesOn_hold .none stepped
  · exact goesOn_replacement b

theorem goesOn_decodeNextLossy {pending : Bytes} (before : Held pending) (b : UInt8) :
    GoesOn b (decodeNextLossy pending b) := by
  unfold decodeNextLossy
  split
  · rename_i c stepped
    exact goesOn_scalar before stepped
  · rename_i held stepped
    exact goesOn_hold before stepped
  · exact goesOn_replacement b
  · exact (goesOn_decodeFirstLossy b).after pending

theorem lineEnd_notMem_decodeLossyFrom {pending line : Bytes} (before : Held pending)
    (whole : lineFeed ∉ line) : .char '\n' ∉ decodeLossyFrom pending line := by
  induction line generalizing pending with
  | nil => exact lineEnd_notMem_replaced pending
  | cons b rest ih =>
      obtain ⟨different, wholeRest⟩ := not_or.mp (mt List.mem_cons.mpr whole)
      have goesOn := goesOn_decodeNextLossy before b
      rw [decodeLossyFrom, List.mem_append, not_or]
      exact ⟨goesOn.noEnd (Ne.symm different), ih goesOn.held wholeRest⟩

theorem replaced_eq_nil_iff (pending : Bytes) : replaced pending = [] ↔ pending = [] := by
  unfold replaced
  split
  · simp
  · split <;> simp
  · rename_i notEmpty _
    simpa using notEmpty

theorem eq_nil_of_decodeLossyFrom {pending bytes : Bytes} (before : Held pending)
    (empty : decodeLossyFrom pending bytes = []) : pending = [] ∧ bytes = [] := by
  induction bytes generalizing pending with
  | nil => exact ⟨(replaced_eq_nil_iff pending).mp empty, rfl⟩
  | cons b rest ih =>
      have goesOn := goesOn_decodeNextLossy before b
      rw [decodeLossyFrom, List.append_eq_nil_iff] at empty
      have nothingHeld := (ih goesOn.held empty.2).1
      exact absurd nothingHeld (goesOn.progress empty.1)

@[simp] theorem decodeLossy_eq_nil_iff (bytes : Bytes) : decodeLossy bytes = [] ↔ bytes = [] := by
  constructor
  · intro empty
    exact (eq_nil_of_decodeLossyFrom .none empty).2
  · intro empty
    rw [empty]
    rfl

/-- The pieces of decoded bytes are the pieces of the bytes, decoded one by one. -/
theorem pieces_decodeLossy (bytes : Bytes) :
    Lines.pieces (.char '\n') (decodeLossy bytes) =
      (Lines.pieces lineFeed bytes).map decodeLossy := by
  have nonEmpty := Lines.pieces_ne_nil lineFeed bytes
  have whole : ∀ line ∈ (Lines.pieces lineFeed bytes).map decodeLossy, .char '\n' ∉ line := by
    intro line member
    obtain ⟨piece, isPiece, rfl⟩ := List.mem_map.mp member
    exact lineEnd_notMem_decodeLossyFrom .none (Lines.notMem_of_mem_pieces isPiece)
  calc Lines.pieces (.char '\n') (decodeLossy bytes)
    _ = Lines.pieces (.char '\n') (decodeLossy
      ([lineFeed].intercalate (Lines.pieces lineFeed bytes))) := by
        rw [Lines.intercalate_pieces]
    _ = Lines.pieces (.char '\n')
          ([.char '\n'].intercalate ((Lines.pieces lineFeed bytes).map decodeLossy)) := by
        rw [decodeLossy_intercalate nonEmpty]
    _ = (Lines.pieces lineFeed bytes).map decodeLossy :=
        Lines.pieces_intercalate (by simpa using nonEmpty) whole

theorem getLast?_decodeLossy_iff (bytes : Bytes) :
    (decodeLossy bytes).getLast? = some (.char '\n') ↔ bytes.getLast? = some lineFeed := by
  have sameEnd := Lines.getLast?_pieces_iff (.char '\n') (decodeLossy bytes)
  have bytesEnd := Lines.getLast?_pieces_iff lineFeed bytes
  rw [pieces_decodeLossy, List.getLast?_map, Option.map_eq_some_iff] at sameEnd
  by_cases empty : bytes = []
  · simp [empty, decodeLossy, decodeLossyFrom, replaced]
  · simpa [empty, bytesEnd] using sameEnd.symm

end Utf8

/-! ## The text of a reply -/

namespace DiffRequest

open Utf8 (Bytes lineFeed decodeLossy decodeLossy_eq_nil_iff getLast?_decodeLossy_iff
  decodeLossyFrom_append_lineFeed pieces_decodeLossy)

/-- The bytes of a reply with a line feed at their end, unless there are none. -/
def endBytes (raw : Bytes) : Bytes :=
  if raw = [] ∨ raw.getLast? = some lineFeed then raw else raw ++ [lineFeed]

theorem endLine_eq_nil_iff (text : Text) : endLine text = [] ↔ text = [] := by
  unfold endLine
  split
  · rfl
  · rename_i unended
    simp only [Bool.or_eq_true, List.isEmpty_iff, not_or] at unended
    simp [unended.1]

theorem getLast?_endLine {text : Text} (nonEmpty : text ≠ []) :
    (endLine text).getLast? = some (.char '\n') := by
  unfold endLine
  split
  · rename_i ended
    simpa [nonEmpty] using ended
  · exact List.getLast?_concat

theorem endLine_decodeLossy (raw : Bytes) :
    endLine (decodeLossy raw) = decodeLossy (endBytes raw) := by
  have sameEnd : (decodeLossy raw = [] ∨ (decodeLossy raw).getLast? = some (.char '\n')) ↔
      (raw = [] ∨ raw.getLast? = some lineFeed) := by
    rw [decodeLossy_eq_nil_iff, getLast?_decodeLossy_iff]
  unfold endLine endBytes
  by_cases ended : raw = [] ∨ raw.getLast? = some lineFeed
  · rw [if_pos ended, if_pos (by simpa using sameEnd.mpr ended)]
  · rw [if_neg ended, if_neg (by simpa using mt sameEnd.mp ended)]
    exact (decodeLossyFrom_append_lineFeed [] raw []).symm

/-- The text of a reply is empty exactly if the reply is, ends with a line end otherwise, and has
for its lines the lines of the reply, each decoded by itself. -/
theorem text_decodes_lines (request : DiffRequest) (raw : Bytes) :
    ∃ text, request.text (.bytes raw) = .ok text ∧
      (text = [] ↔ raw = []) ∧
      (raw ≠ [] → text.getLast? = some (.char '\n')) ∧
      Lines.pieces (.char '\n') text = (Lines.pieces lineFeed (endBytes raw)).map decodeLossy := by
  refine ⟨endLine (decodeLossy raw), rfl, ?_, ?_, ?_⟩
  · rw [endLine_eq_nil_iff, decodeLossy_eq_nil_iff]
  · intro nonEmpty
    apply getLast?_endLine
    rwa [ne_eq, decodeLossy_eq_nil_iff]
  · rw [endLine_decodeLossy, pieces_decodeLossy]

/-- A sequence that a line feed cuts off, and a line with malformed bytes at both its ends. -/
def brokenReply : Bytes :=
  [0xE2, 0x82, lineFeed, 0xF0, 0x41, 0x80]

theorem text_decodes_brokenReply :
    brokenReply ≠ [] ∧
      ∃ text, DiffRequest.text ⟨"a", "b", 3⟩ (.bytes brokenReply) = .ok text ∧
        text.getLast? = some (.char '\n') ∧
        Lines.pieces (.char '\n') text =
          [[Utf8.replacement], [Utf8.replacement, .char 'A', Utf8.replacement], []] := by
  have nonEmpty : brokenReply ≠ [] := by decide
  obtain ⟨text, isText, -, ended, lines⟩ := text_decodes_lines ⟨"a", "b", 3⟩ brokenReply
  refine ⟨nonEmpty, text, isText, ended nonEmpty, ?_⟩
  rw [lines]
  decide

end DiffRequest

end ChangeImpact
