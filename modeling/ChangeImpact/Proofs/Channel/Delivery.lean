import ChangeImpact.Channel.Pipe
/-!
# Every byte is delivered once

The reader and the analyzer move in any order. At every moment the pieces read and the bytes still
in the pipe are together what was written, and the reader stops only when the analyzer has ended and
the pipe is empty. So the pieces of a reader that has stopped are what the analyzer wrote, whatever
the order of moves. A reader that goes on after the end of the analyzer does stop.
-/
set_option autoImplicit false

namespace ChangeImpact.Channel

open Utf8 (Bytes)

namespace AnalyzerMove

/-- The bytes that these moves write, from a writer that is open or not. Nothing is written without
an open writer or after the end. -/
def bytesFrom : (writerOpen : Bool) → List AnalyzerMove → Bytes
  | _, [] => []
  | _, .openWriter :: rest => bytesFrom true rest
  | true, .write bytes :: rest => bytes ++ bytesFrom true rest
  | false, .write _ :: rest => bytesFrom false rest
  | _, .closeWriter :: rest => bytesFrom false rest
  | _, .finish :: _ => []

def bytes (moves : List AnalyzerMove) : Bytes :=
  bytesFrom false moves

end AnalyzerMove

def Move.ofAnalyzer (moves : List Move) : List AnalyzerMove :=
  moves.filterMap fun
    | .analyzer move => some move
    | .reader _ => none

namespace Exchange

variable {exchange : Exchange}

/-! ## One move -/

theorem take_cases (exchange : Exchange) (size : Nat) (next otherwise : Phase) :
    (exchange.buffer = [] ∧
      exchange.take size next otherwise = { exchange with phase := otherwise }) ∨
      ∃ piece rest, exchange.buffer = piece ++ rest ∧ piece ≠ [] ∧ piece.length ≤ readSize ∧
        exchange.take size next otherwise =
          { exchange with buffer := rest, phase := next, latest := piece :: exchange.latest } := by
  unfold take
  split
  · rename_i empty
    exact .inl ⟨empty, rfl⟩
  · rename_i first rest isBuffer
    right
    refine ⟨first :: rest.take (min size readSize - 1), rest.drop (min size readSize - 1),
      ?_, by simp, ?_, rfl⟩
    · rw [isBuffer, List.cons_append, List.take_append_drop]
    · have positive : 1 ≤ readSize := by decide
      simp only [List.length_cons, List.length_take]
      omega

/-- The reader leaves the side of the analyzer as it is. -/
theorem read_frame (exchange : Exchange) (luck : Luck) :
    (exchange.read luck).written = exchange.written ∧ (exchange.read luck).ended = exchange.ended ∧
      (exchange.read luck).writerOpen = exchange.writerOpen := by
  have taken (next otherwise : Phase) :
      (exchange.take luck.size next otherwise).written = exchange.written ∧
        (exchange.take luck.size next otherwise).ended = exchange.ended ∧
        (exchange.take luck.size next otherwise).writerOpen = exchange.writerOpen := by
    rcases take_cases exchange luck.size next otherwise with ⟨-, same⟩ | ⟨_, _, -, -, -, same⟩ <;>
      rw [same] <;> exact ⟨rfl, rfl, rfl⟩
  unfold read
  split
  · exact ⟨rfl, rfl, rfl⟩
  · exact taken ..
  · exact ⟨rfl, rfl, rfl⟩
  · exact taken ..
  · exact ⟨rfl, rfl, rfl⟩

/-- What holds between any two moves. -/
structure Delivers (exchange : Exchange) : Prop where
  whole : exchange.pieces.flatten ++ exchange.buffer = exchange.written
  fits : ∀ piece ∈ exchange.pieces, piece ≠ [] ∧ piece.length ≤ readSize
  ended : exchange.phase = .draining ∨ exchange.phase = .finished → exchange.ended = true
  drained : exchange.phase = .finished → exchange.buffer = []

theorem delivers_start : Delivers start where
  whole := rfl
  fits := by
    intro piece member
    cases member
  ended := by
    intro late
    rcases late with same | same <;> cases same
  drained := by
    intro same
    cases same

namespace Delivers

theorem moveTo (delivers : exchange.Delivers) (phase : Phase)
    (ended : phase = .draining ∨ phase = .finished → exchange.ended = true)
    (drained : phase = .finished → exchange.buffer = []) :
    Delivers { exchange with phase := phase } :=
  ⟨delivers.whole, delivers.fits, ended, drained⟩

theorem take (delivers : exchange.Delivers) (size : Nat) {next otherwise : Phase}
    (notLast : next ≠ .finished) (nextEnded : next = .draining → exchange.ended = true)
    (ended : otherwise = .draining ∨ otherwise = .finished → exchange.ended = true) :
    Delivers (exchange.take size next otherwise) := by
  rcases take_cases exchange size next otherwise with
    ⟨empty, same⟩ | ⟨piece, rest, isBuffer, notEmpty, short, same⟩
  · rw [same]
    exact delivers.moveTo otherwise ended fun _ => empty
  · have pieces :
        pieces { exchange with buffer := rest, phase := next, latest := piece :: exchange.latest } =
        exchange.pieces ++ [piece] := List.reverse_cons
    rw [same]
    refine ⟨?_, ?_, ?_, fun last => absurd last notLast⟩
    · rw [pieces, List.flatten_append, List.flatten_singleton, List.append_assoc, ← isBuffer]
      exact delivers.whole
    · intro other member
      rw [pieces] at member
      rcases List.mem_append.mp member with before | isPiece
      · exact delivers.fits other before
      · rw [List.mem_singleton.mp isPiece]
        exact ⟨notEmpty, short⟩
    · intro late
      rcases late with same | same
      · exact nextEnded same
      · exact absurd same notLast

theorem read (delivers : exchange.Delivers) (luck : Luck) : Delivers (exchange.read luck) := by
  unfold Exchange.read
  split
  · apply delivers.moveTo <;> split <;> simp
  · apply delivers.take <;> simp
  · -- The question is the only way to the last two phases, and it is asked before they begin.
    apply delivers.moveTo <;> split <;> simp_all
  · rename_i isPhase
    have ended := delivers.ended (.inl isPhase)
    exact delivers.take _ (by simp) (fun _ => ended) (fun _ => ended)
  · exact delivers

theorem analyze (delivers : exchange.Delivers) (move : AnalyzerMove) :
    Delivers (exchange.analyze move) := by
  cases move with
  | openWriter =>
      simp only [Exchange.analyze]
      split
      · exact delivers
      · exact ⟨delivers.whole, delivers.fits, delivers.ended, delivers.drained⟩
  | write bytes =>
      simp only [Exchange.analyze]
      split
      · exact delivers
      · rename_i allowed
        have running : exchange.ended = false := by
          simp only [Bool.or_eq_true, not_or, Bool.not_eq_true] at allowed
          exact allowed.1
        refine ⟨?_, delivers.fits, delivers.ended, ?_⟩
        · rw [← delivers.whole, List.append_assoc]
          rfl
        · -- An analyzer that can still write has not ended, so the reader has not finished.
          intro last
          have ended := delivers.ended (.inr last)
          rw [running] at ended
          cases ended
  | closeWriter => exact ⟨delivers.whole, delivers.fits, delivers.ended, delivers.drained⟩
  | finish => exact ⟨delivers.whole, delivers.fits, fun _ => rfl, delivers.drained⟩

theorem step (delivers : exchange.Delivers) (move : Move) : Delivers (exchange.step move) := by
  cases move with
  | analyzer move => exact delivers.analyze move
  | reader luck => exact delivers.read luck

theorem run (delivers : exchange.Delivers) (moves : List Move) : Delivers (exchange.run moves) := by
  induction moves generalizing exchange with
  | nil => exact delivers
  | cons move rest ih => exact ih (delivers.step move)

theorem flatten_pieces (delivers : exchange.Delivers) (finished : exchange.phase = .finished) :
    exchange.pieces.flatten = exchange.written := by
  rw [← delivers.whole, delivers.drained finished, List.append_nil]

end Delivers

/-! ## The side of the analyzer -/

theorem run_cons (exchange : Exchange) (move : Move) (rest : List Move) :
    exchange.run (move :: rest) = (exchange.step move).run rest := rfl

theorem run_of_ended (exchange : Exchange) (ended : exchange.ended = true) (moves : List Move) :
    (exchange.run moves).written = exchange.written ∧ (exchange.run moves).ended = true := by
  induction moves generalizing exchange with
  | nil => exact ⟨rfl, ended⟩
  | cons move rest ih =>
      have stepped : (exchange.step move).written = exchange.written ∧
          (exchange.step move).ended = true := by
        cases move with
        | reader luck =>
            obtain ⟨sameWritten, sameEnded, -⟩ := read_frame exchange luck
            exact ⟨sameWritten, sameEnded.trans ended⟩
        | analyzer move => cases move <;> simp [Exchange.step, Exchange.analyze, ended]
      obtain ⟨sameWritten, stillEnded⟩ := ih _ stepped.2
      rw [run_cons]
      exact ⟨sameWritten.trans stepped.1, stillEnded⟩

/-- A move that is not the last one writes its share of the bytes at once. -/
theorem analyze_of_running (running : exchange.ended = false) {move : AnalyzerMove}
    (goesOn : move ≠ .finish) (rest : List AnalyzerMove) :
    (exchange.analyze move).ended = false ∧
      (exchange.analyze move).written ++
          AnalyzerMove.bytesFrom (exchange.analyze move).writerOpen rest =
        exchange.written ++ AnalyzerMove.bytesFrom exchange.writerOpen (move :: rest) := by
  cases move with
  | openWriter => simp [Exchange.analyze, AnalyzerMove.bytesFrom, running]
  | write bytes =>
      cases isOpen : exchange.writerOpen <;>
        simp [Exchange.analyze, AnalyzerMove.bytesFrom, running, isOpen]
  | closeWriter => simp [Exchange.analyze, AnalyzerMove.bytesFrom, running]
  | finish => exact absurd rfl goesOn

/-- What is written, and whether the analyzer has ended, depends on its own moves only. -/
theorem run_of_running (exchange : Exchange) (running : exchange.ended = false)
    (moves : List Move) :
    (exchange.run moves).written =
        exchange.written ++ AnalyzerMove.bytesFrom exchange.writerOpen (Move.ofAnalyzer moves) ∧
      ((exchange.run moves).ended = true ↔ AnalyzerMove.finish ∈ Move.ofAnalyzer moves) := by
  induction moves generalizing exchange with
  | nil => simp [run, Move.ofAnalyzer, AnalyzerMove.bytesFrom, running]
  | cons move rest ih =>
      rw [run_cons]
      cases move with
      | reader luck =>
          obtain ⟨sameWritten, sameEnded, sameWriter⟩ := read_frame exchange luck
          have later := ih _ (sameEnded.trans running)
          rw [sameWritten, sameWriter] at later
          exact later
      | analyzer move =>
          have split : Move.ofAnalyzer (.analyzer move :: rest) = move :: Move.ofAnalyzer rest :=
            rfl
          rw [split]
          by_cases last : move = .finish
          · subst last
            obtain ⟨sameWritten, ended⟩ := run_of_ended (exchange.analyze .finish) rfl rest
            refine ⟨?_, fun _ => List.mem_cons_self, fun _ => ended⟩
            exact sameWritten.trans (List.append_nil _).symm
          · obtain ⟨stillRunning, sameBytes⟩ :=
              analyze_of_running running last (Move.ofAnalyzer rest)
            obtain ⟨isWritten, isEnded⟩ := ih _ stillRunning
            refine ⟨isWritten.trans sameBytes, isEnded.trans ?_⟩
            simp [Ne.symm last]

/-- When the reader has finished, whatever the order of the moves, the analyzer has ended and the
pieces read are what it wrote, byte for byte. No piece is empty or longer than a read. -/
theorem flatten_pieces_of_finished (moves : List Move)
    (finished : (start.run moves).phase = .finished) :
    AnalyzerMove.finish ∈ Move.ofAnalyzer moves ∧
      (start.run moves).pieces.flatten = AnalyzerMove.bytes (Move.ofAnalyzer moves) ∧
      ∀ piece ∈ (start.run moves).pieces, piece ≠ [] ∧ piece.length ≤ readSize := by
  have delivers := delivers_start.run moves
  obtain ⟨isWritten, isEnded⟩ := run_of_running start rfl moves
  exact ⟨isEnded.mp (delivers.ended (.inr finished)),
    (delivers.flatten_pieces finished).trans isWritten, delivers.fits⟩

/-- A wait finds data that comes only afterwards; the next one is over in vain, and then the
analyzer opens the pipe again, writes and ends before the reader asks for its end. -/
def lateMoves : List Move :=
  [.analyzer .openWriter, .reader ⟨true, 0⟩, .analyzer (.write [1, 2, 3]), .reader ⟨true, 2⟩,
    .analyzer .closeWriter, .reader ⟨false, 0⟩, .analyzer .openWriter, .analyzer (.write [4]),
    .analyzer .finish, .reader ⟨true, 0⟩, .reader ⟨true, 1⟩, .reader ⟨true, 8⟩, .reader ⟨true, 8⟩]

theorem flatten_pieces_lateMoves :
    (start.run lateMoves).phase = .finished ∧ (start.run lateMoves).pieces = [[1, 2], [3], [4]] ∧
      (start.run lateMoves).pieces.flatten = AnalyzerMove.bytes (Move.ofAnalyzer lateMoves) := by
  have finished : (start.run lateMoves).phase = .finished := by decide
  exact ⟨finished, by decide, (flatten_pieces_of_finished lateMoves finished).2.1⟩

/-! ## After the end of the analyzer -/

/-- How many moves an eager reader makes at most once the analyzer has ended. -/
def remaining (exchange : Exchange) : Nat :=
  match exchange.phase with
  | .waiting => 2 * exchange.buffer.length + 4
  | .reading => 2 * exchange.buffer.length + 3
  | .asking => exchange.buffer.length + 2
  | .draining => exchange.buffer.length + 1
  | .finished => 0

theorem remaining_read_lt (ended : exchange.ended = true) (notYet : exchange.phase ≠ .finished) :
    (exchange.read eager).remaining < exchange.remaining := by
  cases isPhase : exchange.phase with
  | waiting => simp [Exchange.read, remaining, isPhase, eager]
  | reading =>
      rcases take_cases exchange eager.size .waiting .asking with
        ⟨empty, same⟩ | ⟨piece, rest, isBuffer, notEmpty, -, same⟩
      · simp [Exchange.read, remaining, isPhase, same, empty]
      · have shorter := List.length_pos_iff.mpr notEmpty
        simp only [Exchange.read, remaining, isPhase, same, isBuffer, List.length_append]
        omega
  | asking => simp [Exchange.read, remaining, isPhase, ended]
  | draining =>
      rcases take_cases exchange eager.size .draining .finished with
        ⟨empty, same⟩ | ⟨piece, rest, isBuffer, notEmpty, -, same⟩
      · simp [Exchange.read, remaining, isPhase, same]
      · have shorter := List.length_pos_iff.mpr notEmpty
        simp only [Exchange.read, remaining, isPhase, same, isBuffer, List.length_append]
        omega
  | finished => exact absurd isPhase notYet

/-- The reader that reads on after the end comes to its own end. -/
theorem phase_settle (ended : exchange.ended = true) {moves : Nat}
    (enough : exchange.remaining ≤ moves) :
    (settle moves exchange).phase = .finished := by
  induction moves generalizing exchange with
  | zero =>
      cases isPhase : exchange.phase <;> simp [remaining, isPhase] at enough
      exact isPhase
  | succ moves ih =>
      rw [settle]
      split
      · assumption
      · rename_i notYet
        have closer := remaining_read_lt ended notYet
        exact ih ((read_frame exchange eager).2.1.trans ended) (by omega)

theorem Delivers.settle (delivers : exchange.Delivers) (moves : Nat) :
    (settle moves exchange).Delivers ∧ (settle moves exchange).written = exchange.written := by
  induction moves generalizing exchange with
  | zero => exact ⟨delivers, rfl⟩
  | succ moves ih =>
      rw [Exchange.settle]
      split
      · exact ⟨delivers, rfl⟩
      · obtain ⟨settled, sameWritten⟩ := ih (delivers.read eager)
        exact ⟨settled, sameWritten.trans (read_frame exchange eager).1⟩

theorem ofAnalyzer_alternate (moves : List AnalyzerMove) :
    Move.ofAnalyzer (alternate moves) = moves := by
  induction moves with
  | nil => rfl
  | cons move rest ih =>
      have looksOnly : Move.ofAnalyzer (List.replicate (looks move) (.reader eager)) = [] := by
        simp [Move.ofAnalyzer]
      have split : Move.ofAnalyzer (alternate (move :: rest)) =
          move :: (Move.ofAnalyzer (List.replicate (looks move) (.reader eager)) ++
            Move.ofAnalyzer (alternate rest)) :=
        congrArg (move :: ·) List.filterMap_append
      rw [split, looksOnly, ih, List.nil_append]

/-- The reader that looks after each move of an analyzer that ends gets all that the analyzer
wrote. -/
theorem flatten_pieces_ofMoves {moves : List AnalyzerMove} (ends : .finish ∈ moves) :
    (ofMoves moves).pieces.flatten = AnalyzerMove.bytes moves := by
  obtain ⟨isWritten, isEnded⟩ := run_of_running start rfl (alternate moves)
  rw [ofAnalyzer_alternate] at isWritten isEnded
  have ended := isEnded.mpr ends
  have enough : (start.run (alternate moves)).remaining ≤
      2 * (start.run (alternate moves)).buffer.length + 4 := by
    unfold remaining
    split <;> omega
  have whole : ofMoves moves =
      settle (2 * (start.run (alternate moves)).buffer.length + 4) (start.run (alternate moves)) :=
    if_pos ended
  obtain ⟨settled, sameWritten⟩ := (delivers_start.run (alternate moves)).settle
    (2 * (start.run (alternate moves)).buffer.length + 4)
  rw [whole, settled.flatten_pieces (phase_settle ended enough), sameWritten, isWritten]
  rfl

end Exchange

end ChangeImpact.Channel
