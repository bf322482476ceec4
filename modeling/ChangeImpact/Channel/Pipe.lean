import ChangeImpact.Text.Utf8
/-!
# Reading a pipe while the analyzer writes it

The analyzer opens the pipe, writes, closes it, opens it again, and ends at last. The reader waits
for data for a while, reads what there is, and asks whether the analyzer has ended when there is
none; once it has, the reader reads on until the pipe is empty. The two take turns in any order.
-/
set_option autoImplicit false

namespace ChangeImpact.Channel

open Utf8 (Bytes)

def readSize : Nat := 65536

inductive AnalyzerMove where
  | openWriter
  | write (bytes : Bytes)
  | closeWriter
  | finish
  deriving DecidableEq

inductive Phase where
  | waiting
  /-- After a wait that found something to read, before it reads. -/
  | reading
  /-- After a wait or a read without data, before it asks whether the analyzer has ended. -/
  | asking
  | draining
  | finished
  deriving DecidableEq

/-- What the reader meets: whether a wait finds something to read before its time is over, and how
much a read takes at most. -/
structure Luck where
  ready : Bool
  size : Nat
  deriving DecidableEq

inductive Move where
  | analyzer (move : AnalyzerMove)
  | reader (luck : Luck)
  deriving DecidableEq

structure Exchange where
  /-- The bytes written and not yet read. -/
  buffer : Bytes
  writerOpen : Bool
  ended : Bool
  phase : Phase
  /-- The pieces read, the latest first. -/
  latest : List Bytes
  written : Bytes
  deriving DecidableEq

namespace Exchange

def start : Exchange := ⟨[], false, false, .waiting, [], []⟩

def pieces (exchange : Exchange) : List Bytes :=
  exchange.latest.reverse

/-- A move of the analyzer; none is possible after its end, and no writing without a writer. -/
def analyze (exchange : Exchange) : AnalyzerMove → Exchange
  | .openWriter => if exchange.ended then exchange else { exchange with writerOpen := true }
  | .write bytes =>
      if exchange.ended || !exchange.writerOpen then exchange
      else
        { exchange with
          buffer := exchange.buffer ++ bytes
          written := exchange.written ++ bytes }
  | .closeWriter => { exchange with writerOpen := false }
  | .finish => { exchange with writerOpen := false, ended := true }

/-- Takes at most so many bytes and moves on to `next`, or to `otherwise` if there are none. -/
def take (exchange : Exchange) (size : Nat) (next otherwise : Phase) : Exchange :=
  match exchange.buffer with
  | [] => { exchange with phase := otherwise }
  | first :: rest =>
      let more := min size readSize - 1
      { exchange with
        buffer := rest.drop more
        phase := next
        latest := (first :: rest.take more) :: exchange.latest }

def read (exchange : Exchange) (luck : Luck) : Exchange :=
  match exchange.phase with
  | .waiting => { exchange with phase := if luck.ready then .reading else .asking }
  | .reading => exchange.take luck.size .waiting .asking
  | .asking => { exchange with phase := if exchange.ended then .draining else .waiting }
  | .draining => exchange.take luck.size .draining .finished
  | .finished => exchange

def step (exchange : Exchange) : Move → Exchange
  | .analyzer move => exchange.analyze move
  | .reader luck => exchange.read luck

def run (exchange : Exchange) (moves : List Move) : Exchange :=
  moves.foldl step exchange

theorem run_append (exchange : Exchange) (first second : List Move) :
    exchange.run (first ++ second) = (exchange.run first).run second :=
  List.foldl_append

/-! ## A schedule -/

def eager : Luck := ⟨true, readSize⟩

/-- How often the reader moves after a move of the analyzer: enough to read all that was written. -/
def looks : AnalyzerMove → Nat
  | .write bytes => 2 * (bytes.length / readSize + 1) + 1
  | _ => 3

def alternate (moves : List AnalyzerMove) : List Move :=
  moves.flatMap fun move => .analyzer move :: List.replicate (looks move) (.reader eager)

def settle : Nat → Exchange → Exchange
  | 0, exchange => exchange
  | moves + 1, exchange =>
      if exchange.phase = .finished then exchange else settle moves (exchange.read eager)

/-- The exchange when the reader looks after each of these moves, and to the end if they end. -/
def ofMoves (moves : List AnalyzerMove) : Exchange :=
  let exchange := start.run (alternate moves)
  if exchange.ended then settle (2 * exchange.buffer.length + 4) exchange else exchange

end Exchange

end ChangeImpact.Channel
