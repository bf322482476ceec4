import ChangeImpact.Channel.Pipe
/-!
# What an analyzer does

An analyzer is known by the steps that it takes. They tell what it writes to the pipe, what to its
error output, and how it ends.
-/
set_option autoImplicit false

namespace ChangeImpact.Channel

open Utf8 (Bytes)

inductive Signal where
  | interrupt
  | terminate
  deriving DecidableEq

def Signal.number : Signal → Int
  | interrupt => 2
  | terminate => 15

inductive ScriptStep where
  | openPipe
  | put (bytes : Bytes)
  | closePipe
  /-- Opens the pipe, writes and closes it. -/
  | write (bytes : Bytes)
  | writeError (bytes : Bytes)
  | exit (status : Int)
  /-- Ends by a signal to itself. -/
  | die (signal : Int)
  | hang
  /-- Opens the pipe, sends a signal to its reader and hangs. -/
  | signalReader (signal : Signal)
  deriving DecidableEq

inductive Ending where
  | exited (status : Int)
  | hanging
  | signalling (signal : Signal)
  deriving DecidableEq

structure Behaviour where
  moves : List AnalyzerMove
  errorOutput : Bytes
  ending : Ending
  deriving DecidableEq

namespace Behaviour

def after (moves : List AnalyzerMove) (behaviour : Behaviour) : Behaviour :=
  { behaviour with moves := moves ++ behaviour.moves }

/-- What an analyzer with these steps does; after the last one it ends with status 0. -/
def ofSteps : List ScriptStep → Behaviour
  | [] => ⟨[.finish], [], .exited 0⟩
  | .openPipe :: rest => (ofSteps rest).after [.openWriter]
  | .put bytes :: rest => (ofSteps rest).after [.write bytes]
  | .closePipe :: rest => (ofSteps rest).after [.closeWriter]
  | .write bytes :: rest => (ofSteps rest).after [.openWriter, .write bytes, .closeWriter]
  | .writeError bytes :: rest =>
      let later := ofSteps rest
      { later with errorOutput := bytes ++ later.errorOutput }
  | .exit status :: _ => ⟨[.finish], [], .exited (status % 256)⟩
  | .die signal :: _ => ⟨[.finish], [], .exited (-signal)⟩
  | .hang :: _ => ⟨[], [], .hanging⟩
  | .signalReader signal :: _ => ⟨[.openWriter], [], .signalling signal⟩

def pieces (behaviour : Behaviour) : List Bytes :=
  (Exchange.ofMoves behaviour.moves).pieces

end Behaviour

end ChangeImpact.Channel
