import ChangeImpact.Channel.Collect
import ChangeImpact.Files.Workspace
/-!
# The scope of a channel

On entry a named pipe is made and the two signals that interrupt a run are trapped; on exit the
analyzer is stopped, the pipe is removed and the signals get their earlier handlers back. A scope is
a program of single steps, between any two of which signals may arrive. The first signal that is
trapped ends the step that would come next; later ones are ignored. A signal that is not trapped is
for the handler from before the scope, which returns or raises a failure of its own. A signal that
would end the whole program at once is not among those that arrive: nothing follows it.
-/
set_option autoImplicit false

namespace ChangeImpact.Channel

/-! ## State -/

inductive PipeNode where
  | absent
  | file
  | fifo
  | directory
  /-- The directory of the path does not exist. -/
  | noParent
  /-- The path leads through a file. -/
  | underFile
  | nameTooLong
  deriving DecidableEq

def PipeNode.isPresent : PipeNode → Bool
  | file | fifo | directory => true
  | absent | noParent | underFile | nameTooLong => false

inductive Child where
  | none
  | running
  | ended
  deriving DecidableEq

/-- A handler from before the scope, known by a number. It raises a failure where the program is, or
returns. -/
structure EarlierHandler where
  number : Nat
  raised : Option Failure
  deriving DecidableEq

inductive Handler where
  | scope
  | earlier (handler : EarlierHandler)
  deriving DecidableEq

structure State where
  path : Text
  node : PipeNode
  handlers : Signal → Handler
  /-- The earlier handlers of the signals that were trapped, in the order of trapping. -/
  saved : List (Signal × Handler)
  interrupted : Bool
  /-- The analyzer started last. -/
  child : Child
  /-- Whether the channel knows that analyzer. -/
  held : Bool
  /-- Whether that analyzer is being stopped. -/
  stopping : Bool
  /-- How many analyzers were running when another one was started. -/
  strays : Nat
  errorsOpen : Bool
  /-- The entry file on which the analyzer was last at work. -/
  entry : Option Text
  catalogs : List Catalog

namespace State

def start (path : Text) (node : PipeNode) (earlier : Signal → EarlierHandler) : State where
  path := path
  node := node
  handlers := fun signal => .earlier (earlier signal)
  saved := []
  interrupted := false
  child := .none
  held := false
  stopping := false
  strays := 0
  errorsOpen := false
  entry := none
  catalogs := []

/-- What a signal raises that arrives now. The scope raises only for the first that it takes. -/
def raised? (state : State) (signal : Signal) : Option Failure :=
  match state.handlers signal with
  | .scope => if state.interrupted then none else some (.interrupted signal.number)
  | .earlier handler => handler.raised

def noting (state : State) (signal : Signal) : State :=
  { state with interrupted := state.interrupted || state.handlers signal = .scope }

/-- Signals that arrive one after the other. The first for which something is raised ends what is
going on. -/
def deliver (state : State) : List Signal → State × Option Failure
  | [] => (state, none)
  | signal :: rest =>
      match state.raised? signal with
      | some failure => (state.noting signal, some failure)
      | none => deliver state rest

def handle (state : State) (signal : Signal) (handler : Handler) : State :=
  { state with handlers := fun other => if other = signal then handler else state.handlers other }

def saved? (state : State) (signal : Signal) : Option Handler :=
  (state.saved.find? (·.1 = signal)).map Prod.snd

/-- Starts an analyzer. One that still runs is forgotten. -/
def startChild (state : State) : State :=
  { state with
    strays := if state.child = .running then state.strays + 1 else state.strays
    child := .running
    held := true
    errorsOpen := true }

end State

/-! ## Steps -/

inductive Launch where
  | script (steps : List ScriptStep)
  | missing (program : Text)
  | notExecutable (program : Text)
  | underFile (program : Text)
  | nameTooLong (program : Text)
  /-- The system does not take an argument. -/
  | refused (failure : Failure)
  deriving DecidableEq

namespace Launch

/-- Whether a surrogate stands for a byte that writes no character. -/
def standsForByte : CodePoint → Bool
  | .surrogate offset => 0x480 ≤ offset.val && offset.val < 0x500
  | .char _ => true

/-- The surrogates of an argument that do not all stand for bytes, if there are some together. -/
def argumentError? (position : Nat) : Text → Option Utf8.EncodeError
  | [] => none
  | .char _ :: rest => argumentError? (position + 1) rest
  | .surrogate offset :: rest =>
      let others := rest.takeWhile Utf8.isSurrogate
      if standsForByte (.surrogate offset) && others.all standsForByte then
        argumentError? (position + 1) rest
      else some ⟨position, offset, others.length⟩

def withArgument (launch : Launch) (argument : Text) : Launch :=
  match argumentError? 0 argument with
  | some error => refused (.unwritable error)
  | none => if argument.contains (.char '\x00') then refused .nullCharacter else launch

end Launch

inductive Step where
  | removeStale
  | makePipe
  | trap (signal : Signal)
  | spawn (launch : Launch)
  | openPipe
  /-- The analyzer is at work on an entry file. -/
  | begin (entry : Text)
  | receive (signal : Signal)
  | childEnds
  | fail (failure : Failure)
  | keep (catalog : Catalog)
  | vanish
  | releaseChild
  | terminateChild
  | awaitChild
  | closeErrors
  | removePipe
  | restore (signal : Signal)
  | forgetHandlers
  deriving DecidableEq

namespace Step

def removeFailed (path reason : Text) : Failure :=
  .pipe path ("failed to remove existing pipe: " ++ reason)

def makeFailed (path : Text) : Failure :=
  .pipe path "failed to create pipe: [Errno 2] No such file or directory"

def startFailed (reason : Text) : Failure :=
  .analyzer ("error starting analyzer process: " ++ reason) none []

/-- What a step does to the state, and the failure that it ends with, if any. -/
def perform (state : State) : Step → State × Option Failure
  | removeStale =>
      match state.node with
      | .directory => (state, some (removeFailed state.path (isADirectory state.path)))
      | .underFile => (state, some (removeFailed state.path (notADirectory state.path)))
      | .nameTooLong => (state, some (removeFailed state.path (nameTooLong state.path)))
      | .file | .fifo => ({ state with node := .absent }, none)
      | .absent | .noParent => (state, none)
  | makePipe =>
      match state.node with
      | .absent => ({ state with node := .fifo }, none)
      | _ => (state, some (makeFailed state.path))
  | trap signal =>
      ({ state.handle signal .scope with
        saved := state.saved ++ [(signal, state.handlers signal)] }, none)
  | spawn (.script _) => (state.startChild, none)
  | spawn (.missing program) =>
      ({ state with errorsOpen := true }, some (startFailed (noSuchFile program)))
  | spawn (.notExecutable program) =>
      ({ state with errorsOpen := true }, some (startFailed (notPermitted program)))
  | spawn (.underFile program) =>
      ({ state with errorsOpen := true }, some (startFailed (notADirectory program)))
  | spawn (.nameTooLong program) =>
      ({ state with errorsOpen := true }, some (startFailed (nameTooLong program)))
  | spawn (.refused failure) => ({ state with errorsOpen := true }, some failure)
  | openPipe =>
      if state.node = .fifo then (state, none)
      else (state, some (.pipe state.path ("error opening named pipe: " ++ noSuchFile state.path)))
  | begin entry => ({ state with entry := some entry }, none)
  | receive signal => state.deliver [signal]
  | childEnds => ({ state with child := .ended }, none)
  | fail failure => (state, some failure)
  | keep catalog => ({ state with catalogs := state.catalogs ++ [catalog] }, none)
  | vanish => ({ state with node := .absent }, none)
  | releaseChild => ({ state with held := false, stopping := state.held }, none)
  | terminateChild =>
      ({ state with
        child := if state.stopping && state.child = .running then .ended else state.child }, none)
  | awaitChild => (state, none)
  | closeErrors => ({ state with errorsOpen := false }, none)
  | removePipe =>
      match state.node with
      | .file | .fifo => ({ state with node := .absent }, none)
      | _ => (state, none)
  | restore signal =>
      match state.saved? signal with
      | some handler => (state.handle signal handler, none)
      | none => (state, none)
  | forgetHandlers => ({ state with saved := [] }, none)

end Step

/-! ## Programs -/

inductive Program where
  | done
  | single (step : Step)
  /-- Nothing goes on until a signal comes. -/
  | pause
  | andThen (first second : Program)
  /-- The second part runs after the first, however that ended. -/
  | ensuring (body cleanup : Program)
  /-- The second part runs only if the first fails. -/
  | onFailure (body cleanup : Program)

namespace Program

/-- The signals that arrive before each step; none once the list is at its end. -/
abbrev Schedule := List (List Signal)

structure Result where
  state : State
  schedule : Schedule
  outcome : Outcome

def runStep (state : State) (schedule : Schedule) (step : Step) : Result :=
  match state.deliver (schedule.head?.getD []) with
  | (interrupted, some failure) => ⟨interrupted, schedule.tail, .failed failure⟩
  | (state, none) =>
      let (next, failure) := step.perform state
      ⟨next, schedule.tail, .ofFailure? failure⟩

def runPause (state : State) : Schedule → Result
  | [] => ⟨state, [], .waiting⟩
  | signals :: rest =>
      match state.deliver signals with
      | (interrupted, some failure) => ⟨interrupted, rest, .failed failure⟩
      | (state, none) => runPause state rest

/-- Runs a program. When a part and its cleanup both fail, the cleanup's failure counts. -/
def run : Program → State → Schedule → Result
  | done, state, schedule => ⟨state, schedule, .completed⟩
  | single step, state, schedule => runStep state schedule step
  | pause, state, schedule => runPause state schedule
  | andThen first second, state, schedule =>
      let result := run first state schedule
      match result.outcome with
      | .completed => run second result.state result.schedule
      | _ => result
  | ensuring body cleanup, state, schedule =>
      let result := run body state schedule
      match result.outcome with
      | .waiting => result
      | outcome =>
          let last := run cleanup result.state result.schedule
          { last with outcome := last.outcome.after outcome }
  | onFailure body cleanup, state, schedule =>
      let result := run body state schedule
      match result.outcome with
      | .failed failure =>
          let last := run cleanup result.state result.schedule
          { last with outcome := last.outcome.after (.failed failure) }
      | _ => result

def ofSteps (steps : List Step) : Program :=
  steps.foldr (fun step rest => andThen (single step) rest) done

/-! ## Waiting -/

/-- Why the system cannot wait for so many seconds. They are rounded up to whole milliseconds, which
become nanoseconds of a clock with 63 bits, and then a number of milliseconds with 31 bits. -/
def waitError? (seconds : Float) : Option WaitError :=
  let milliseconds := Binary64.ceiling (seconds * 1000.0)
  let nanoseconds := milliseconds * 0.001 * 1000000000.0
  if milliseconds.isInf then some .infinite
  else if nanoseconds ≥ 9223372036854775808.0 then some .beyondClock
  else if nanoseconds > 2147483647000000.0 then some .tooLong
  else none

/-! ## The scope -/

def enter : Program :=
  andThen (ofSteps [.removeStale, .makePipe])
    (onFailure (ofSteps [.trap .interrupt, .trap .terminate]) (single .removePipe))

/-- Lets go of the analyzer, ends it if it still runs, and closes its error output however that
goes. -/
def stop : Program :=
  andThen (single .releaseChild)
    (ensuring (ofSteps [.terminateChild, .awaitChild]) (single .closeErrors))

def leave : Program :=
  ensuring stop
    (ofSteps [.removePipe, .restore .interrupt, .restore .terminate, .forgetHandlers])

def scope (body : Program) : Program :=
  andThen enter (ensuring body leave)

/-! ## Bodies -/

/-- The failure of pieces that are bad while the analyzer goes on; with good ones the program does.
-/
def unlessBad (pieces : List Utf8.Bytes) (program : Program) : Program :=
  match earlyFailure? pieces with
  | some failure => single (.fail failure)
  | none => program

def exchange (behaviour : Behaviour) : Program :=
  match behaviour.ending with
  | .exited status =>
      match collect behaviour.pieces status behaviour.errorOutput with
      | .ok catalog => ofSteps [.childEnds, .keep catalog]
      | .error failure => single (.fail failure)
  | .hanging => unlessBad behaviour.pieces pause
  | .signalling signal => unlessBad behaviour.pieces (andThen (single (.receive signal)) pause)

def launched : Launch → Program
  | .script steps => exchange (.ofSteps steps)
  | _ => done

/-- Starts the analyzer on an entry file and collects its catalog. Between looks at the pipe the
system waits for an interval, unless it cannot. -/
def collecting (launch : Launch) (interval : Float) (entry : Text) : Program :=
  andThen (single (.spawn (launch.withArgument entry)))
    (andThen (single .openPipe)
      (match waitError? interval with
      | some error => single (.fail (.badWait error))
      | none => andThen (single (.begin entry)) (launched launch)))

end Program

inductive Act where
  | collect (launch : Launch) (entry : Text)
  | vanish
  | fail (failure : Failure)

namespace Act

def program (interval : Float) : Act → Program
  | collect launch entry => .collecting launch interval entry
  | vanish => .single .vanish
  | fail failure => .single (.fail failure)

end Act

namespace Program

def acting (interval : Float) (acts : List Act) : Program :=
  acts.foldr (fun act rest => andThen (act.program interval) rest) done

end Program

/-- Runs a body in the scope of a channel for a command, which has to have a word, while signals
arrive. -/
def withChannel (command : List Text) (state : State) (schedule : Program.Schedule)
    (body : Program) : Program.Result :=
  if command.isEmpty then ⟨state, schedule, .failed .emptyCommand⟩
  else (Program.scope body).run state schedule

end ChangeImpact.Channel
