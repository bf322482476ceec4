import ChangeImpact.CommandLine.Arguments
import ChangeImpact.CommandLine.Target
import ChangeImpact.CommandLine.World
import ChangeImpact.Files.Framework
import ChangeImpact.Repository.Diff
import ChangeImpact.Repository.Resolve
/-!
# A run of the program

A run opens the repository, detects the framework and prints what it is about to compare; it
resolves the two ends of the range, collects the catalog from the analyzer, asks for the patch and
prints the report. The first failure ends it, and an analyzer that does not end keeps it waiting.
-/
set_option autoImplicit false

namespace ChangeImpact

structure Run where
  output : Text
  channel : Option Channel.State
  requests : List DiffRequest
  outcome : Outcome

namespace Run

/-- The lines before the report, each a name and a value with markup around them. -/
def header (root framework entry range : Text) : List Console.Item :=
  let line (name value style : Text) : Console.Item :=
    .markup ("[bold white]" ++ name ++ "[/][" ++ style ++ "]" ++ value ++ "[/]")
  [line "Git root: " root "cyan", line "Framework: " framework "blue",
    line "TypeScript entrypoint: " entry "cyan", line "Comparing Git refs: " range "cyan"]

structure Project where
  repository : Repository
  root : Text
  detected : Framework.Detected

def openProject (world : World) (path : Text) : Except Failure Project :=
  match world.openRepository path with
  | .error failure => .error failure
  | .ok (_, none) => .error (.notOpened path "bare repository has no work tree")
  | .ok (repository, some root) =>
      match Framework.detectAt world.workspace root with
      | .error failure => .error failure
      | .ok detected => .ok ⟨repository, root, detected⟩

def Project.entry (project : Project) (world : World) : Text :=
  world.workspace.path project.detected.entry

/-- What a run prints before anything else. -/
def Project.announcement (project : Project) (world : World) (target : Target) :
    List Console.Item :=
  header project.root project.detected.framework.name (project.entry world) target.range

/-- The two ends of a range; the head is resolved first. -/
def resolveRange (repository : Repository) (target : Target) : Except Failure (Text × Text) :=
  match repository.resolve target.head.ref.text with
  | .error failure => .error failure
  | .ok head =>
      match repository.resolve target.base.ref.text with
      | .error failure => .error failure
      | .ok base => .ok (base, head)

/-- The handlers that every program has from its start. That the second one ends the program at once
is no way for a run to end, and counts as nothing raised. -/
def firstHandlers : Channel.Signal → Channel.EarlierHandler
  | .interrupt => ⟨0, some .cancelled⟩
  | .terminate => ⟨1, none⟩

def channelBefore (world : World) (settings : Settings) : Channel.State :=
  let path := Path.tidy settings.pipePath.text
  .start path (world.pipeNode path) firstHandlers

def collectCatalog (world : World) (settings : Settings) (entry : Text) : Channel.Program.Result :=
  Channel.withChannel settings.command.words (channelBefore world settings) world.signals
    (.acting settings.pollInterval [.collect (world.launch settings.command.program) entry])

def afterHeader (world : World) (settings : Settings) (target : Target) (project : Project)
    (header : Text) : Run :=
  match resolveRange project.repository target with
  | .error failure => ⟨header, none, [], .failed failure⟩
  | .ok (base, head) =>
      let collected := collectCatalog world settings (project.entry world)
      match collected.outcome, collected.state.catalogs with
      | .completed, catalog :: _ =>
          let request : DiffRequest := ⟨base, head, settings.contextLines⟩
          match request.impact project.repository.diff world.room catalog settings.pathPolicy with
          | .error failure => ⟨header, some collected.state, [request], .failed failure⟩
          | .ok impact =>
              let (report, failure) :=
                world.terminal.printAll (Console.reportItems impact target.range)
              ⟨header ++ report, some collected.state, [request], .ofFailure? failure⟩
      | outcome, _ => ⟨header, some collected.state, [], outcome⟩

def run (world : World) (settings : Settings) (target : Target) : Run :=
  match openProject world target.path with
  | .error failure => ⟨[], none, [], .failed failure⟩
  | .ok project =>
      match world.terminal.printAll (project.announcement world target) with
      | (header, some failure) => ⟨header, none, [], .failed failure⟩
      | (header, none) => afterHeader world settings target project header

end Run

/-! ## The program -/

inductive Exit where
  | returned (status : Nat)
  | stopped (status : Nat) (errorText : Text)
  /-- A failure that it does not foresee ends it. -/
  | escaped (failure : Failure)
  | waiting
  deriving DecidableEq

structure Finished where
  output : Text
  exit : Exit
  channel : Option Channel.State
  requests : List DiffRequest

namespace Finished

def early (output : Text) (exit : Exit) : Finished :=
  ⟨output, exit, none, []⟩

/-- The end of a program that says at last what was wrong, if that can be written. -/
def telling (terminal : Terminal) (written message : Text) (channel : Option Channel.State)
    (requests : List DiffRequest) : Finished :=
  match terminal.refusal? message with
  | some error => ⟨written, .escaped (.unwritable error), channel, requests⟩
  | none => ⟨written ++ message, .returned 1, channel, requests⟩

def ofRun (terminal : Terminal) (run : Run) : Finished :=
  match run.outcome with
  | .completed => ⟨run.output, .returned 0, run.channel, run.requests⟩
  | .waiting => ⟨run.output, .waiting, run.channel, run.requests⟩
  | .failed failure =>
      match failure.disposition with
      | .silent => ⟨run.output, .returned 0, run.channel, run.requests⟩
      | .escapes => ⟨run.output, .escaped failure, run.channel, run.requests⟩
      | .reported =>
          telling terminal run.output ("Error: " ++ failure.message ++ "\n") run.channel
            run.requests

end Finished

def usageText : Text :=
  "Usage: " ++ Arguments.usage ++ "\nExamples:\n" ++
    "  pit                          # Compare HEAD^ and HEAD in current directory\n" ++
    "  pit /path/to/repo            # Compare HEAD^ and HEAD in specified directory\n" ++
    "  pit /path/to/repo main       # Compare main and HEAD\n" ++
    "  pit /path/to/repo v1.0 v2.0  # Compare tag v1.0 with tag v2.0\n"

def invalidArgument (problem : Validation.Problem) : String :=
  let field := ".".intercalate (problem.location.map Validation.Key.text)
  "Error: invalid " ++ (if field = "" then "argument" else field) ++ ": " ++
    problem.complaint.message ++ "\n"

/-- The program with its positional arguments. -/
def execute (world : World) (positionals : List Text) : Finished :=
  match Target.ofPositionals world.workspace.root positionals with
  | none => .early usageText (.returned 1)
  | some (.error problems) =>
      .telling world.terminal [] (invalidArgument problems.first) none []
  | some (.ok target) =>
      match Settings.ofEnvironment world.environment with
      | .error error =>
          .telling world.terminal [] ("Invalid configuration: " ++ error.message ++ "\n") none []
      | .ok settings => .ofRun world.terminal (Run.run world settings target)

/-- The program with all its arguments. -/
def World.invoke (world : World) (arguments : List Text) : Finished :=
  match Arguments.parse arguments with
  | .help => .early Arguments.helpText (.stopped 0 [])
  | .refused error =>
      .early []
        (.stopped 2 ("usage: " ++ Arguments.usage ++ "\npit: error: " ++ error.message ++ "\n"))
  | .parsed parsed => execute world parsed.positionals

end ChangeImpact
