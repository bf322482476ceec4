import ChangeImpact.Channel.Scope
import ChangeImpact.Console.Terminal
import ChangeImpact.Files.Discovery
import ChangeImpact.Repository.Basic
import ChangeImpact.Settings.Basic
/-!
# The world of a run

What a run of the program meets: the directory it starts in, the environment, where it writes, the
replies of repositories, the commands that can be started, and the signals that come while it waits
for one.
-/
set_option autoImplicit false

namespace ChangeImpact

structure World where
  workspace : Workspace
  environment : Settings.Environment
  terminal : Terminal
  /-- The repository of a path and the path of its work tree, which a bare one has not. -/
  repositories : Text → Except RepositoryPlace.Absence (Repository × Option Text)
  /-- The programs that can be started by their name or path, with what they do. -/
  programs : List (Text × List Channel.ScriptStep)
  /-- The signals that arrive in the scope of the channel. -/
  signals : Channel.Program.Schedule
  /-- How many blank lines there is room for. -/
  room : Nat

namespace World

def openRepository (world : World) (path : Text) : Except Failure (Repository × Option Text) :=
  match world.repositories path with
  | .error absence => .error (absence.failure path)
  | .ok found => .ok found

/-! ## Starting programs -/

def script? (world : World) (program : Text) : Option (List Channel.ScriptStep) :=
  (world.programs.find? (·.1 = program)).map Prod.snd

/-- What comes of starting the program at a path. Nothing but the known programs can be started. -/
def launchPath (world : World) (path : Text) : Channel.Launch :=
  match world.workspace.resolve path with
  | .error .missing => .missing path
  | .error .notDirectory => .underFile path
  | .error .nameTooLong => .nameTooLong path
  | .ok location =>
      match world.workspace.find location, world.script? (world.workspace.path location) with
      | .missing, _ => .missing path
      | .notDirectory, _ => .underFile path
      | .file _, some steps => .script steps
      | _, _ => .notExecutable path

/-- What comes of starting the program with a name. The empty name and those of directories lead to
the directories where programs are. -/
def launchName (world : World) (name : Text) : Channel.Launch :=
  match world.script? name with
  | some steps => .script steps
  | none =>
      if name.isEmpty || name = "." || name = ".." then .notExecutable name
      else if Path.longestPart < Path.size name then .nameTooLong name
      else .missing name

/-- What comes of starting a program: a name with a slash is a path. -/
def launch (world : World) (program : Text) : Channel.Launch :=
  if program.contains (.char '/') then world.launchPath program else world.launchName program

/-! ## The pipe -/

def pipeNode (world : World) (path : Text) : Channel.PipeNode :=
  match world.workspace.resolve path with
  | .error .missing => .noParent
  | .error .notDirectory => .underFile
  | .error .nameTooLong => .nameTooLong
  | .ok location =>
      match world.workspace.find location with
      | .file _ => .file
      | .directory => .directory
      | .missing => .absent
      | .notDirectory => .underFile

end World

end ChangeImpact
