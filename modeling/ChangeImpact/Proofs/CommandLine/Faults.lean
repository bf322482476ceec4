import ChangeImpact.Proofs.CommandLine.Messages
import ChangeImpact.Proofs.CommandLine.Runs
import ChangeImpact.Proofs.Repository.Unresolved
import ChangeImpact.Proofs.Wire.Refusals
/-!
# Faults of the input

A run that does not complete ends with a failure that is told on one line, or silently, unless its
input has one of the faults that are listed here: a line end, or a surrogate for a strict terminal,
where a message shows it; something that cannot be printed; a number with too many digits; or
something that the system, the analyzer or the repository does not do.
-/
set_option autoImplicit false

namespace ChangeImpact

namespace Run

open Channel (Launch)
open Numeral (LongDigits)

/-! ## The faults -/

def IsEnd (target : Target) (revision : Revision) : Prop :=
  revision = target.base ∨ revision = target.head

def Passes (world : World) (target : Target) : Prop :=
  ∃ project header base head, Checks world target project header base head

/-- Texts that the message about a failure shows as they are. -/
inductive Shown (world : World) (settings : Settings) (target : Target) : Text → Prop
  | path {failure : Failure} (fails : openProject world target.path = .error failure) :
      Shown world settings target target.path
  | root {repository : Repository} {root : Text} {failure : Failure}
      (found : world.openRepository target.path = .ok (repository, some root))
      (fails : Framework.detectAt world.workspace root = .error failure) :
      Shown world settings target (world.workspace.path (world.workspace.locate root))
  | ref {project : Project} {revision : Revision} {failure : Failure}
      (opened : openProject world target.path = .ok project) (isEnd : IsEnd target revision)
      (fails : project.repository.resolve revision.ref.text = .error failure) :
      Shown world settings target revision.ref.text
  | commit {project : Project} {revision : Revision} {failure : Failure} {name : Text}
      (opened : openProject world target.path = .ok project) (isEnd : IsEnd target revision)
      (fails : project.repository.resolve revision.ref.text = .error failure)
      (mentioned : project.repository.Mentions name) : Shown world settings target name
  | pipe (checks : Passes world target)
      (kept : (world.pipeNode (pipePath settings)).isReplaceable = false) :
      Shown world settings target (pipePath settings)

/-- Items that a run prints, or would print if none before them failed. -/
inductive Printed (world : World) (settings : Settings) (target : Target) : Console.Item → Prop
  | header {project : Project} {item : Console.Item}
      (opened : openProject world target.path = .ok project)
      (isItem : item ∈ project.announcement world target) : Printed world settings target item
  | report {project : Project} {header base head : Text} {catalog : Catalog} {impact : Impact}
      {item : Console.Item}
      (computed : Computed world settings target project header base head catalog impact)
      (isItem : item ∈ Console.reportItems impact target.range) :
      Printed world settings target item

/-- The system takes no argument with a null character, or with a surrogate that stands for no byte.
-/
def NoArgument (text : Text) : Prop :=
  (Launch.argumentError? 0 text).isSome ∨ text.contains (.char '\x00') = true

def patchText (output : List UInt8) : Text :=
  DiffRequest.endLine (Utf8.decodeLossy output)

inductive ReplyFault (strict : Bool) (room : Nat) : DiffReply → Prop
  | failed (status : Int) (errorText : Text) : ReplyFault strict room (.failed status errorText)
  /-- The patch is not parsed, and the message shows a line of it with its end or is about a number.
  -/
  | unparsed {output : List UInt8} {error : Patch.ParseError}
      (fails : Patch.parse (patchText output) = .error error)
      (shows : ¬Tellable strict error.message ∨ ∃ tooLong, error = .numeralTooLong tooLong) :
      ReplyFault strict room (.bytes output)
  | badFile {output : List UInt8} {files : List Patch.PatchedFile} {file : Patch.PatchedFile}
      {error : Patch.FileError} (parses : Patch.parse (patchText output) = .ok files)
      (member : file ∈ files) (isText : file.binary = false)
      (fails : file.pathAndRuns room = .error error) : ReplyFault strict room (.bytes output)

inductive AnalyzerFault (steps : List Channel.ScriptStep) : Prop
  | hangs (goesOn : (Channel.Behaviour.ofSteps steps).ending = .hanging)
  | longDigits {length : Nat}
      (long : LongDigits Utf8.isDigit (Channel.Behaviour.ofSteps steps).pieces.flatten length)

inductive Fault (world : World) (settings : Settings) (target : Target) : Prop
  | untellable {text : Text} (shown : Shown world settings target text)
      (breaks : ¬Tellable world.terminal.strict text)
  | markup {line : Text} {error : Console.Markup.Error}
      (printed : Printed world settings target (.markup line))
      (fails : Console.Markup.read line = .error error)
  /-- A strict terminal refuses what the console writes for an item. -/
  | unprintable {item : Console.Item} {text : Text} {error : Utf8.EncodeError}
      (printed : Printed world settings target item)
      (writes : world.terminal.console.write item = .ok text)
      (refuses : world.terminal.refusal? text = some error)
  | nullInRoot {repository : Repository} {root : Text}
      (found : world.openRepository target.path = .ok (repository, some root))
      (holds : root.contains (.char '\x00') = true)
  | longNumber {project : Project} {revision : Revision} {length : Nat}
      (opened : openProject world target.path = .ok project) (isEnd : IsEnd target revision)
      (long : LongDigits Text.isDecimalDigit revision.ref.text length)
  /-- The head leads to a tree, a blob, or a tag of a tag. -/
  | headNotCommit {project : Project} {revision : Revision} {name : Text}
      {object : RepositoryObject} (opened : openProject world target.path = .ok project)
      (isEnd : IsEnd target revision)
      (fails : project.repository.resolve revision.ref.text = .error (.notCommit name object))
  /-- The repository cannot be asked about such a reference, so its replies say nothing here. -/
  | refRefused {project : Project} {revision : Revision}
      (opened : openProject world target.path = .ok project) (isEnd : IsEnd target revision)
      (refuses : NoArgument revision.ref.text)
  /-- The parents of a commit are asked for that is not in the store, as in a shallow clone. Here it
  has none; there is no such answer. -/
  | missingCommit {project : Project} {revision : Revision} {ref commit : Text} {number : Int}
      (opened : openProject world target.path = .ok project) (isEnd : IsEnd target revision)
      (fails : project.repository.resolve revision.ref.text = .error (.noParent ref commit number))
      (missing : project.repository.isCommit commit = false)
  | entryRefused {project : Project} (opened : openProject world target.path = .ok project)
      (refuses : NoArgument (project.entry world))
  | cannotWait {error : WaitError} (checks : Passes world target)
      (refuses : Channel.Program.waitError? settings.pollInterval = some error)
  | analyzer {steps : List Channel.ScriptStep} (checks : Passes world target)
      (starts : world.launch settings.command.program = .script steps) (bad : AnalyzerFault steps)
  | reply {project : Project} (opened : openProject world target.path = .ok project)
      (bad : ReplyFault world.terminal.strict world.room project.repository.diff)

variable {world : World} {settings : Settings} {target : Target} {failure : Failure}
  {strict : Bool}

end Run

end ChangeImpact
