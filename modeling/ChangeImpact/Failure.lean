import ChangeImpact.Console.Markup
import ChangeImpact.Number.Numeral
import ChangeImpact.Patch.File
import ChangeImpact.Patch.Parser
import ChangeImpact.Repository.Basic
import ChangeImpact.Wire.Batch
/-!
# Failures

What can end a run before its report, with the text that says so. Most failures are reported in one
line; an interrupt is silent; a few faults of the input are not foreseen and end the program as they
are.
-/
set_option autoImplicit false

namespace ChangeImpact

inductive WaitError where
  | infinite
  /-- The time does not fit in the nanoseconds that a clock counts. -/
  | beyondClock
  /-- The time does not fit in the milliseconds that a wait takes. -/
  | tooLong
  deriving DecidableEq

def WaitError.message : WaitError → String
  | infinite => "cannot convert float infinity to integer"
  | beyondClock => "timestamp out of range for platform time_t"
  | tooLong => "timeout is too large"

inductive Failure where
  | general (text : Text)
  /-- No rule finds a commit for a reference. -/
  | unresolved (ref : Text) (reason : Option Text)
  | noParent (ref commit : Text) (number : Int)
  /-- The head leads to an object that is no commit. -/
  | notCommit (name : Text) (object : RepositoryObject)
  | notOpened (path reason : Text)
  | pipe (path reason : Text)
  /-- The analyzer did not start, sent bad data, or ended with the given status. -/
  | analyzer (text : Text) (status : Option Int) (errorTail : Text)
  | noFramework (root reason : Text)
  | interrupted (signal : Int)
  /-- An interrupt from the keyboard came where no channel takes it. -/
  | cancelled
  | numeralTooLong (error : Numeral.TooLong)
  | badPath (error : Patch.PathError)
  | badGap (error : Patch.GapError)
  | badWait (error : WaitError)
  | nullCharacter
  /-- An argument for a program holds a surrogate that stands for no byte, or the last line that the
  program writes holds a surrogate. -/
  | unwritable (error : Utf8.EncodeError)
  /-- What is printed holds a surrogate. -/
  | unprintable (error : Utf8.EncodeError)
  | emptyCommand
  | badMarkup (error : Console.Markup.Error)
  deriving DecidableEq

namespace Failure

def notRepository : Text := "not a git repository (or any parent up to root)"

def unknownFramework : Text := "unable to determine framework type"

def shownCommit (commit : Text) : Text :=
  commit.take 12

def shownObject (name : Text) (object : RepositoryObject) : Text :=
  let kind : Text := match object with
    | .commit _ => "Commit"
    | .tag _ => "TagObject"
    | .tree => "Tree"
    | .blob => "Blob"
  "<git." ++ kind ++ " \"" ++ name ++ "\">"

def message : Failure → Text
  | general text => text
  | unresolved ref none => "could not resolve git reference: " ++ ref
  | unresolved ref (some reason) =>
      "could not resolve git reference: " ++ ref ++
        (if reason.isEmpty then [] else " (" ++ reason ++ ")" : Text)
  | noParent ref commit number =>
      "commit " ++ shownCommit commit ++ " has no parent #" ++ Text.ofInt number ++
        " (while resolving '" ++ ref ++ "')"
  | notCommit name object =>
      "Symbolic Reference pointed to object " ++ shownObject name object ++ ", commit was required"
  | notOpened path reason => "cannot open repository at " ++ path ++ ": " ++ reason
  | pipe path reason => "named pipe " ++ path ++ ": " ++ reason
  | analyzer text _ _ => text
  | noFramework root reason => "no supported framework found in " ++ root ++ ": " ++ reason
  | interrupted signal => "interrupted by signal " ++ Text.ofInt signal
  | cancelled => []
  | numeralTooLong error => error.message
  | badPath error => error.message
  | badGap error => error.message
  | badWait error => error.message
  | nullCharacter => "embedded null byte"
  | unwritable error => error.message
  | unprintable error =>
      error.message ++ "\n*** You may need to add PYTHONIOENCODING=utf-8 to your environment ***"
  | emptyCommand => "analyzer command must not be empty"
  | badMarkup error => error.message

inductive Disposition where
  /-- Prints one line and ends with status 1. -/
  | reported
  | silent
  /-- Does not foresee it. -/
  | escapes
  deriving DecidableEq

def disposition : Failure → Disposition
  | interrupted _ | cancelled => .silent
  | notCommit _ _ | numeralTooLong _ | badPath _ | badGap _ | badWait _ | nullCharacter
  | unwritable _ | unprintable _ | emptyCommand | badMarkup _ => .escapes
  | _ => .reported

def ofFileError : Patch.FileError → Failure
  | .path error => badPath error
  | .gap error => badGap error

def ofBatchError : Wire.BatchError → Failure
  | .stream (.tooLong error) => numeralTooLong error
  | error => analyzer error.message none []

def ofParseError : Patch.ParseError → Failure
  | .numeralTooLong error => numeralTooLong error
  | error => general ("could not parse diff: " ++ error.message)

end Failure

inductive Outcome where
  | completed
  | failed (failure : Failure)
  | waiting
  deriving DecidableEq

namespace Outcome

def ofFailure? : Option Failure → Outcome
  | none => completed
  | some failure => failed failure

/-- The outcome of two parts of which both were run: the last one's, or the first one's if the last
completed. -/
def after (last first : Outcome) : Outcome :=
  match last with
  | completed => first
  | _ => last

end Outcome

end ChangeImpact
