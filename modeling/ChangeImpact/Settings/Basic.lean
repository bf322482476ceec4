import ChangeImpact.Catalog.PathMatch
import ChangeImpact.Settings.CommandWords
import ChangeImpact.Text.LowerCase
import ChangeImpact.Text.Quoted
import ChangeImpact.Validation.Field
/-!
# Settings

How the analyzer is started and reached, how paths are matched, and how much context a patch is
asked for. Settings come from named variables of an environment or from a record; either way all of
them are checked together.
-/
set_option autoImplicit false

namespace ChangeImpact

open Json (Value Members)
open Validation

structure Command where
  program : Text
  arguments : List Text
  deriving DecidableEq

namespace Command

def words (command : Command) : List Text :=
  command.program :: command.arguments

end Command

structure Settings where
  command : Command
  pipePath : NonEmptyString
  pathPolicy : PathPolicy
  /-- Seconds between two looks at the pipe. -/
  pollInterval : Float
  contextLines : Nat

namespace Settings

def defaultCommand : Command := ⟨"npx", ["ts-node", "ts_src/ffi/called.ts"]⟩

/-- The default command as a shell reads it. -/
def defaultCommandLine : Text := "npx ts-node ts_src/ffi/called.ts"

def defaultPipePath : NonEmptyString := ⟨"/tmp/pip_pipe", by decide⟩

def defaultPollInterval : Float := 0.05

def defaultContextLines : Nat := 3

/-! ## Checks -/

def commandOfValue : Value → Checked Command
  | .array items =>
      match Checked.each (plain text) 0 items with
      | .error problems => .error problems
      | .ok [] => Checked.fail [] .emptyList
      | .ok (program :: arguments) => .ok ⟨program, arguments⟩
  | _ => Checked.fail [] .notList

def ofMembers (members : Members) : Checked Settings :=
  let fields :=
    (optional ["analyzer_command"] defaultCommand commandOfValue members).both
      ((optional ["pipe_path"] defaultPipePath (plain nonEmptyString) members).both
        ((optional ["match_policy"] .substring (plain (choice .notAmong PathPolicy.all))
            members).both
          ((optional ["poll_interval"] defaultPollInterval (plain positiveNumber) members).both
            (optional ["context_lines"] defaultContextLines (plain naturalNumber) members))))
  match fields with
  | .error problems => .error problems
  | .ok (command, pipePath, policy, pollInterval, contextLines) =>
      .ok ⟨command, pipePath, policy, pollInterval, contextLines⟩

def ofValue : Value → Checked Settings :=
  objectOf "PitConfig" ofMembers

/-! ## Settings of an environment -/

abbrev Environment := List (Text × Text)

namespace Environment

def get (environment : Environment) (name : String) (default : Text) : Text :=
  match environment.find? (·.1 = Text.ofString name) with
  | some found => found.2
  | none => default

end Environment

inductive Error where
  | command (error : CommandWords.Error)
  | notNumber (text : Text)
  | notInteger (text : Text)
  | tooLong (error : Numeral.TooLong)
  | invalid (problems : Problems)
  deriving DecidableEq

namespace Error

def shownLength : Nat := 200

def message : Error → Text
  | command error => error.message
  | notNumber text => "could not convert string to float: " ++ Text.quoted text
  | notInteger text =>
      "invalid literal for int() with base 10: " ++
        (Text.quoted text).take shownLength
  | tooLong error => error.message
  | invalid problems =>
      let count := problems.toList.length
      Text.ofNat count ++ " validation error" ++ (if count = 1 then "" else "s" : Text) ++
        " for PitConfig"

end Error

def readInterval (text : Text) : Except Error Float :=
  match Binary64.read? text with
  | some value => .ok value
  | none => .error (.notNumber text)

def readContext (text : Text) : Except Error Int :=
  match Numeral.readInteger text with
  | .ok value => .ok value
  | .error .malformed => .error (.notInteger text)
  | .error (.tooLong error) => .error (.tooLong error)

/-- The settings that an environment names: first the command is split, then the two numbers are
read, and then all fields are checked. -/
def ofEnvironment (environment : Environment) : Except Error Settings :=
  match CommandWords.split (environment.get "PIT_ANALYZER_CMD" defaultCommandLine) with
  | .error error => .error (.command error)
  | .ok words =>
      match readInterval (environment.get "PIT_POLL_INTERVAL" "0.05") with
      | .error error => .error error
      | .ok interval =>
          match readContext (environment.get "PIT_CONTEXT_LINES" "3") with
          | .error error => .error error
          | .ok contextLines =>
              let policy := Text.lower (environment.get "PIT_MATCH_POLICY" "substring")
              let fields :=
                [("analyzer_command", Value.array (words.map Value.string)),
                  ("pipe_path",
                    Value.string (environment.get "PIT_PIPE_PATH" defaultPipePath.text)),
                  ("match_policy", Value.string policy),
                  ("poll_interval", Value.float interval),
                  ("context_lines", Value.int contextLines)]
              match ofValue (Value.ofFields fields) with
              | .error problems => .error (.invalid problems)
              | .ok settings => .ok settings

end Settings

end ChangeImpact
