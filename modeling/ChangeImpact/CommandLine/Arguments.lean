import ChangeImpact.Text.DecimalDigit
import ChangeImpact.Text.Quoted
/-!
# Command-line arguments

The program takes positional arguments and two options without values. Long options may be shortened
and short ones written together. The first group of positional arguments that stand together is
taken; whatever else stands there is not recognized.
-/
set_option autoImplicit false

namespace ChangeImpact

inductive Flag where
  | help
  | verbose
  deriving DecidableEq

namespace Flag

def letter : Flag → Char
  | help => 'h'
  | verbose => 'v'

def longName : Flag → String
  | help => "--help"
  | verbose => "--verbose"

def all : List Flag := [help, verbose]

def ofLetter? (point : CodePoint) : Option Flag :=
  all.find? fun flag => point = flag.letter

def names (flag : Flag) : String :=
  String.ofList ['-', flag.letter] ++ "/" ++ flag.longName

end Flag

structure Arguments where
  positionals : List Text
  verbose : Bool
  deriving DecidableEq

namespace Arguments

def usage : Text := "pit [path] [base-ref] [head-ref]"

def helpText : Text :=
  "usage: " ++ usage ++ "\n\nList the functions touched between two git revisions.\n\n" ++
    "positional arguments:\n  ARG            [path] [base-ref] [head-ref]\n\n" ++
    "options:\n  -h, --help     show this help message and exit\n" ++
    "  -v, --verbose  Debug logging on stderr\n"

inductive Error where
  | ambiguous (argument : Text)
  | unusedValue (flag : Flag) (value : Text)
  | unrecognized (arguments : List Text)
  deriving DecidableEq

def Error.message : Error → Text
  | ambiguous argument =>
      "ambiguous option: " ++ argument ++ " could match " ++
        Text.joinWith ", " (Flag.all.map fun flag => Text.ofString flag.longName)
  | unusedValue flag value =>
      "argument " ++ Text.ofString flag.names ++ ": ignored explicit argument " ++ Text.quoted value
  | unrecognized arguments => "unrecognized arguments: " ++ Text.joinWith " " arguments

inductive Outcome where
  | parsed (arguments : Arguments)
  | help
  | refused (error : Error)
  deriving DecidableEq

/-! ## What an argument is -/

inductive Token where
  | positional (text : Text)
  /-- Two dashes: all that follows is positional. -/
  | separator
  /-- An option, with the text that follows its name as its value. -/
  | long (flag : Flag) (value : Option Text)
  | short (flag : Flag) (value : Option Text)
  | unknown (text : Text)
  deriving DecidableEq

def isNumber (text : Text) : Bool :=
  let body := if text.getLast? = some (.char '\n') then text.dropLast else text
  match body.dropWhile Text.isDecimalDigit with
  | [] => !body.isEmpty
  | .char '.' :: fraction => !fraction.isEmpty && fraction.all Text.isDecimalDigit
  | _ => false

/-- What stands before and after the first equals sign; none after it if there is no such sign. -/
def splitValue (text : Text) : Text × Option Text :=
  (text.takeWhile (· ≠ .char '='),
    match text.dropWhile (· ≠ .char '=') with
    | _ :: value => some value
    | [] => none)

/-- An argument that starts with a dash and is no option. -/
def otherwise (rest : Text) : Token :=
  if isNumber rest || rest.contains (.char ' ') then .positional ('-' :: rest)
  else .unknown ('-' :: rest)

def longStartingWith (name : Text) : List Flag :=
  Flag.all.filter fun flag => name.isPrefixOf (Text.ofString flag.longName)

def dashed (rest : Text) : Except Error Token :=
  match rest with
  | [] => .ok (.positional "-")
  | [.char '-'] => .ok .separator
  | .char '-' :: _ =>
      let (name, value) := splitValue ('-' :: rest)
      match longStartingWith name with
      | [] => .ok (otherwise rest)
      | [flag] => .ok (.long flag value)
      | _ => .error (.ambiguous ('-' :: rest))
  | [letter] =>
      match Flag.ofLetter? letter with
      | some flag => .ok (.short flag none)
      | none => .ok (otherwise rest)
  | letter :: .char '=' :: value =>
      match Flag.ofLetter? letter with
      | some flag => .ok (.short flag (some value))
      | none => .ok (otherwise rest)
  | letter :: value =>
      match Flag.ofLetter? letter with
      | some flag => .ok (.short flag (some value))
      | none => .ok (otherwise rest)

def token (argument : Text) : Except Error Token :=
  match argument with
  | .char '-' :: rest => dashed rest
  | _ => .ok (.positional argument)

def tokens : List Text → Except Error (List Token)
  | [] => .ok []
  | argument :: rest =>
      match token argument with
      | .error error => .error error
      | .ok .separator => .ok (.separator :: rest.map .positional)
      | .ok first =>
          match tokens rest with
          | .error error => .error error
          | .ok others => .ok (first :: others)

/-! ## What they add up to -/

/-- The options in a group of short ones after the first. -/
def cluster (flag : Flag) : Text → Except Error (List Flag)
  | [] => .error (.unusedValue flag [])
  | letter :: rest =>
      match Flag.ofLetter? letter with
      | none => .error (.unusedValue flag (letter :: rest))
      | some next =>
          match rest with
          | [] => .ok [flag, next]
          | _ =>
              match cluster next rest with
              | .error error => .error error
              | .ok flags => .ok (flag :: flags)

def flags : Token → Except Error (List Flag)
  | .long flag none | .short flag none => .ok [flag]
  | .long flag (some value) => .error (.unusedValue flag value)
  | .short flag (some value) => cluster flag value
  | _ => .ok []

def positional? : Token → Option Text
  | .positional text => some text
  | .separator => some (Text.ofString "--")
  | _ => none

/-- What was read so far: whether a group of positional arguments was taken and is still open, that
group, what is not recognized, and whether the option for debugging was given. -/
structure Progress where
  group : Option (List Text)
  groupOpen : Bool
  extras : List Text
  verbose : Bool

namespace Progress

def start : Progress := ⟨none, false, [], false⟩

def addPositional (progress : Progress) (text : Text) : Progress :=
  match progress.group with
  | none => { progress with group := some [text], groupOpen := true }
  | some group =>
      if progress.groupOpen then { progress with group := some (group ++ [text]) }
      else { progress with extras := progress.extras ++ [text] }

def addExtra (progress : Progress) (text : Text) : Progress :=
  { progress with groupOpen := false, extras := progress.extras ++ [text] }

def addFlags (progress : Progress) (flags : List Flag) : Progress :=
  { progress with groupOpen := false, verbose := progress.verbose || flags.contains .verbose }

/-- The group without its first separator. -/
def positionals (progress : Progress) : List Text :=
  (progress.group.getD []).erase (Text.ofString "--")

def outcome (progress : Progress) : Outcome :=
  if progress.extras.isEmpty then .parsed ⟨progress.positionals, progress.verbose⟩
  else .refused (.unrecognized progress.extras)

end Progress

def readTokens (progress : Progress) : List Token → Outcome
  | [] => progress.outcome
  | token :: rest =>
      match positional? token with
      | some text => readTokens (progress.addPositional text) rest
      | none =>
          match token with
          | .unknown text => readTokens (progress.addExtra text) rest
          | _ =>
              match flags token with
              | .error error => .refused error
              | .ok found =>
                  if found.contains .help then .help else readTokens (progress.addFlags found) rest

def parse (arguments : List Text) : Outcome :=
  match tokens arguments with
  | .error error => .refused error
  | .ok tokens => readTokens .start tokens

end Arguments

end ChangeImpact
