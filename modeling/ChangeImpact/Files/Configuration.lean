import ChangeImpact.Files.Glob
import ChangeImpact.Files.Head
import ChangeImpact.Files.Workspace
import ChangeImpact.Text.LowerCase
/-!
# The configuration of a repository

A configuration has parts, each opened by its name in brackets, with options in them. A value may be
quoted, also over several lines, go on after a backslash at the end of its line, and have a remark
behind it; an option without a value is on. One part holds defaults for all others. A configuration
can include others, perhaps on a condition, and their options come after its own. The last value of
an option counts.
-/
set_option autoImplicit false

namespace ChangeImpact

structure Setting where
  part : Text
  name : Text
  value : Option Text
  deriving DecidableEq

structure Configuration where
  parts : List Text
  settings : List Setting
  deriving DecidableEq

namespace Configuration

def empty : Configuration := ⟨[], []⟩

def addPart (configuration : Configuration) (part : Text) : Configuration :=
  { configuration with parts := configuration.parts ++ [part] }

def addSetting (configuration : Configuration) (setting : Setting) : Configuration :=
  { configuration with settings := configuration.settings ++ [setting] }

/-! ## Parts -/

def defaultPart : Text := "DEFAULT"

/-- The form in which names of parts are compared: what comes before a quote is in lower case. -/
def partKey (name : Text) : Text :=
  if name = defaultPart then name
  else
    let word := name.takeWhile (· ≠ .char '"')
    Text.lower word ++ name.drop word.length

def partName? : Text → Option Text
  | .char '[' :: rest =>
      match (rest.reverse.dropWhile (· ≠ .char ']')).drop 1 with
      | [] => none
      | name => some (partKey (Text.trim name.reverse))
  | _ => none

/-! ## Values -/

def startsRemark (point : CodePoint) : Bool :=
  point = '#' || point = ';'

/-- Text up to a remark, which comes after a blank and outside quotes. -/
def beforeRemark (quoted afterBlank : Bool) : Text → Text
  | [] => []
  | .char '\\' :: point :: rest =>
      .char '\\' :: point :: beforeRemark quoted (Text.isBlank point) rest
  | point :: rest =>
      if !quoted && afterBlank && startsRemark point then []
      else
        point :: beforeRemark (if point = '"' then !quoted else quoted) (Text.isBlank point) rest

def endsInBackslash (text : Text) : Bool :=
  (text.reverse.takeWhile (· = .char '\\')).length % 2 = 1

def endsInQuote (text : Text) : Bool :=
  text.getLast? = some (.char '"') && !endsInBackslash text.dropLast

def escapes : List (Char × Char) :=
  [('n', '\n'), ('t', '\t'), ('r', '\r'), ('a', '\x07'), ('b', '\x08'), ('v', '\x0b'),
    ('f', '\x0c'), ('\\', '\\'), ('"', '"'), ('\'', '\'')]

/-- Quoted text with its escapes replaced; a backslash at the end is dropped. -/
def unescape : Text → Text
  | [] => []
  | [point] => if point = '\\' then [] else [point]
  | point :: next :: rest =>
      if point = '\\' then
        match escapes.find? fun escape => CodePoint.char escape.1 = next with
        | some (_, meaning) => .char meaning :: unescape rest
        | none => point :: next :: unescape rest
      else point :: unescape (next :: rest)

inductive Continuation where
  | quoted
  | plain
  deriving DecidableEq

def plainValue (value : Text) : Text × Option Continuation :=
  if endsInBackslash value then (value.dropLast, some .plain) else (value, none)

/-- What the line of an option says of its value. Quotes around a value are dropped if it holds
neither quotes nor backslashes. -/
def firstValue (text : Text) : Text × Option Continuation :=
  let value := Text.trim (beforeRemark false true text)
  match value with
  | .char '"' :: point :: rest =>
      let inner := point :: rest
      if !endsInQuote inner then (unescape inner, some .quoted)
      else if inner.dropLast.any fun (point : CodePoint) => point = '\\' || point = '"' then
        (value, none)
      else (inner.dropLast, none)
  | _ => plainValue value

def furtherValue (continuation : Continuation) (line : Text) : Text × Option Continuation :=
  match continuation with
  | .plain => plainValue (Text.dropEndBlanks (beforeRemark false false line))
  | .quoted =>
      let line := Text.dropEndBlanks line
      if endsInQuote line then (unescape line.dropLast, none) else (unescape line, some .quoted)

/-! ## Lines -/

def isRemark (line : Text) : Bool :=
  match Text.trim line with
  | [] => true
  | point :: rest =>
      startsRemark point ||
        (!(line.head?.any Text.isBlank) &&
          ((Text.words (point :: rest)).head?.map Text.lower) = some (Text.ofString "rem"))

def endsName (point : CodePoint) : Bool :=
  point = '=' || point = ':'

structure Reader where
  part : Option Text
  /-- An option whose value goes on. -/
  pending : Option (Setting × Continuation)
  configuration : Configuration
  deriving DecidableEq

namespace Reader

def start : Reader := ⟨none, none, .empty⟩

def addValue (reader : Reader) (setting : Setting) (value : Text) :
    Option Continuation → Reader :=
  let longer := { setting with value := some (setting.value.getD [] ++ value) }
  fun
    | some continuation => { reader with pending := some (longer, continuation) }
    | none =>
        { reader with pending := none, configuration := reader.configuration.addSetting longer }

def addBare (reader : Reader) (part line : Text) : Option Reader :=
  let name := Text.trim (beforeRemark false false line)
  if name.any startsRemark then none
  else
    some { reader with
      configuration := reader.configuration.addSetting ⟨part, Text.lower name, none⟩ }

def optionLine (reader : Reader) (line : Text) : Option Reader :=
  let name := Text.trim (line.takeWhile fun point => !endsName point)
  match reader.part, line.dropWhile fun point => !endsName point with
  | none, _ => none
  | some part, [] => reader.addBare part line
  | some part, _ :: value =>
      if name.isEmpty then none
      else
        let (value, continuation) := firstValue value
        some (reader.addValue ⟨part, Text.lower name, none⟩ value continuation)

def step (reader : Reader) (line : Text) : Option Reader :=
  if isRemark line then some reader
  else
    match reader.pending with
    | some (setting, continuation) =>
        let (value, continuation) := furtherValue continuation line
        some (reader.addValue setting value continuation)
    | none =>
        match partName? (Text.trim line) with
        | some part =>
            some { reader with
              part := some part
              configuration := reader.configuration.addPart part }
        | none => reader.optionLine (Text.trim line)

def finish (reader : Reader) : Configuration :=
  match reader.pending with
  | some (setting, _) => reader.configuration.addSetting setting
  | none => reader.configuration

end Reader

def readText? (configuration : Configuration) (text : Text) : Option Configuration :=
  ((Lines.split (.char '\n') text).foldlM Reader.step ⟨none, none, configuration⟩).map Reader.finish

def readBytes? (configuration : Configuration) (content : Utf8.Bytes) : Option Configuration :=
  match Utf8.decode content with
  | .error _ => none
  | .ok (.char '\uFEFF' :: text) => configuration.readText? text
  | .ok text => configuration.readText? text

/-! ## Options -/

/-- The options of a part, the defaults before its own. -/
def settingsOf (configuration : Configuration) (part : Text) : List Setting :=
  configuration.settings.filter (·.part = defaultPart) ++
    configuration.settings.filter (·.part = part)

/-- The option of a part, if the part was opened and has it or the defaults do. The last one
counts. -/
def get? (configuration : Configuration) (part name : String) : Option Setting :=
  if configuration.parts.contains (Text.ofString part) then
    (configuration.settingsOf part).reverse.find? (·.name = Text.ofString name)
  else none

def onWords : List Text :=
  ["true", "yes", "on", "1"]

def isOn (configuration : Configuration) (part name : String) : Bool :=
  match configuration.get? part name with
  | some ⟨_, _, some value⟩ => onWords.contains (Text.lower value)
  | some ⟨_, _, none⟩ => true
  | none => false

/-! ## Other configurations -/

structure Owner where
  directory : Text
  head : Head
  deriving DecidableEq

inductive Condition where
  /-- The path of the repository fits a pattern. -/
  | directory (pattern : Text)
  /-- It does so when capital and small letters are not told apart. -/
  | directoryAnyCase (pattern : Text)
  | branch (pattern : Text)
  | remote (pattern : Text)
  deriving DecidableEq

namespace Condition

def kinds : List (String × (Text → Condition)) :=
  [("gitdir:", directory), ("gitdir/i:", directoryAnyCase), ("onbranch:", branch),
    ("hasconfig:remote.*.url:", remote)]

def ofPart? (part : Text) : Option Condition :=
  (Text.after? "includeif \"" part).bind fun rest =>
    let written := ((rest.reverse.dropWhile (· ≠ .char '"')).drop 1).reverse
    kinds.findSome? fun (word, condition) =>
      match Text.after? word written with
      | none | some [] => none
      | some pattern => some (condition (Text.trim pattern))

/-- A pattern for a path. It may start and end anywhere unless it says where. -/
def pathPattern (pattern : Text) : Text :=
  let fromTop := Text.startsWith "./" pattern || Path.isAbsolute pattern
  (if fromTop then [] else "**/" : Text) ++ pattern ++
    (if pattern.getLast? = some (.char '/') then "**" else [] : Text)

def holds? (owner : Owner) : Condition → Option Bool
  | directory pattern => some (Glob.holds (pathPattern pattern) owner.directory)
  | directoryAnyCase pattern =>
      some (Glob.holds (Text.asciiLower (pathPattern pattern)) (Text.asciiLower owner.directory))
  | branch pattern =>
      match owner.head with
      | .branch name => some (Glob.holds pattern name)
      | .detached => some false
      | .unclear => none
  | remote _ => none

end Condition

/-- Whether the options of a part are paths of configurations to include; none if that cannot be
told. -/
def isInclusion? (owner : Owner) (part : Text) : Option Bool :=
  if part = "include" then some true
  else
    match Condition.ofPart? part with
    | none => some false
    | some condition => condition.holds? owner

def includedPaths? (owner : Owner) (configuration : Configuration) : Option (List Text) :=
  (configuration.parts.eraseDups.filterM (isInclusion? owner)).map fun parts =>
    parts.flatMap fun part => (configuration.settingsOf part).filterMap Setting.value

/-- Reads files, at most so many, and those that they include, the latest first, before the others;
`seen` holds the files that were included. -/
def readFiles (workspace : Workspace) (owner : Owner) : (files : Nat) →
    (seen waiting : List Location) → Configuration → Option Configuration
  | 0, _, _, configuration => some configuration
  | _, _, [], configuration => some configuration
  | files + 1, seen, file :: waiting, configuration =>
      match workspace.content? file with
      | none => readFiles workspace owner files seen waiting configuration
      | some content =>
          match configuration.readBytes? content with
          | none => none
          | some configuration =>
              match configuration.includedPaths? owner with
              | none => none
              | some paths =>
                  let located (path : Text) : Location :=
                    if Path.isAbsolute path || (workspace.root ++ "/").isPrefixOf path then
                      workspace.locate path
                    else file.up.down (Path.parts path)
                  let fresh := (paths.map located).eraseDups.filter fun path =>
                    workspace.exists? path && !seen.contains path
                  readFiles workspace owner files (seen ++ fresh) (fresh.reverse ++ waiting)
                    configuration

def read? (workspace : Workspace) (owner : Owner) (file : Location) : Option Configuration :=
  readFiles workspace owner (workspace.entries.length + 1) [file] [file] empty

end Configuration

end ChangeImpact
