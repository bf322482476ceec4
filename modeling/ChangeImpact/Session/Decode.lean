import ChangeImpact.CommandLine.World
import ChangeImpact.Json.Value
import ChangeImpact.Text.HexDigit
/-!
# Worlds described in JSON

A description tells what a run meets: files, repository replies, the steps of the analyzer and the
environment. What a description leaves out is empty, and what it does not understand is left out.
-/
set_option autoImplicit false

namespace ChangeImpact.Session

open Json (Value)
open Utf8 (Bytes)

/-! ## Plain values -/

def text? : Value → Option Text
  | .string text => some text
  | _ => none

def word? (value : Value) : Option String :=
  (text? value).bind Text.toString?

def items : Value → List Value
  | .array items => items
  | _ => []

def fields : Value → Json.Members
  | .object members => members
  | _ => []

def isTrue : Option Value → Bool
  | some (.bool value) => value
  | _ => false

def integer? : Value → Option Int
  | .int value => some value
  | _ => none

/-- The values of an object's members, decoded; those that cannot be are left out. -/
def fieldsWith {α : Type} (decode : Value → Option α) (value : Value) : List (Text × α) :=
  (fields value).filterMap fun field => (decode field.2).map fun decoded => (field.1, decoded)

/-! ## Bytes -/

def bytesOfHex : Text → Bytes
  | high :: low :: rest =>
      match Text.hexValue? high, Text.hexValue? low with
      | some high, some low => UInt8.ofNat (high * 16 + low) :: bytesOfHex rest
      | _, _ => bytesOfHex rest
  | _ => []

def bytesOfText (text : Text) : Bytes :=
  match Utf8.encode text with
  | .ok bytes => bytes
  | .error _ => []

/-- Bytes are given as text, or in base 16 under the name `hex`. -/
def bytes? (value : Value) : Option Bytes :=
  match text? value with
  | some text => some (bytesOfText text)
  | none => ((value.member? "hex").bind text?).map bytesOfHex

/-! ## Files -/

def entry? (value : Value) : Option (List Text × FileEntry) :=
  match items value with
  | [path, content] =>
      (text? path).map fun path =>
        (Path.components path,
          match content with
          | .null => .directory
          | _ => .file ((bytes? content).getD []))
  | _ => none

/-- Programs of every system that only end, each with its status. -/
def systemPrograms : List (Text × Int) :=
  [("true", 0), ("false", 1), ("echo", 0), ("printf", 0), ("ls", 0), ("touch", 0), ("mkdir", 1),
    ("sleep", 1), ("test", 2)]

def programNames : List Text :=
  systemPrograms.map Prod.fst

def systemEntries : List (List Text × FileEntry) :=
  let directories : List Text :=
    ["bin", "boot", "dev", "etc", "home", "lib", "media", "mnt", "opt", "proc", "root", "run",
      "sbin", "srv", "sys", "tmp", "usr", "var"]
  let inner : List (List Text) :=
    [["dev", "shm"], ["etc", "ssl"], ["usr", "include"], ["usr", "lib"], ["usr", "local"],
      ["usr", "local", "bin"], ["usr", "sbin"], ["usr", "share"], ["var", "lib"], ["var", "log"],
      ["var", "tmp"]]
  let files : List (List Text) :=
    [["dev", "null"], ["dev", "zero"], ["etc", "passwd"], ["etc", "group"], ["etc", "hosts"],
      ["etc", "hostname"]]
  let programs := programNames.flatMap fun name =>
    [[Text.ofString "bin", name], [Text.ofString "usr", "bin", name]]
  (directories.map ([·]) ++ inner).map (fun place => (place, .directory)) ++
    (files ++ programs).map (fun place => (place, .file []))

def workspace (root : Text) (files : Option Value) : Workspace :=
  ⟨root, "/tmp", ((files.map items).getD []).filterMap entry?, systemEntries⟩

/-! ## The repository -/

def object? (value : Value) : Option RepositoryObject :=
  match (value.member? "type").bind word? with
  | some "commit" =>
      some (.commit (((value.member? "parents").map items).getD [] |>.filterMap text?))
  | some "tag" => ((value.member? "target").bind text?).map .tag
  | some "tree" => some .tree
  | some "blob" => some .blob
  | _ => none

def refTarget? (value : Value) : Option RefTarget :=
  (text? value).map fun text =>
    match Text.after? "ref: " text with
    | some name => .link name
    | none => .object text

def diffReply (value : Value) : DiffReply :=
  match (value.member? "fail").bind integer?, (value.member? "text").bind text? with
  | some status, _ => .failed status (((value.member? "stderr").bind text?).getD [])
  | none, some text => .bytes (bytesOfText text)
  | none, none => .bytes ((bytes? value).getD [])

def repository (value : Value) : Repository where
  objects := ((value.member? "objects").map (fieldsWith object?)).getD []
  refs := ((value.member? "refs").map (fieldsWith refTarget?)).getD []
  expressions := ((value.member? "rev_parse").map (fieldsWith text?)).getD []
  unreadable := ((value.member? "unreadable").map items).getD [] |>.filterMap text?
  searchFails := isTrue (value.member? "disambiguate_fails")
  bare := isTrue (value.member? "bare")
  diff := ((value.member? "diff").map diffReply).getD (.bytes [])

/-! ## The analyzer -/

def signal? (value : Value) : Option Channel.Signal :=
  match word? value with
  | some "TERM" => some .terminate
  | some "INT" => some .interrupt
  | _ => none

def scriptStep? (value : Value) : Option Channel.ScriptStep :=
  match fields value with
  | [(name, argument)] =>
      match name.toString? with
      | some "open" => some .openPipe
      | some "close" => some .closePipe
      | some "put" => (bytes? argument).map .put
      | some "write" => (bytes? argument).map .write
      | some "stderr" => (bytes? argument).map .writeError
      | some "exit" => (integer? argument).map .exit
      | some "die" => (integer? argument).map .die
      | some "hang" => some .hang
      | some "signal_parent" => (signal? argument).map .signalReader
      | _ => none
  | _ => none

def script (value : Value) : List Channel.ScriptStep :=
  (items value).filterMap scriptStep?

/-! ## The world -/

def root : Text := "<root>"

def analyzerCommand : Text := "analyzer"

def systemScripts : List (Text × List Channel.ScriptStep) :=
  systemPrograms.flatMap fun (name, status) =>
    [name, "/bin/" ++ name, "/usr/bin/" ++ name].map fun program => (program, [.exit status])

def commandVariable : Text := "PIT_ANALYZER_CMD"

def baseEnvironment (hasAnalyzer : Bool) : Settings.Environment :=
  let always : Settings.Environment :=
    [("HOME", "/root"), ("PIT_PIPE_PATH", "/tmp/pit.pipe"), ("PIT_POLL_INTERVAL", "0.005")]
  always ++ if hasAnalyzer then [(commandVariable, analyzerCommand)] else []

def environment (value : Value) : Settings.Environment :=
  ((value.member? "env").map (fieldsWith text?)).getD []

def analyzer? (value : Value) : Option (List Channel.ScriptStep) :=
  if (environment value).any (·.1 = commandVariable) then none
  else (value.member? "steps").map script

/-- How many blank lines there is room for where the described runs were made. -/
def room : Nat := 0x1000000000

/-- The described repository for every path; if there is none, it is searched for in the files. -/
def repositories (value : Value) (path : Text) :
    Except RepositoryPlace.Absence (Repository × Option Text) :=
  match (value.member? "repo").map repository with
  | some repository => .ok (repository, if repository.bare then none else some root)
  | none =>
      let files := workspace root (value.member? "files")
      let values := environment value ++ baseEnvironment (value.member? "steps").isSome
      (RepositoryPlace.find files values path).map fun place => (.empty, place.workTree)

def world (value : Value) : World :=
  { workspace := workspace root (value.member? "files")
    environment := environment value ++ baseEnvironment (value.member? "steps").isSome
    terminal := ⟨⟨1000, false⟩, false⟩
    repositories := repositories value
    programs :=
      ((analyzer? value).map fun steps => (analyzerCommand, steps)).toList ++ systemScripts
    signals := []
    room := room }

end ChangeImpact.Session
