import ChangeImpact.Files.Path
import ChangeImpact.Text.Quoted
import ChangeImpact.Text.Utf8
/-!
# A directory and what is in it

A workspace is a directory with a known content, which is also where relative paths start. Outside
it the directories that hold it exist, and whatever of the rest of the file system is listed.

A path can be read in two ways. As it is written, two points drop the part before them, whatever
that is. As the system follows it, each part has to be in a directory.
-/
set_option autoImplicit false

namespace ChangeImpact

open Utf8 (Bytes)

inductive FileEntry where
  | file (content : Bytes)
  | directory
  deriving DecidableEq

inductive Location where
  /-- To a place so many levels above the workspace and then down, or in it if there are none. -/
  | near (levels : Nat) (place : List Text)
  /-- To a place of the file system, from its top. -/
  | system (place : List Text)
  deriving DecidableEq

namespace Location

def inside (place : List Text) : Location := near 0 place

def up : Location → Location
  | near levels [] => near (levels + 1) []
  | near levels place => near levels place.dropLast
  | system place => system place.dropLast

def next (location : Location) (part : Text) : Location :=
  if part = "." then location
  else if part = ".." then location.up
  else
    match location with
    | near levels place => near levels (place ++ [part])
    | system place => system (place ++ [part])

/-- The location after several parts, as they are written. -/
def down (location : Location) (parts : List Text) : Location :=
  parts.foldl next location

end Location

structure Workspace where
  /-- The path by which the directory is known. -/
  root : Text
  /-- The directory where that path starts if it does not start at the top. -/
  above : Text
  /-- What was put under it, by components of the path; directories above an entry exist too. -/
  entries : List (List Text × FileEntry)
  /-- What is known of the rest of the file system. -/
  system : List (List Text × FileEntry)

inductive Found where
  | file (content : Bytes)
  | directory
  | missing
  /-- A component before the last one is a file. -/
  | notDirectory
  deriving DecidableEq

namespace Workspace

def path (workspace : Workspace) : Location → Text
  | .near levels place =>
      (List.replicate levels (Text.ofString "..") ++ place).foldl
        (fun path part => path ++ "/" ++ part) workspace.root
  | .system place => "/" ++ Text.joinWith "/" place

def absolutePath (workspace : Workspace) (location : Location) : Text :=
  let path := workspace.path location
  if Path.isAbsolute path then path else workspace.above ++ "/" ++ path

/-! ## Content -/

/-- What was put at a place, the last time if it was several times. -/
def entry? (entries : List (List Text × FileEntry)) (place : List Text) : Option FileEntry :=
  (entries.reverse.find? (·.1 = place)).map Prod.snd

def hasBelow (entries : List (List Text × FileEntry)) (place : List Text) : Bool :=
  entries.any fun entry => place.isPrefixOf entry.1 && place.length < entry.1.length

def isFile (entries : List (List Text × FileEntry)) (place : List Text) : Bool :=
  match entry? entries place with
  | some (.file _) => true
  | _ => false

def placesAbove (place : List Text) : List (List Text) :=
  (List.range place.length).map place.take

def findIn (entries : List (List Text × FileEntry)) (place : List Text) : Found :=
  if (placesAbove place).any (isFile entries) then .notDirectory
  else
    match entry? entries place with
    | some (.file content) => .file content
    | some .directory => .directory
    | none => if place.isEmpty || hasBelow entries place then .directory else .missing

/-- What is at a location. The directories above the workspace exist, and nothing is known of what
is beside it. -/
def find (workspace : Workspace) : Location → Found
  | .near 0 place => findIn workspace.entries place
  | .near (_ + 1) [] => .directory
  | .near (_ + 1) (_ :: _) => .missing
  | .system place => findIn workspace.system place

def exists? (workspace : Workspace) (location : Location) : Bool :=
  match workspace.find location with
  | .file _ | .directory => true
  | .missing | .notDirectory => false

def isDirectory (workspace : Workspace) (location : Location) : Bool :=
  workspace.find location = .directory

def content? (workspace : Workspace) (location : Location) : Option Bytes :=
  match workspace.find location with
  | .file content => some content
  | _ => none

/-! ## Paths as written -/

def startOf (workspace : Workspace) (path : Text) : Location × Text :=
  if path = workspace.root then (.inside [], [])
  else if (workspace.root ++ "/").isPrefixOf path then
    (.inside [], path.drop workspace.root.length)
  else if Path.isAbsolute path then (.system [], path)
  else (.inside [], path)

/-- Where a path leads as it is written. -/
def locate (workspace : Workspace) (path : Text) : Location :=
  let (start, rest) := workspace.startOf path
  start.down (Path.parts rest)

/-! ## Paths as the system follows them -/

inductive Obstacle where
  | missing
  | notDirectory
  | nameTooLong
  deriving DecidableEq

/-- Follows parts from a location; what the last one leads to need not exist. -/
def follow (workspace : Workspace) (location : Location) : List Text → Except Obstacle Location
  | [] => .ok location
  | part :: rest =>
      match workspace.find location with
      | .missing => .error .missing
      | .file _ | .notDirectory => .error .notDirectory
      | .directory =>
          if Path.longestPart < Path.size part then .error .nameTooLong
          else workspace.follow (location.next part) rest

/-- Where the system finds a path. A slash at its end asks for a directory before it. -/
def resolve (workspace : Workspace) (path : Text) : Except Obstacle Location :=
  if Path.longest < Path.size path then .error .nameTooLong
  else
    let (start, rest) := workspace.startOf path
    workspace.follow start
      (Path.parts rest ++ if rest.getLast? = some (.char '/') then [Text.ofString "."] else [])

end Workspace

/-! ## Errors of the system -/

def systemError (number : Nat) (text : String) (path : Text) : Text :=
  "[Errno " ++ toString number ++ "] " ++ text ++ ": " ++ Text.quoted path

def noSuchFile (path : Text) : Text := systemError 2 "No such file or directory" path

def notPermitted (path : Text) : Text := systemError 13 "Permission denied" path

def notADirectory (path : Text) : Text := systemError 20 "Not a directory" path

def isADirectory (path : Text) : Text := systemError 21 "Is a directory" path

def nameTooLong (path : Text) : Text := systemError 36 "File name too long" path

end ChangeImpact
