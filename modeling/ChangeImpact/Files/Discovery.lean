import ChangeImpact.Failure
import ChangeImpact.Files.Configuration
/-!
# Finding a repository

The repository of a path is in the nearest directory, from the path upward, that holds one or is
one. In place of the repository a directory may hold a file that tells where it is. Several
repositories may share the objects and references of one; each of them has a work tree of its own.
-/
set_option autoImplicit false

namespace ChangeImpact

open Utf8 (Bytes)

/-- Where a repository lies: the path of its work tree, which a bare one has not, and its own
directory. -/
structure RepositoryPlace where
  workTree : Option Text
  directory : Location
  deriving DecidableEq

namespace RepositoryPlace

/-! ## Directories of repositories -/

def withoutLineEnds (text : Text) : Text :=
  (text.reverse.dropWhile fun point => point = .char '\n' || point = .char '\r').reverse

/-- Where a path leads that is written in a file of this directory. -/
def pathFrom (workspace : Workspace) (directory : Location) (path : Text) : Location :=
  if Path.isAbsolute path || (workspace.root ++ "/").isPrefixOf path then workspace.locate path
  else directory.down (Path.parts path)

def textIn? (workspace : Workspace) (file : Location) : Option Text :=
  (workspace.content? file).map fun content => Text.trim (Utf8.decodeLossy content)

def sharesObjects (workspace : Workspace) (directory : Location) : Bool :=
  (workspace.content? (directory.next "commondir")).isSome

/-- The directory with the objects and references of a repository: its own or the one that it
shares, whose path must not be empty. -/
def commonDirectory? (workspace : Workspace) (directory : Location) : Option Location :=
  match textIn? workspace (directory.next "commondir") with
  | none => some directory
  | some [] => none
  | some path => some (pathFrom workspace directory path)

/-- Whether a directory has a sound head, and objects and references of its own or shared. -/
def isComplete (workspace : Workspace) (directory : Location) : Bool :=
  match workspace.content? (directory.next "HEAD"), commonDirectory? workspace directory with
  | some head, some common =>
      Head.isSound (Utf8.decodeLossy (head.take Head.soundLength)) &&
        ["objects", "refs"].all fun name => workspace.isDirectory (common.next name)
  | _, _ => false

inductive Shape where
  | complete
  /-- It has the files of a repository that shares the objects of another, and is none. -/
  | broken
  | other
  deriving DecidableEq

def shape (workspace : Workspace) (directory : Location) : Shape :=
  if isComplete workspace directory then .complete
  else if ["HEAD", "gitdir", "commondir"].all fun name =>
      (workspace.content? (directory.next name)).isSome then
    .broken
  else .other

/-! ## Work trees -/

def configuration? (workspace : Workspace) (directory : Location) : Option Configuration :=
  let head := (workspace.content? (directory.next "HEAD")).getD []
  Configuration.read? workspace
    ⟨workspace.absolutePath directory, .ofText (Utf8.decodeLossy head)⟩ (directory.next "config")

/-- Whether the configuration says that there is no work tree. What shares the objects of another
repository has one. -/
def isBare (workspace : Workspace) (directory : Location) : Bool :=
  !sharesObjects workspace directory &&
    (configuration? workspace directory).any fun configuration => configuration.isOn "core" "bare"

def pointingWorkTree? (workspace : Workspace) (directory : Location) : Option Text :=
  if sharesObjects workspace directory then
    (textIn? workspace (directory.next "gitdir")).map fun path =>
      workspace.path (pathFrom workspace directory path).up
  else none

/-- The work tree of a repository that is found by its own directory: the one that points to it, the
one that it is configured for, which may be none, or the directory above. -/
def ownWorkTree (workspace : Workspace) (directory : Location) : Option Text :=
  match pointingWorkTree? workspace directory with
  | some path => some path
  | none =>
      match (configuration? workspace directory).bind (·.get? "core" "worktree") with
      | some setting => setting.value
      | none => some (workspace.path directory.up)

def make (workspace : Workspace) (directory : Location) (workTree : Option Text) :
    RepositoryPlace :=
  ⟨if isBare workspace directory then none else workTree, directory⟩

/-! ## The search -/

inductive Finding where
  | repository (place : RepositoryPlace)
  /-- What is there ends the search. -/
  | broken
  | nothing
  deriving DecidableEq

def pointed (workspace : Workspace) (directory : Location) (content : Bytes) : Finding :=
  match Text.after? "gitdir: " (withoutLineEnds (Utf8.decodeLossy content)) with
  | none | some [] => .broken
  | some path =>
      let target := pathFrom workspace directory path
      if shape workspace target = .complete then
        .repository (make workspace target (some (workspace.path directory)))
      else .broken

def at? (workspace : Workspace) (directory : Location) : Finding :=
  let inner := directory.next ".git"
  match workspace.content? inner with
  | some content => pointed workspace directory content
  | none =>
      match shape workspace inner with
      | .complete => .repository (make workspace inner (some (workspace.path directory)))
      | .broken => .broken
      | .other =>
          match shape workspace directory with
          | .complete =>
              .repository (make workspace directory (ownWorkTree workspace directory))
          | .broken => .broken
          | .other => .nothing

def upward : Location → List Location
  | .near 0 place =>
      (List.range (place.length + 1)).map fun steps => .near 0 (place.take (place.length - steps))
  | _ => []

def search (workspace : Workspace) : List Location → Finding
  | [] => .nothing
  | location :: rest =>
      match at? workspace location with
      | .nothing => search workspace rest
      | found => found

inductive Absence where
  | noPath
  | noRepository
  deriving DecidableEq

def Absence.failure (path : Text) : Absence → Failure
  | noPath => .notOpened path "path does not exist"
  | noRepository => .notOpened path Failure.notRepository

/-- The repository of a path, which may start at the home directory and name variables. -/
def find (workspace : Workspace) (values : List (Text × Text)) (path : Text) :
    Except Absence RepositoryPlace :=
  let location := workspace.locate (Path.expand values path)
  if workspace.exists? location then
    match search workspace (upward location) with
    | .repository place => .ok place
    | .broken | .nothing => .error .noRepository
  else .error .noPath

end RepositoryPlace

end ChangeImpact
