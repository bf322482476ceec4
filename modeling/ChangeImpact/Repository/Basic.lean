import ChangeImpact.Text.CodePoint
/-!
# What a repository answers

The questions that are put to a repository and the replies to them: its objects, its references, the
expressions that it evaluates itself, and the patch between two commits.
-/
set_option autoImplicit false

namespace ChangeImpact

inductive RepositoryObject where
  | commit (parents : List Text)
  | tag (target : Text)
  | tree
  | blob
  deriving DecidableEq

/-- What a reference holds: the name of an object, or of another reference. -/
inductive RefTarget where
  | object (name : Text)
  | link (name : Text)
  deriving DecidableEq

inductive DiffReply where
  | bytes (output : List UInt8)
  | failed (status : Int) (errorText : Text)
  /-- An interrupt from the keyboard came first. -/
  | interrupted
  deriving DecidableEq

structure Repository where
  objects : List (Text × RepositoryObject)
  refs : List (Text × RefTarget)
  /-- Expressions with the text that they evaluate to. -/
  expressions : List (Text × Text)
  /-- Objects that cannot be read by name. -/
  unreadable : List Text
  /-- Whether the search for objects by the start of their name fails. -/
  searchFails : Bool
  bare : Bool
  diff : DiffReply

namespace Repository

def empty : Repository := ⟨[], [], [], [], false, false, .bytes []⟩

def find? {α : Type} (pairs : List (Text × α)) (key : Text) : Option α :=
  (pairs.find? (·.1 = key)).map Prod.snd

def object? (repository : Repository) (name : Text) : Option RepositoryObject :=
  find? repository.objects name

def isCommit (repository : Repository) (name : Text) : Bool :=
  match repository.object? name with
  | some (.commit _) => true
  | _ => false

def parents (repository : Repository) (name : Text) : List Text :=
  match repository.object? name with
  | some (.commit parents) => parents
  | _ => []

/-- The object with this name, or the one that it names if it is a tag, with its own name. -/
def peeled? (repository : Repository) (name : Text) : Option (Text × RepositoryObject) :=
  match repository.object? name with
  | some (.tag target) => (repository.object? target).map fun object => (target, object)
  | found => found.map fun object => (name, object)

def follow? (repository : Repository) : (links : Nat) → Text → Option Text
  | 0, _ => none
  | links + 1, name =>
      match find? repository.refs name with
      | none => none
      | some (.object target) => some target
      | some (.link next) => repository.follow? links next

def longestChain : Nat := 6

def refObject? (repository : Repository) (name : Text) : Option (Text × RepositoryObject) :=
  match repository.follow? longestChain name with
  | some target => repository.peeled? target
  | none => none

def refCommit? (repository : Repository) (name : Text) : Option Text :=
  match repository.refObject? name with
  | some (commit, .commit _) => some commit
  | _ => none

def isReadableCommit (repository : Repository) (name : Text) : Bool :=
  !repository.unreadable.contains name && repository.isCommit name

def commitsStartingWith (repository : Repository) (text : Text) : List Text :=
  (repository.objects.map Prod.fst).filter fun name =>
    text.isPrefixOf name && repository.isReadableCommit name

def setRef (repository : Repository) (name : Text) (target : Option RefTarget) : Repository :=
  let others := repository.refs.filter (·.1 ≠ name)
  { repository with refs := others ++ (target.map fun target => (name, target)).toList }

def addObject (repository : Repository) (name : Text) (object : RepositoryObject) : Repository :=
  { repository with objects := (name, object) :: repository.objects.filter (·.1 ≠ name) }

end Repository

end ChangeImpact
