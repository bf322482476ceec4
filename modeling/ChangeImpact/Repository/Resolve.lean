import ChangeImpact.Failure
import ChangeImpact.Number.Numeral
import ChangeImpact.Repository.Basic
import ChangeImpact.Text.HexDigit
/-!
# From references to commits

A reference is tried as the head, as the head's first parent, as the beginning of a commit's name,
as the name of a reference, of a branch and of a tag, as a way from another reference through
parents, and at last by the repository itself. The first rule that gives a commit wins.
-/
set_option autoImplicit false

namespace ChangeImpact.Repository

/-- What a rule gives: a commit, nothing if it does not apply, or a failure that ends the search. -/
abbrev Attempt := Except Failure (Option Text)

namespace Attempt

def orElse (first : Attempt) (next : Unit → Attempt) : Attempt :=
  match first with
  | .ok none => next ()
  | found => found

def orUnresolved (attempt : Attempt) (ref : Text) : Except Failure Text :=
  match attempt with
  | .ok (some commit) => .ok commit
  | .ok none => .error (.unresolved ref none)
  | .error failure => .error failure

end Attempt

/-! ## Names -/

def withoutLineEnd (text : Text) : Text :=
  if text.getLast? = some (.char '\n') then text.dropLast else text

def isHash (text : Text) : Bool :=
  let digits := withoutLineEnd text
  digits.all Text.isHexDigit && 4 ≤ digits.length && digits.length ≤ 40

def isForbidden (point : CodePoint) : Bool :=
  Text.isBlank point || (Text.ofString "~^:?*[\\").contains point

def isForbiddenPair (first second : CodePoint) : Bool :=
  (first = '.' && second = '.') || (first = '@' && second = '\x7b')

def hasForbiddenPair : Text → Bool
  | first :: second :: rest => isForbiddenPair first second || hasForbiddenPair (second :: rest)
  | _ => false

def isPlainName (text : Text) : Bool :=
  match text with
  | [] => false
  | first :: _ =>
      first ≠ '/' && first ≠ '-' && !text.any isForbidden && !hasForbiddenPair text

/-! ## Rules -/

/-- The commit of the head. One that leads to another object is not foreseen. -/
def headCommit (repository : Repository) : Except Failure Text :=
  match repository.refObject? "HEAD" with
  | some (commit, .commit _) => .ok commit
  | some (name, object) => .error (.notCommit name object)
  | none => .error (.unresolved "HEAD" (some (Text.ofString "HEAD does not point at a commit")))

/-- The parent with this number, counted from one; zero stands for the commit itself. -/
def parent (repository : Repository) (ref commit : Text) : Nat → Except Failure Text
  | 0 => .ok commit
  | number + 1 =>
      match (repository.parents commit)[number]? with
      | some found => .ok found
      | none => .error (.noParent ref commit ((number : Int) + 1))

def firstParents (repository : Repository) (ref : Text) : (steps : Nat) → Text →
    Except Failure Text
  | 0, commit => .ok commit
  | steps + 1, commit =>
      match repository.parent ref commit 1 with
      | .error failure => .error failure
      | .ok next => repository.firstParents ref steps next

def asHead (repository : Repository) (ref : Text) : Attempt :=
  if ref = "HEAD" then repository.headCommit.map some else .ok none

def asHeadParent (repository : Repository) (ref : Text) : Attempt :=
  if ref = "HEAD^" then
    match repository.headCommit with
    | .error failure => .error failure
    | .ok commit => (repository.parent ref commit 1).map some
  else .ok none

def asHash (repository : Repository) (ref : Text) : Attempt :=
  if isHash ref && !repository.searchFails then
    match repository.commitsStartingWith (Text.asciiLower ref) with
    | [commit] => .ok (some commit)
    | _ => .ok none
  else .ok none

def asName (repository : Repository) (name : Text) : Attempt :=
  if isPlainName name then .ok (repository.refCommit? name) else .ok none

/-- The rules that look at the reference as a whole, up to the names of tags. -/
def asWhole (repository : Repository) (ref : Text) : Attempt :=
  ((((repository.asHead ref).orElse fun _ =>
    repository.asHeadParent ref).orElse fun _ =>
    repository.asHash ref).orElse fun _ =>
    repository.asName ref).orElse fun _ =>
    (repository.asName ("refs/heads/" ++ ref)).orElse fun _ =>
    repository.asName ("refs/tags/" ++ ref)

def asExpression (repository : Repository) (ref : Text) : Attempt :=
  if ref.head? = some (.char '-') then .ok none
  else
    match find? repository.expressions ref with
    | none => .ok none
    | some reply =>
        let commit := Text.trim reply
        .ok (if repository.isReadableCommit commit then some commit else none)

/-! ## Ways through parents -/

/-- A reference with the number of a parent after a caret, or a number of steps after a tilde, or
both. -/
structure Way where
  base : Text
  caret : Option Text
  tilde : Option Text
  deriving DecidableEq

def isStepMark (point : CodePoint) : Bool :=
  point = '^' || point = '~'

/-- Reads a way; one line end may follow a caret and its digits. -/
def way? (text : Text) : Option Way :=
  let base := text.takeWhile fun point => !isStepMark point
  if base.isEmpty then none
  else
    match text.dropWhile fun point => !isStepMark point with
    | .char '^' :: rest =>
        let digits := rest.takeWhile Text.isDecimalDigit
        match rest.dropWhile Text.isDecimalDigit with
        | [] => some ⟨base, some digits, none⟩
        | [.char '\n'] => some ⟨base, some digits, none⟩
        | .char '~' :: steps =>
            if steps.any isStepMark then none else some ⟨base, some digits, some steps⟩
        | _ => none
    | .char '~' :: steps => if steps.any isStepMark then none else some ⟨base, none, some steps⟩
    | _ => some ⟨base, none, none⟩

namespace Way

/-- The digits after the tilde; none if what stands there is no number. -/
def steps? (way : Way) : Option Text :=
  match way.tilde with
  | some (digit :: digits) =>
      if (digit :: digits).all Text.isDecimalDigit then some (digit :: digits) else none
  | _ => none

end Way

def readNumber (digits : Text) : Except Failure Nat :=
  match Numeral.ofDigits digits with
  | .ok number => .ok number
  | .error error => .error (.numeralTooLong error)

/-- The step that a caret asks for; without digits it is to the first parent. -/
def caretStep (repository : Repository) (ref commit : Text) :
    Option Text → Except Failure Text
  | none => .ok commit
  | some [] => repository.parent ref commit 1
  | some digits =>
      match readNumber digits with
      | .error failure => .error failure
      | .ok number => repository.parent ref commit number

def tildeSteps (repository : Repository) (ref commit : Text) :
    Option Text → Except Failure Text
  | none => .ok commit
  | some digits =>
      match readNumber digits with
      | .error failure => .error failure
      | .ok number => repository.firstParents ref number commit

def resolvePlain (repository : Repository) (ref : Text) : Except Failure Text :=
  ((repository.asWhole ref).orElse fun _ => repository.asExpression ref).orUnresolved ref

/-- The end of a way. Without a caret a number has to follow the tilde. -/
def asWay (repository : Repository) (ref : Text) : Attempt :=
  match way? ref with
  | none => .ok none
  | some way =>
      if way.caret.isNone && way.steps?.isNone then .ok none
      else
        match repository.resolvePlain way.base with
        | .error failure => .error failure
        | .ok base =>
            match repository.caretStep ref base way.caret with
            | .error failure => .error failure
            | .ok commit => (repository.tildeSteps ref commit way.steps?).map some

def resolve (repository : Repository) (ref : Text) : Except Failure Text :=
  (((repository.asWhole ref).orElse fun _ =>
    repository.asWay ref).orElse fun _ =>
    repository.asExpression ref).orUnresolved ref

end ChangeImpact.Repository
