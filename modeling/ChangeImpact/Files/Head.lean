import ChangeImpact.Text.Blank
import ChangeImpact.Text.HexDigit
import ChangeImpact.Text.Lines
/-!
# The head of a repository

The head names a reference or an object. A repository has to have a head that looks like one; which
branch it names is asked for only by a configuration that depends on it.
-/
set_option autoImplicit false

namespace ChangeImpact

inductive Head where
  | branch (name : Text)
  | detached
  | unclear
  deriving DecidableEq

namespace Head

def soundLength : Nat := 255

def startsWithObject (text : Text) : Bool :=
  let digits := text.take 40
  digits.length = 40 && digits.all Text.isHexDigit

def isSound (text : Text) : Bool :=
  match Text.after? "ref:" text with
  | some rest =>
      Text.startsWith "refs/"
        (rest.dropWhile fun point => (Text.ofString " \t\n\r\x0b\x0c").contains point)
  | none => startsWithObject text

/-- The name of a reference without the two parts that tell its kind. -/
def shortName (reference : Text) : Text :=
  match Lines.pieces (.char '/') reference with
  | _ :: _ :: part :: rest => Text.joinWith "/" (part :: rest)
  | _ => reference

def ofText (text : Text) : Head :=
  match Text.words text with
  | [] => unclear
  | first :: rest =>
      if first = "ref:" then
        match rest with
        | reference :: _ => branch (shortName reference)
        | [] => unclear
      else if first.length = 40 && startsWithObject first then detached
      else unclear

end Head

end ChangeImpact
