import ChangeImpact.Console.Basic
import ChangeImpact.Failure
/-!
# Where the program writes

A terminal prints with a console and writes in UTF-8. A strict one refuses text with a surrogate in
it, which has no bytes. Items are printed one by one: what was printed before one that fails stays.
The sign of life that a console shows while the program waits is taken back, and left out here.
-/
set_option autoImplicit false

namespace ChangeImpact

structure Terminal where
  console : Console
  strict : Bool

namespace Terminal

def refusal? (terminal : Terminal) (text : Text) : Option Utf8.EncodeError :=
  if terminal.strict then
    match Utf8.encode text with
    | .error error => some error
    | .ok _ => none
  else none

def print (terminal : Terminal) (item : Console.Item) : Except Failure Text :=
  match terminal.console.write item with
  | .error error => .error (.badMarkup error)
  | .ok text =>
      match terminal.refusal? text with
      | some error => .error (.unprintable error)
      | none => .ok text

/-- Prints items up to the first that fails. -/
def printAll (terminal : Terminal) : List Console.Item → Text × Option Failure
  | [] => ([], none)
  | item :: rest =>
      match terminal.print item with
      | .error failure => ([], some failure)
      | .ok text =>
          let (others, failure) := terminal.printAll rest
          (text ++ others, failure)

end Terminal

end ChangeImpact
