import ChangeImpact.Literal.Evaluate
import ChangeImpact.Literal.Parser
import ChangeImpact.Text.Utf8
/-!
# Literals in text

Text is a literal if it can be read as an expression that has a value by itself.
-/
set_option autoImplicit false

namespace ChangeImpact.Literal

inductive Fault where
  | surrogate (error : Utf8.EncodeError)
  | nullCharacter
  | parse (fault : ParseFault)
  | value (fault : ValueFault)
  deriving DecidableEq

/-- What is wrong with text, if it is no literal. Blanks before it do not count. -/
def fault? (text : Text) : Option Fault :=
  let text := text.dropWhile fun (point : CodePoint) => point = ' ' || point = '\t'
  match Utf8.encode text with
  | .error error => some (.surrogate error)
  | .ok _ =>
      let chars := text.filterMap CodePoint.toChar?
      if chars.contains '\x00' then some .nullCharacter
      else
        match Node.ofChars chars with
        | .error fault => some (.parse fault)
        | .ok node =>
            match node.evaluate with
            | .error fault => some (.value fault)
            | .ok _ => none

end ChangeImpact.Literal
