import ChangeImpact.Literal.Fault
/-!
# Tokens

A source is cut into names, numerals, quoted texts and symbols; keywords are symbols. Line ends and
changes of the indentation are tokens outside brackets.
-/
set_option autoImplicit false

namespace ChangeImpact.Literal

inductive Kind where
  | name
  | numeral
  | quoted
  | symbol (text : String)
  /-- A sign that no expression has. -/
  | sign
  | lineEnd
  | indent
  | unindent
  | sourceEnd
  deriving DecidableEq

instance : Coe String Kind where
  coe := Kind.symbol

structure Token where
  kind : Kind
  text : List Char
  depth : Nat
  /-- The line that the token begins on, the first line being 1. -/
  line : Nat
  /-- Whether the end of the source had to be seen to know where the token ends. -/
  meetsEnd : Bool
  deriving DecidableEq

structure Bracket where
  opening : Char
  line : Nat
  deriving DecidableEq

inductive Ending where
  | complete
  | token (fault : TokenFault)
  | layout (fault : LayoutFault)
  deriving DecidableEq

/-- The tokens of a source up to its end or the first fault, how it ends, and the innermost bracket
that is open there. -/
structure TokenList where
  tokens : Array Token
  ending : Ending
  unclosed : Option Bracket

/-! ## Characters -/

/-- Whether a character can begin a name; those above ASCII are looked at later. -/
def mayStartName (c : Char) : Bool :=
  c.isAlpha || c = '_' || 0x80 ≤ c.toNat

def mayContinueName (c : Char) : Bool :=
  c.isAlphanum || c = '_' || 0x80 ≤ c.toNat

end ChangeImpact.Literal
