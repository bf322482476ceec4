import ChangeImpact.Literal.Grammar.Basic
import ChangeImpact.Literal.Template
/-!
# From characters to expressions

A source is read by the rules of the grammar. If that fails, it is read once more to find out what
is wrong. Of two faults the one of characters is reported, even if it comes later; a bracket that is
never closed is reported if it was opened on a line before the place where the parser stopped.
-/
set_option autoImplicit false

namespace ChangeImpact.Literal

/-! ## Quoted texts -/

structure Quotation where
  /-- The letters before the quotes, in lower case. -/
  letters : List Char
  text : List Char

def Quotation.ofChars (chars : List Char) : Quotation :=
  let letters := chars.takeWhile (!Lexer.quoteMarks.contains ·)
  let quoted := chars.dropWhile (!Lexer.quoteMarks.contains ·)
  let quotes := if Template.isTripled (quoted.headD ' ') (quoted.drop 1) then 3 else 1
  ⟨letters.map Char.toLower, (quoted.drop quotes).take (quoted.length - 2 * quotes)⟩

namespace Quotation

def isBytes (quotation : Quotation) : Bool := quotation.letters.contains 'b'

def isRaw (quotation : Quotation) : Bool := quotation.letters.contains 'r'

def isTemplate (quotation : Quotation) : Bool := quotation.letters.contains 'f'

def fault? (quotation : Quotation) : Option QuotedFault :=
  if quotation.isBytes && !quotation.text.all Escape.isAscii then some .beyondAscii
  else if quotation.isRaw || quotation.isTemplate then none
  else if quotation.isBytes then Escape.byteFault? quotation.text
  else Escape.textFault? quotation.text

/-- Looks at quotations side by side, which have to be all of bytes or all of text. -/
def checkAll (inner : List Char → Except ParseFault Unit) (bytes : Option Bool) :
    List Quotation → Except ParseFault Unit
  | [] => .ok ()
  | quotation :: rest => do
      if let some fault := quotation.fault? then throw (fault : ParseFault)
      if bytes.any (· ≠ quotation.isBytes) then throw (QuotedFault.mixed : ParseFault)
      if quotation.isTemplate then
        let steps := quotation.text.length + 1
        let _ ← Template.parts inner quotation.isRaw steps 0 quotation.text
      checkAll inner (some quotation.isBytes) rest

def node (quotations : List Quotation) : Node :=
  if quotations.any isTemplate then .compound .template
  else if quotations.any isBytes then .constant .bytes
  else .constant .text

end Quotation

def quotedNode (inner : List Char → Except ParseFault Unit) (tokens : List Token) :
    Except ParseFault Node :=
  let quotations := tokens.map fun token => Quotation.ofChars token.text
  (Quotation.checkAll inner none quotations).map fun _ => Quotation.node quotations

/-! ## Which fault is reported -/

namespace TokenList

def lastTouched? (source : TokenList) (touched : Nat) : Option Token :=
  source.tokens[touched - 1]?

def laterFault? (source : TokenList) (touched : Nat) : Option ParseFault :=
  if source.tokens.size < touched then none
  else
    match source.ending, source.unclosed with
    | .token fault, _ => some fault
    | .layout _, some bracket =>
        let line := ((source.lastTouched? touched).map Token.line).getD 0
        if bracket.line < line then some (LayoutFault.neverClosed bracket.opening) else none
    | _, _ => none

/-- The fault to report instead of one that a rule reported. It is not looked for when the end of
the source has been seen. -/
def reported (source : TokenList) (touched : Nat) (fault : ParseFault) : ParseFault :=
  if (source.lastTouched? touched).any Token.meetsEnd then fault
  else (source.laterFault? touched).getD fault

def unknownFault (source : TokenList) (stopped touched : Nat) : ParseFault :=
  match (source.lastTouched? stopped).map Token.kind with
  | some .indent => GrammarFault.indented
  | some .unindent => GrammarFault.unindented
  | _ => (source.laterFault? touched).getD GrammarFault.invalid

end TokenList

/-! ## Reading -/

/-- How deep rules can stand in rules: no rule comes twice at one token but where it grows. -/
def depthFor (source : TokenList) : Nat :=
  400 * (source.tokens.size + 2)

def Reading.run (reading : Reading) (rule : Rule) : Except ParseFault Node :=
  let source := reading.source
  let read := Machine.runRule reading (depthFor source) rule
  match read Memory.start with
  | .ok (some (.node node)) _ => .ok node
  | .error fault memory => .error (source.reported memory.touched fault)
  | .ok _ stopped =>
      match read stopped.diagnose with
      | .error fault memory => .error (source.reported memory.touched fault)
      | .ok _ memory => .error (source.unknownFault stopped.touched memory.touched)

/-- Reads the expression in a template, with templates in it to a certain depth. -/
def readInner : (depth : Nat) → List Char → Except ParseFault Unit
  | 0, _ => .ok ()
  | depth + 1, chars =>
      let source := TokenList.ofChars ('(' :: chars ++ [')', '\n'])
      let reading : Reading := ⟨.expressions, source, quotedNode (readInner depth)⟩
      match reading.run (.expression .template) with
      | .ok _ => .ok ()
      | .error fault => .error { fault with inTemplate := true }

def Node.ofChars (chars : List Char) : Except ParseFault Node :=
  let reading : Reading :=
    ⟨.expressions, TokenList.ofChars chars, quotedNode (readInner chars.length)⟩
  reading.run (.expression .source)

end ChangeImpact.Literal
