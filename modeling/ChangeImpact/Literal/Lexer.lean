import ChangeImpact.Literal.Numeral
import ChangeImpact.Text.Printable
import ChangeImpact.Text.Word
/-!
# From characters to tokens

The lexer goes through a source character by character and keeps the line, the open brackets and the
indentations that blocks began with. Inside brackets line ends and indentations do not count.
-/
set_option autoImplicit false

namespace ChangeImpact.Literal

/-- An indentation, measured twice: with tabs to the next column divisible by 8, and with tabs as
one column. -/
structure Indentation where
  columns : Nat
  plain : Nat
  deriving DecidableEq

structure Lexer where
  rest : List Char
  line : Nat
  /-- The open brackets, the innermost first. -/
  brackets : List Bracket
  /-- The indentations of the blocks, the innermost first. -/
  blocks : List Indentation
  fresh : Bool
  blank : Bool

/-- A part of a source: its tokens, and the source after it or how the source ends. -/
inductive LexerStep where
  | go (tokens : List Token) (next : Lexer)
  | stop (tokens : List Token) (ending : Ending)

namespace Lexer

def start (chars : List Char) : Lexer :=
  ⟨chars, 1, [], [⟨0, 0⟩], true, false⟩

def brokenOff (lexer : Lexer) : LayoutFault :=
  match lexer.brackets with
  | bracket :: _ => .neverClosed bracket.opening
  | [] => .endOfSource

def token (lexer : Lexer) (kind : Kind) (text rest : List Char) : Token :=
  ⟨kind, text, lexer.brackets.length, lexer.line, rest.isEmpty⟩

def emit (lexer : Lexer) (kind : Kind) (text rest : List Char) : LexerStep :=
  .go [lexer.token kind text rest] { lexer with rest := rest }

/-! ## Indentation -/

structure Margin where
  indentation : Indentation
  /-- The columns before the first continued line, if not zero. -/
  continued : Nat
  lines : Nat
  rest : List Char

/-- Measures the blanks at the start of a line. A backslash continues the line on the next one. -/
def marginFrom (now : Indentation) (continued lines : Nat) :
    List Char → Except (Option LayoutFault) Margin
  | ' ' :: rest => marginFrom ⟨now.columns + 1, now.plain + 1⟩ continued lines rest
  | '\t' :: rest => marginFrom ⟨(now.columns / 8 + 1) * 8, now.plain + 1⟩ continued lines rest
  | '\x0c' :: rest => marginFrom ⟨0, 0⟩ continued lines rest
  | ['\\', '\n'] => .error none
  | '\\' :: '\n' :: rest =>
      marginFrom now (if continued = 0 then now.columns else continued) (lines + 1) rest
  | '\\' :: _ => .error (some .afterBackslash)
  | rest => .ok ⟨now, continued, lines, rest⟩

def Margin.start (margin : Margin) : Indentation :=
  if margin.continued = 0 then margin.indentation else ⟨margin.continued, margin.continued⟩

def mostBlocks : Nat := 100

def leave (columns : Nat) : List Indentation → Nat × List Indentation
  | inner :: outer :: rest =>
      if columns < inner.columns then
        let (count, left) := leave columns (outer :: rest)
        (count + 1, left)
      else (0, inner :: outer :: rest)
  | blocks => (0, blocks)

def changeBlocks (lexer : Lexer) (now : Indentation) :
    Except LayoutFault (List Token × List Indentation) :=
  let inner := lexer.blocks.head?.getD ⟨0, 0⟩
  if inner.columns < now.columns then
    if mostBlocks ≤ lexer.blocks.length then .error .deepIndentation
    else if now.plain ≤ inner.plain then .error .mixedIndentation
    else .ok ([lexer.token .indent [] lexer.rest], now :: lexer.blocks)
  else
    let (count, left) := leave now.columns lexer.blocks
    let outer := left.head?.getD ⟨0, 0⟩
    if outer.columns ≠ now.columns then .error .unknownIndentation
    else if outer.plain ≠ now.plain then .error .mixedIndentation
    else .ok (List.replicate count (lexer.token .unindent [] lexer.rest), left)

def beginLine (lexer : Lexer) : LexerStep :=
  match marginFrom ⟨0, 0⟩ 0 0 lexer.rest with
  | .error fault => .stop [] (.layout (fault.getD lexer.brokenOff))
  | .ok margin =>
      let next :=
        { lexer with
          rest := margin.rest
          line := lexer.line + margin.lines
          fresh := false
          blank := margin.rest.head?.any fun c => c = '#' || c = '\n' }
      if next.blank || !lexer.brackets.isEmpty then .go [] next
      else
        match next.changeBlocks margin.start with
        | .error fault => .stop [] (.layout fault)
        | .ok (tokens, blocks) => .go tokens { next with blocks := blocks }

/-! ## Names -/

def keywords : List String :=
  ["False", "None", "True", "and", "as", "assert", "async", "await", "break", "class", "continue",
    "def", "del", "elif", "else", "except", "finally", "for", "from", "global", "if", "import",
    "in", "is", "lambda", "nonlocal", "not", "or", "pass", "raise", "return", "try", "while",
    "with", "yield"]

def characterFault (c : Char) : TokenFault :=
  if Text.isPrintable c then .badCharacter c else .hiddenCharacter c

def nameFault? : List Char → Option TokenFault
  | [] => none
  | c :: rest =>
      if Text.startsName c then (rest.find? (!Text.continuesName ·)).map characterFault
      else some (characterFault c)

def name (lexer : Lexer) : LexerStep :=
  let word := lexer.rest.takeWhile mayContinueName
  let rest := lexer.rest.dropWhile mayContinueName
  match nameFault? word with
  | some fault => .stop [] (.token fault)
  | none =>
      let text := String.ofList word
      lexer.emit (if keywords.contains text then .symbol text else .name) word rest

/-! ## Quoted texts -/

def quoteMarks : List Char := ['\'', '"']

def quotePreludes : List String :=
  ["", "b", "u", "r", "f", "br", "rb", "fr", "rf"]

/-- The number of letters before the quoted text at the start; none if there is none. -/
def prelude? (chars : List Char) : Option Nat :=
  [0, 1, 2].find? fun count =>
    quotePreludes.contains (String.ofList ((chars.take count).map Char.toLower)) &&
      (chars.drop count).head?.any quoteMarks.contains

/-- The rest after the closing quotes, and the lines passed; the error is the number of lines passed
where the text breaks off. Of the closing quotes `seen` have been read. -/
def closeQuoted (mark : Char) (long : Bool) (seen lines : Nat) :
    List Char → Except Nat (List Char × Nat)
  | [] => .error lines
  | '\\' :: c :: rest =>
      closeQuoted mark long 0 (if c = '\n' && !rest.isEmpty then lines + 1 else lines) rest
  | c :: rest =>
      if c = '\n' && !long then .error lines
      else if c = mark then
        if !long || seen = 2 then .ok (rest, lines)
        else closeQuoted mark long (seen + 1) lines rest
      else closeQuoted mark long 0 (if c = '\n' && !rest.isEmpty then lines + 1 else lines) rest

def quoted (lexer : Lexer) (letters : Nat) : LexerStep :=
  match lexer.rest.drop letters with
  | mark :: inside =>
      let doubled := inside.head? = some mark
      let long := doubled && (inside.drop 1).head? = some mark
      if doubled && !long then
        lexer.emit .quoted (lexer.rest.take (letters + 2)) (inside.drop 1)
      else
        match closeQuoted mark long 0 0 (if long then inside.drop 2 else inside) with
        | .error lines => .stop [] (.token (.openText long (lexer.line + lines)))
        | .ok (rest, lines) =>
            let text := lexer.rest.take (lexer.rest.length - rest.length)
            .go [{ lexer.token .quoted text rest with meetsEnd := false }]
              { lexer with rest := rest, line := lexer.line + lines }
  | [] => .stop [] .complete

/-! ## Symbols -/

def longSymbols : List String :=
  ["**=", "//=", "<<=", ">>=", "..."]

def doubleSymbols : List String :=
  ["!=", "%=", "&=", "**", "*=", "+=", "-=", "->", "//", "/=", ":=", "<<", "<=", "<>", "==", ">=",
    ">>", "@=", "^=", "|="]

def singleSymbols : List Char :=
  ['(', ')', '[', ']', ':', ',', ';', '+', '-', '*', '/', '|', '&', '<', '>', '=', '.', '%', '\x7b',
    '\x7d', '~', '^', '@']

def mostBrackets : Nat := 200

def closingOf : Char → Char
  | '(' => ')'
  | '[' => ']'
  | _ => '\x7d'

def bracketsAfter (lexer : Lexer) (c : Char) : Except TokenFault (List Bracket) :=
  if c = '(' || c = '[' || c = '\x7b' then
    if mostBrackets ≤ lexer.brackets.length then .error .tooManyBrackets
    else .ok (⟨c, lexer.line⟩ :: lexer.brackets)
  else if c = ')' || c = ']' || c = '\x7d' then
    match lexer.brackets with
    | [] => .error (.unmatched c)
    | bracket :: outer =>
        if closingOf bracket.opening = c then .ok outer
        else
          let line := if bracket.line = lexer.line then none else some bracket.line
          .error (.mismatched c bracket.opening line)
  else .ok lexer.brackets

def single (lexer : Lexer) (c : Char) (rest : List Char) : LexerStep :=
  match lexer.bracketsAfter c with
  | .error fault => .stop [] (.token fault)
  | .ok brackets =>
      if !Text.isPrintable c then .stop [] (.token (.hiddenCharacter c))
      else
        let kind := if singleSymbols.contains c then .symbol (String.singleton c) else Kind.sign
        { lexer with brackets := brackets }.emit kind [c] rest

def symbol (lexer : Lexer) (c : Char) (rest : List Char) : LexerStep :=
  let three := lexer.rest.take 3
  let two := lexer.rest.take 2
  if longSymbols.contains (String.ofList three) then
    .go [{ lexer.token (.symbol (String.ofList three)) three [] with meetsEnd := false }]
      { lexer with rest := lexer.rest.drop 3 }
  else if doubleSymbols.contains (String.ofList two) then
    lexer.emit (.symbol (String.ofList two)) two (lexer.rest.drop 2)
  else lexer.single c rest

/-! ## The source -/

def numeral (lexer : Lexer) : LexerStep :=
  match Numeral.read lexer.rest with
  | .error fault => .stop [] (.token fault)
  | .ok rest =>
      lexer.emit .numeral (lexer.rest.take (lexer.rest.length - rest.length)) rest

def lineEnd (lexer : Lexer) (rest : List Char) : LexerStep :=
  let next := { lexer with rest := rest, line := lexer.line + 1, fresh := true }
  if lexer.blank || !lexer.brackets.isEmpty then .go [] next
  else .go [{ lexer.token .lineEnd [] [] with meetsEnd := false }] next

def continueLine (lexer : Lexer) : List Char → LexerStep
  | ['\n'] => .stop [] (.layout lexer.brokenOff)
  | '\n' :: rest => .go [] { lexer with rest := rest, line := lexer.line + 1 }
  | _ => .stop [] (.layout .afterBackslash)

def isGap (c : Char) : Bool :=
  c = ' ' || c = '\t' || c = '\x0c'

def withoutGap (chars : List Char) : List Char :=
  match chars.dropWhile isGap with
  | '#' :: rest => rest.dropWhile (· ≠ '\n')
  | rest => rest

def inLine (lexer : Lexer) : LexerStep :=
  let here := { lexer with rest := withoutGap lexer.rest }
  match here.rest with
  | [] =>
      if here.brackets.isEmpty then .stop [here.token .sourceEnd [] []] .complete
      else .stop [] (.layout here.brokenOff)
  | c :: rest =>
      match prelude? here.rest with
      | some letters => here.quoted letters
      | none =>
          if mayStartName c then here.name
          else if c = '\n' then here.lineEnd rest
          else if c.isDigit || (c = '.' && Numeral.startsWithDigit rest) then here.numeral
          else if c = '\\' then here.continueLine rest
          else here.symbol c rest

def step (lexer : Lexer) : LexerStep :=
  if lexer.fresh then lexer.beginLine else lexer.inLine

/-- The tokens of at most so many steps, after those read before, the latest of which is first. -/
def run : Nat → List Token → Lexer → TokenList
  | 0, before, lexer => ⟨before.reverse.toArray, .complete, lexer.brackets.head?⟩
  | steps + 1, before, lexer =>
      match lexer.step with
      | .go tokens next => run steps (tokens.reverse ++ before) next
      | .stop tokens ending =>
          ⟨(tokens.reverse ++ before).reverse.toArray, ending, lexer.brackets.head?⟩

end Lexer

def plainLines : List Char → List Char
  | '\r' :: '\n' :: rest => '\n' :: plainLines rest
  | '\r' :: rest => '\n' :: plainLines rest
  | c :: rest => c :: plainLines rest
  | [] => []

/-- The tokens of a source. Each step but one a line takes a character away. -/
def TokenList.ofChars (chars : List Char) : TokenList :=
  Lexer.run (2 * chars.length + 3) [] (Lexer.start (plainLines chars))

end ChangeImpact.Literal
