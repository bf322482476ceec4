import ChangeImpact.Literal.Escape
import ChangeImpact.Literal.Lexer
/-!
# Templates

A template is text with expressions in braces; two braces side by side are one brace of the text.
After an expression may stand an equals sign, a conversion behind an exclamation mark, and a format
behind a colon, which is a template once more, but only to a second level.
-/
set_option autoImplicit false

namespace ChangeImpact.Literal.Template

def isBrace (c : Char) : Bool :=
  c = '\x7b' || c = '\x7d'

/-! ## Text between expressions -/

/-- A piece of text, what follows it, and whether it ends with a brace that was written twice. -/
structure Piece where
  text : List Char
  rest : List Char
  doubled : Bool

def Piece.cons (c : Char) (piece : Piece) : Piece :=
  { piece with text := c :: piece.text }

/-- How many characters after the letter of a name's escape belong to it, as far as braces go. -/
def nameLength : List Char → Nat
  | [] => 0
  | '\x7b' :: rest => 1 + min rest.length ((rest.takeWhile (· ≠ '\x7d')).length + 1)
  | _ :: _ => 1

/-- The text up to the next brace, when the next `skip` characters belong to it. In raw text a
backslash is plain. In a format every brace counts. -/
def pieceFrom (raw format : Bool) (skip : Nat) : List Char → Except TemplateFault Piece
  | [] => .ok ⟨[], [], false⟩
  | c :: rest =>
      match skip with
      | skip + 1 => (pieceFrom raw format skip rest).map (Piece.cons c)
      | 0 =>
          if isBrace c then
            if format then .ok ⟨[], c :: rest, false⟩
            else if rest.head? = some c then .ok ⟨[c], rest.drop 1, true⟩
            else if c = '\x7d' then .error .singleBrace
            else .ok ⟨[], c :: rest, false⟩
          else
            let passed :=
              if c ≠ '\\' || raw then 0
              else
                match rest with
                | [] => 0
                | 'N' :: after => 1 + nameLength after
                | next :: _ => if isBrace next then 0 else 1
            (pieceFrom raw format passed rest).map (Piece.cons c)

/-! ## Expressions -/

structure InnerQuote where
  mark : Char
  long : Bool

def isTripled (c : Char) : List Char → Bool
  | second :: third :: _ => second = c && third = c
  | _ => false

def bracketsAfter (brackets : List Char) (c : Char) : Except TemplateFault (List Char) :=
  if c = '(' || c = '[' || c = '\x7b' then
    if Lexer.mostBrackets ≤ brackets.length then .error .tooManyBrackets else .ok (c :: brackets)
  else if c = ')' || c = ']' || c = '\x7d' then
    match brackets with
    | [] => .error (.unmatched c)
    | opening :: outer =>
        if Lexer.closingOf opening = c then .ok outer else .error (.mismatched c opening)
  else .ok brackets

/-- Whether a character outside brackets ends an expression; the signs of comparisons do not. -/
def endsExpression (c : Char) (rest : List Char) : Bool :=
  if rest.head? = some '=' then c = ':' || c = '\x7d'
  else c = '!' || c = ':' || c = '\x7d' || c = '='

def isPaired (c : Char) (rest : List Char) : Bool :=
  rest.head? = some '=' && (c = '!' || c = '=' || c = '<' || c = '>')

def brokenOff (quotation : Option InnerQuote) (brackets : List Char) : TemplateFault :=
  match quotation, brackets with
  | some _, _ => .openText
  | none, opening :: _ => .unmatched opening
  | none, [] => .missingBrace

def expressionFrom (quotation : Option InnerQuote) (brackets : List Char) (skip : Nat) :
    List Char → Except TemplateFault (List Char × List Char)
  | [] => .error (brokenOff quotation brackets)
  | c :: rest =>
      let go := fun (found : List Char × List Char) => (c :: found.1, found.2)
      match skip with
      | skip + 1 => (expressionFrom quotation brackets skip rest).map go
      | 0 =>
          if c = '\\' then .error .backslash
          else
            match quotation with
            | some inside =>
                let closes := c = inside.mark && (!inside.long || isTripled c rest)
                let passed := if closes && inside.long then 2 else 0
                let after := if closes then none else some inside
                (expressionFrom after brackets passed rest).map go
            | none =>
                if c = '\'' || c = '"' then
                  let long := isTripled c rest
                  let passed := if long then 2 else 0
                  (expressionFrom (some ⟨c, long⟩) brackets passed rest).map go
                else if c = '#' then .error .remark
                else if brackets.isEmpty && endsExpression c rest then .ok ([], c :: rest)
                else if brackets.isEmpty && isPaired c rest then
                  (expressionFrom none brackets 1 rest).map go
                else
                  match bracketsAfter brackets c with
                  | .error fault => .error fault
                  | .ok brackets => (expressionFrom none brackets 0 rest).map go

def isExpressionBlank (c : Char) : Bool :=
  Lexer.isGap c || c = '\n'

def isBlankAfterEquals (c : Char) : Bool :=
  c = ' ' || (0x09 ≤ c.toNat && c.toNat ≤ 0x0d)

def afterEquals : List Char → List Char
  | '=' :: rest => rest.dropWhile isBlankAfterEquals
  | rest => rest

def afterConversion : List Char → Except TemplateFault (List Char)
  | ['!'] => .error .missingBrace
  | '!' :: c :: rest =>
      if c = 's' || c = 'r' || c = 'a' then .ok rest else .error .badConversion
  | rest => .ok rest

def emptyFault? (expression rest : List Char) : Option TemplateFault :=
  if expression.all isExpressionBlank then
    match rest with
    | '\x7d' :: _ | [] => some .nothing
    | mark :: _ => some (.nothingBefore mark)
  else none

/-! ## The whole -/

def raised {α : Type} (result : Except TemplateFault α) : Except ParseFault α :=
  result.mapError fun (fault : TemplateFault) => (fault : ParseFault)

def deepest : Nat := 2

/-- Reads a template, or a format inside one, in at most so many steps, and gives what follows it.
The expressions are looked at by `inner`. -/
def parts (inner : List Char → Except ParseFault Unit) (raw : Bool) :
    (steps level : Nat) → List Char → Except ParseFault (List Char)
  | 0, _, chars => .ok chars
  | steps + 1, level, chars => do
      let piece ← raised (pieceFrom raw (level ≠ 0) 0 chars)
      if let some fault := if raw then none else Escape.textFault? piece.text then
        throw (fault : ParseFault)
      if piece.doubled then parts inner raw steps level piece.rest
      else
        match piece.rest with
        | '\x7b' :: rest =>
            if deepest ≤ level then throw (TemplateFault.tooDeep : ParseFault)
            let (expression, rest) ← raised (expressionFrom none [] 0 rest)
            if let some fault := emptyFault? expression rest then throw (fault : ParseFault)
            inner expression
            let rest ← raised (afterConversion (afterEquals rest))
            let rest ←
              match rest with
              | ':' :: rest => parts inner raw steps (level + 1) rest
              | rest => pure rest
            match rest with
            | '\x7d' :: rest => parts inner raw steps level rest
            | _ => throw (TemplateFault.missingBrace : ParseFault)
        | rest =>
            if level ≠ 0 && rest.isEmpty then throw (TemplateFault.missingBrace : ParseFault)
            return rest

end ChangeImpact.Literal.Template
