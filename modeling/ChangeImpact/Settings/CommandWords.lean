import ChangeImpact.Text.CodePoint
/-!
# Splitting a command into words

Words stand between blanks. Between single quotes every code point stands for itself; between double
quotes a backslash escapes a double quote and a backslash; elsewhere it escapes anything.
-/
set_option autoImplicit false

namespace ChangeImpact.CommandWords

inductive Error where
  | noClosingQuote
  | noEscapedCharacter
  deriving DecidableEq

def Error.message : Error → String
  | noClosingQuote => "No closing quotation"
  | noEscapedCharacter => "No escaped character"

def isSeparator (point : CodePoint) : Bool :=
  point = ' ' || point = '\t' || point = '\r' || point = '\n'

def isQuote (point : CodePoint) : Bool :=
  point = '\'' || point = '"'

inductive Place where
  | between
  | inWord
  | quoted (mark : CodePoint)
  | escaped
  /-- After a backslash between double quotes. -/
  | escapedInQuotes
  deriving DecidableEq

def consWord (word : Text) (words : Except Error (List Text)) : Except Error (List Text) :=
  match words with
  | .ok words => .ok (word.reverse :: words)
  | .error error => .error error

/-- The words of the text left; `word` is the part read of the current one, latest first. -/
def splitFrom (place : Place) (word : Text) : Text → Except Error (List Text)
  | [] =>
      match place with
      | .between => .ok []
      | .inWord => .ok [word.reverse]
      | .quoted _ => .error .noClosingQuote
      | .escaped | .escapedInQuotes => .error .noEscapedCharacter
  | point :: rest =>
      match place with
      | .between =>
          if isSeparator point then splitFrom .between [] rest
          else if point = '\\' then splitFrom .escaped [] rest
          else if isQuote point then splitFrom (.quoted point) [] rest
          else splitFrom .inWord [point] rest
      | .inWord =>
          if isSeparator point then consWord word (splitFrom .between [] rest)
          else if point = '\\' then splitFrom .escaped word rest
          else if isQuote point then splitFrom (.quoted point) word rest
          else splitFrom .inWord (point :: word) rest
      | .quoted mark =>
          if point = mark then splitFrom .inWord word rest
          else if point = '\\' && mark = '"' then splitFrom .escapedInQuotes word rest
          else splitFrom (.quoted mark) (point :: word) rest
      | .escaped => splitFrom .inWord (point :: word) rest
      | .escapedInQuotes =>
          if point = '"' || point = '\\' then splitFrom (.quoted '"') (point :: word) rest
          else splitFrom (.quoted '"') (point :: '\\' :: word) rest

def split (command : Text) : Except Error (List Text) :=
  splitFrom .between [] command

end ChangeImpact.CommandWords
