import ChangeImpact.Number.Numeral
/-!
# What can be wrong with a literal

The faults of a literal stand in four groups: characters that make no token, tokens that make no
expression, quoted text that cannot be decoded, and templates, which hold expressions inside quoted
text. Each fault is a cause; its wording is one function for each group.
-/
set_option autoImplicit false

namespace ChangeImpact.Literal

/-! ## Characters -/

inductive NumeralKind where
  | decimal
  | hexadecimal
  | octal
  | binary
  | imaginary
  deriving DecidableEq

def NumeralKind.name : NumeralKind → String
  | decimal => "decimal"
  | hexadecimal => "hexadecimal"
  | octal => "octal"
  | binary => "binary"
  | imaginary => "imaginary"

def codeName (c : Char) : String :=
  let digits := (Nat.toDigits 16 c.toNat).map Char.toUpper
  "U+" ++ String.ofList (List.replicate (4 - digits.length) '0' ++ digits)

/-- Characters that make no token. Such a fault is reported wherever in the source it stands. -/
inductive TokenFault where
  | openText (long : Bool) (line : Nat)
  | badNumeral (kind : NumeralKind)
  | badDigit (digit : Char) (kind : NumeralKind)
  | leadingZeros
  | unmatched (closing : Char)
  /-- The line of the opening bracket is given if it is another one. -/
  | mismatched (closing opening : Char) (line : Option Nat)
  | tooManyBrackets
  | badCharacter (c : Char)
  | hiddenCharacter (c : Char)
  deriving DecidableEq

def TokenFault.message : TokenFault → String
  | openText long line =>
      "unterminated " ++ (if long then "triple-quoted " else "") ++
        "string literal (detected at line " ++ toString line ++ ")"
  | badNumeral kind => "invalid " ++ kind.name ++ " literal"
  | badDigit digit kind =>
      "invalid digit '" ++ String.singleton digit ++ "' in " ++ kind.name ++ " literal"
  | leadingZeros =>
      "leading zeros in decimal integer literals are not permitted; " ++
        "use an 0o prefix for octal integers"
  | unmatched closing => "unmatched '" ++ String.singleton closing ++ "'"
  | mismatched closing opening line =>
      "closing parenthesis '" ++ String.singleton closing ++
        "' does not match opening parenthesis '" ++ String.singleton opening ++ "'" ++
        match line with
        | some line => " on line " ++ toString line
        | none => ""
  | tooManyBrackets => "too many nested parentheses"
  | badCharacter c => "invalid character '" ++ String.singleton c ++ "' (" ++ codeName c ++ ")"
  | hiddenCharacter c => "invalid non-printable character " ++ codeName c

/-- A source whose lines break off or are badly laid out. Such a fault is reported when the parser
comes to it. -/
inductive LayoutFault where
  | afterBackslash
  | neverClosed (opening : Char)
  | endOfSource
  | mixedIndentation
  | unknownIndentation
  | deepIndentation
  deriving DecidableEq

def LayoutFault.message : LayoutFault → String
  | afterBackslash => "unexpected character after line continuation character"
  | neverClosed opening => "'" ++ String.singleton opening ++ "' was never closed"
  | endOfSource => "unexpected EOF while parsing"
  | mixedIndentation => "inconsistent use of tabs and spaces in indentation"
  | unknownIndentation => "unindent does not match any outer indentation level"
  | deepIndentation => "too many levels of indentation"

/-! ## Tokens -/

/-- Tokens that make no expression. A `what` names the kind of an expression. -/
inductive GrammarFault where
  | invalid
  | indented
  | unindented
  | forgottenComma
  | missingElse
  | missingParentheses (word : String)
  | namedTarget (what : String)
  | equalsSign
  | assignedHere (what : String)
  | assigned (what : String)
  | assignmentInArguments
  | spreadAfterKeywords
  | bareGenerator
  | positionalAfterKeyword (spread : Bool)
  | starHere
  | doubleStarHere
  | bareStar
  | spreadInComprehension
  | bareComprehensionTarget
  | dictionarySpreadInComprehension
  | missingColon
  | missingValue
  | starredValue
  | missingDefault
  | defaultBeforeParameter
  | parenthesizedParameters
  | slashFirst
  | slashTwice
  | slashAfterStar
  | slashBeforeStar
  | nothingAfterStar
  | starDefault
  | starTwice
  | doubleStarDefault
  | afterDoubleStar
  | tooManyDigits (fault : Numeral.TooLong)
  deriving DecidableEq

def GrammarFault.message : GrammarFault → String
  | invalid => "invalid syntax"
  | indented => "unexpected indent"
  | unindented => "unexpected unindent"
  | forgottenComma => "invalid syntax. Perhaps you forgot a comma?"
  | missingElse => "expected 'else' after 'if' expression"
  | missingParentheses word =>
      "Missing parentheses in call to '" ++ word ++ "'. Did you mean " ++ word ++ "(...)?"
  | namedTarget what => "cannot use assignment expressions with " ++ what
  | equalsSign => "invalid syntax. Maybe you meant '==' or ':=' instead of '='?"
  | assignedHere what =>
      "cannot assign to " ++ what ++ " here. Maybe you meant '==' instead of '='?"
  | assigned what => "cannot assign to " ++ what
  | assignmentInArguments => "expression cannot contain assignment, perhaps you meant \"==\"?"
  | spreadAfterKeywords => "iterable argument unpacking follows keyword argument unpacking"
  | bareGenerator => "Generator expression must be parenthesized"
  | positionalAfterKeyword spread =>
      "positional argument follows keyword argument" ++ if spread then " unpacking" else ""
  | starHere => "cannot use starred expression here"
  | doubleStarHere => "cannot use double starred expression here"
  | bareStar => "Invalid star expression"
  | spreadInComprehension => "iterable unpacking cannot be used in comprehension"
  | bareComprehensionTarget => "did you forget parentheses around the comprehension target?"
  | dictionarySpreadInComprehension => "dict unpacking cannot be used in dict comprehension"
  | missingColon => "':' expected after dictionary key"
  | missingValue => "expression expected after dictionary key and ':'"
  | starredValue => "cannot use a starred expression in a dictionary value"
  | missingDefault => "expected default value expression"
  | defaultBeforeParameter => "non-default argument follows default argument"
  | parenthesizedParameters => "Lambda expression parameters cannot be parenthesized"
  | slashFirst => "at least one argument must precede /"
  | slashTwice => "/ may appear only once"
  | slashAfterStar => "/ must be ahead of *"
  | slashBeforeStar => "expected comma between / and *"
  | nothingAfterStar => "named arguments must follow bare *"
  | starDefault => "var-positional argument cannot have default value"
  | starTwice => "* argument may appear only once"
  | doubleStarDefault => "var-keyword argument cannot have default value"
  | afterDoubleStar => "arguments cannot follow var-keyword argument"
  | tooManyDigits fault =>
      fault.message ++
        " - Consider hexadecimal for huge integer literals to avoid decimal conversion limits."

/-! ## Quoted text -/

inductive EscapeReason where
  | short (letter : Char) (digits : Nat)
  | tooLarge
  | badName
  deriving DecidableEq

def EscapeReason.message : EscapeReason → String
  | short letter digits =>
      "truncated \\" ++ String.singleton letter ++ String.ofList (List.replicate digits 'X') ++
        " escape"
  | tooLarge => "illegal Unicode character"
  | badName => "malformed \\N character escape"

/-- Quoted text that cannot be decoded. Positions count from the start of the text. -/
inductive QuotedFault where
  | beyondAscii
  | mixed
  /-- The positions are those of the first and the last character of the escape. -/
  | badEscape (first last : Nat) (reason : EscapeReason)
  | badByteEscape (position : Nat)
  deriving DecidableEq

def QuotedFault.message : QuotedFault → String
  | beyondAscii => "bytes can only contain ASCII literal characters"
  | mixed => "cannot mix bytes and nonbytes literals"
  | badEscape first last reason =>
      "(unicode error) 'unicodeescape' codec can't decode bytes in position " ++ toString first ++
        "-" ++ toString last ++ ": " ++ reason.message
  | badByteEscape position => "(value error) invalid \\x escape at position " ++ toString position

/-! ## Templates -/

inductive TemplateFault where
  | singleBrace
  | missingBrace
  | backslash
  | remark
  | openText
  | unmatched (bracket : Char)
  | mismatched (closing opening : Char)
  | tooManyBrackets
  | nothingBefore (mark : Char)
  | nothing
  | badConversion
  | tooDeep
  deriving DecidableEq

def TemplateFault.message : TemplateFault → String
  | singleBrace => "f-string: single '\x7d' is not allowed"
  | missingBrace => "f-string: expecting '\x7d'"
  | backslash => "f-string expression part cannot include a backslash"
  | remark => "f-string expression part cannot include '#'"
  | openText => "f-string: unterminated string"
  | unmatched bracket => "f-string: unmatched '" ++ String.singleton bracket ++ "'"
  | mismatched closing opening =>
      "f-string: closing parenthesis '" ++ String.singleton closing ++
        "' does not match opening parenthesis '" ++ String.singleton opening ++ "'"
  | tooManyBrackets => "f-string: too many nested parenthesis"
  | nothingBefore mark => "f-string: expression required before '" ++ String.singleton mark ++ "'"
  | nothing => "f-string: empty expression not allowed"
  | badConversion => "f-string: invalid conversion character: expected 's', 'r', or 'a'"
  | tooDeep => "f-string: expressions nested too deeply"

/-! ## All of them -/

inductive Cause where
  | token (fault : TokenFault)
  | layout (fault : LayoutFault)
  | grammar (fault : GrammarFault)
  | quoted (fault : QuotedFault)
  | template (fault : TemplateFault)
  deriving DecidableEq

def Cause.message : Cause → String
  | token fault => fault.message
  | layout fault => fault.message
  | grammar fault => fault.message
  | quoted fault => fault.message
  | template fault => fault.message

structure ParseFault where
  cause : Cause
  inTemplate : Bool
  deriving DecidableEq

namespace ParseFault

instance : Coe TokenFault ParseFault where
  coe fault := ⟨.token fault, false⟩

instance : Coe LayoutFault ParseFault where
  coe fault := ⟨.layout fault, false⟩

instance : Coe GrammarFault ParseFault where
  coe fault := ⟨.grammar fault, false⟩

instance : Coe QuotedFault ParseFault where
  coe fault := ⟨.quoted fault, false⟩

instance : Coe TemplateFault ParseFault where
  coe fault := ⟨.template fault, false⟩

/-- What is wrong; a fault inside a template says so, unless it is one of characters. -/
def message (fault : ParseFault) : String :=
  match fault.cause, fault.inTemplate with
  | .token cause, _ => cause.message
  | cause, true => "f-string: " ++ cause.message
  | cause, false => cause.message

end ParseFault

end ChangeImpact.Literal
