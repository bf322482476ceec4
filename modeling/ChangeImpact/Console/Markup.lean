import ChangeImpact.Console.Handler
import ChangeImpact.Console.StyledText
/-!
# Markup

In a line with markup a name between brackets opens a style, with a parameter perhaps, and one after
a slash closes it; an empty name after the slash closes the style opened last. Names are compared as
style definitions, or in lower case if they define nothing. A name that begins with an at sign
stands for a handler. An odd number of backslashes before a tag makes it plain text, and each pair
of them shows one.
-/
set_option autoImplicit false

namespace ChangeImpact.Console.Markup

/-! ## Tags -/

structure Tag where
  body : Text
  deriving DecidableEq

namespace Tag

def written (tag : Tag) : Text :=
  "[" ++ tag.body ++ "]"

def name (tag : Tag) : Text :=
  tag.body.takeWhile (· ≠ .char '=')

def parameter? (tag : Tag) : Option Text :=
  (tag.body.dropWhile (· ≠ .char '=')).tail?

/-- The name that a closing tag closes; none for an opening tag. -/
def closes? (tag : Tag) : Option Text :=
  match tag.name with
  | .char '/' :: name => some (Text.trim name)
  | _ => none

end Tag

def startsTag (point : CodePoint) : Bool :=
  (0x61 ≤ point.code && point.code ≤ 0x7a) || point = '#' || point = '/' || point = '@'

/-- The tag after an opening bracket, up to the next closing bracket with no opening one between. -/
def tagBody? : Text → Option Text
  | [] => none
  | point :: rest =>
      let inside := rest.takeWhile fun (point : CodePoint) => point ≠ '[' && point ≠ ']'
      if startsTag point && (rest.drop inside.length).head? = some (.char ']') then
        some (point :: inside)
      else none

def tagAt? (text : Text) : Option (Nat × Tag) :=
  let slashes := (text.takeWhile (· = .char '\\')).length
  match text.drop slashes with
  | .char '[' :: rest => (tagBody? rest).map fun body => (slashes, ⟨body⟩)
  | _ => none

inductive Token where
  | point (point : CodePoint)
  | tag (position : Nat) (tag : Tag)
  deriving DecidableEq

def tagTokens (position slashes : Nat) (tag : Tag) : List Token :=
  List.replicate (slashes / 2) (.point '\\') ++
    (if slashes % 2 = 1 then tag.written.map .point else [.tag (position + slashes) tag])

/-- The tokens from a position on, when the first `skip` code points belong to a token before. -/
def tokensFrom (position skip : Nat) : Text → List Token
  | [] => []
  | point :: rest =>
      match skip with
      | skip + 1 => tokensFrom (position + 1) skip rest
      | 0 =>
          match tagAt? (point :: rest) with
          | some (slashes, tag) =>
              tagTokens position slashes tag ++
                tokensFrom (position + 1) (slashes + tag.body.length + 1) rest
          | none =>
              if point = '\\' && rest.head? = some (.char '[') then
                .point '[' :: tokensFrom (position + 1) 1 rest
              else .point point :: tokensFrom (position + 1) 0 rest

def tokens (text : Text) : List Token :=
  tokensFrom 0 0 text

/-! ## Faults -/

inductive Error where
  | unmatched (tag : Tag) (position : Nat)
  | nothingToClose (position : Nat)
  | notNumber
  | tooLong (error : Numeral.TooLong)
  | badHandler (error : Handler.Error)
  deriving DecidableEq

def Error.message : Error → Text
  | unmatched tag position =>
      "closing tag '" ++ tag.written ++ "' at position " ++ toString position ++
        " doesn't match any open tag"
  | nothingToClose position =>
      "closing tag '[/]' at position " ++ toString position ++ " has nothing to close"
  | notNumber => "invalid literal for int() with base 10: ''"
  | tooLong error => error.message
  | badHandler error => error.message

def style? (definition : Text) : Except Error (Option Style) :=
  match Style.ofDefinition definition with
  | .ok style => .ok (some style)
  | .error .unknown => .ok none
  | .error .notNumber => .error .notNumber
  | .error (.tooLong error) => .error (.tooLong error)

def normalize (name : Text) : Except Error Text :=
  match style? name with
  | .error error => .error error
  | .ok (some style) => .ok (Text.joinWith " " style.definition)
  | .ok none => .ok (Text.lower (Text.trim name))

/-! ## Reading -/

structure Open where
  name : Text
  parameter : Option Text
  start : Nat

def Open.definition (tag : Open) : Text :=
  match tag.parameter with
  | some parameter => tag.name ++ " " ++ parameter
  | none => tag.name

def Open.check (tag : Open) : Except Error Unit :=
  if tag.name.head? = some (.char '@') then
    (Handler.check (tag.parameter.getD [])).mapError .badHandler
  else .ok ()

/-- A part of the text shown to which a definition applies. -/
structure Range where
  start : Nat
  finish : Nat
  definition : Text

/-- Puts a part before the first that does not begin earlier. -/
def Range.insert (range : Range) : List Range → List Range
  | [] => [range]
  | other :: rest =>
      if range.start ≤ other.start then range :: other :: rest else other :: range.insert rest

/-- The text shown so far, the latest code point first; the open tags, the innermost first; and the
parts that were closed, the latest first. -/
structure State where
  shown : Text
  opened : List Open
  closed : List Range

namespace State

def start : State := ⟨[], [], []⟩

def put (state : State) (point : CodePoint) : State :=
  if isDroppedControl point then state else { state with shown := point :: state.shown }

def push (state : State) (tag : Tag) : Except Error State :=
  match normalize tag.name with
  | .error error => .error error
  | .ok name =>
      .ok { state with opened := ⟨name, tag.parameter?, state.shown.length⟩ :: state.opened }

def take? (name : Text) : List Open → Option (Open × List Open)
  | [] => none
  | tag :: outer =>
      if tag.name = name then some (tag, outer)
      else (take? name outer).map fun (found, left) => (found, tag :: left)

def close (state : State) (tag : Open) (opened : List Open) : Except Error State :=
  match tag.check with
  | .error error => .error error
  | .ok _ =>
      .ok { state with
        opened := opened
        closed := ⟨tag.start, state.shown.length, tag.definition⟩ :: state.closed }

def pop (state : State) (position : Nat) : Except Error State :=
  match state.opened with
  | [] => .error (.nothingToClose position)
  | tag :: outer => state.close tag outer

def popNamed (state : State) (position : Nat) (tag : Tag) (name : Text) : Except Error State :=
  match normalize name with
  | .error error => .error error
  | .ok name =>
      match take? name state.opened with
      | none => .error (.unmatched tag position)
      | some (found, left) => state.close found left

def step (state : State) : Token → Except Error State
  | .point point => .ok (state.put point)
  | .tag position tag =>
      match tag.closes? with
      | none => state.push tag
      | some [] => state.pop position
      | some name => state.popNamed position tag name

def run (state : State) : List Token → Except Error State
  | [] => .ok state
  | token :: rest =>
      match state.step token with
      | .error error => .error error
      | .ok next => run next rest

/-- All parts, those of tags that were never closed included, by where they begin; of two that begin
at one place the one closed later is first. -/
def ranges (state : State) : List Range :=
  let unclosed := state.opened.map fun tag =>
    Range.mk tag.start state.shown.length tag.definition
  (unclosed.reverse ++ state.closed).foldr Range.insert []

end State

/-- The spans of parts; a definition that defines nothing gives a plain one. -/
def spansOf : List Range → Except Error (List StyleSpan)
  | [] => .ok []
  | range :: rest =>
      match style? range.definition, spansOf rest with
      | .ok style, .ok spans => .ok (⟨range.start, range.finish, style.getD .plain⟩ :: spans)
      | .error error, _ => .error error
      | _, .error error => .error error

def read (markup : Text) : Except Error StyledText :=
  match State.start.run (tokens markup) with
  | .error error => .error error
  | .ok state =>
      match spansOf state.ranges with
      | .error error => .error error
      | .ok spans => .ok ⟨state.shown.reverse, spans⟩

end ChangeImpact.Console.Markup
