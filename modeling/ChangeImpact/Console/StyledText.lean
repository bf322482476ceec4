import ChangeImpact.Console.Style
import ChangeImpact.Console.Width
/-!
# Styled text

Styled text is text with spans that lie over parts of it, each with a style. Where spans overlap, a
later one of the list is inside. Text is written in segments, which end wherever a span begins or
ends, also one that covers nothing; cutting text drops such spans.
-/
set_option autoImplicit false

namespace ChangeImpact.Console

/-- A style from one position of a text up to but not at another. -/
structure StyleSpan where
  start : Nat
  finish : Nat
  style : Style
  deriving DecidableEq

namespace StyleSpan

def shift (distance : Nat) (span : StyleSpan) : StyleSpan :=
  { span with start := span.start + distance, finish := span.finish + distance }

/-- What a span covers of the text from `low` up to but not at `high`. -/
def within? (low high : Nat) (span : StyleSpan) : Option StyleSpan :=
  let start := max low span.start - low
  let finish := min high span.finish - low
  if start < finish then some { span with start, finish } else none

def shorten? (length : Nat) (span : StyleSpan) : Option StyleSpan :=
  if span.start < length then some { span with finish := min length span.finish } else none

def lengthen (length more : Nat) (span : StyleSpan) : StyleSpan :=
  if length ≤ span.finish then { span with finish := span.finish + more } else span

end StyleSpan

/-- The control characters that a console leaves out: bell, backspace, the vertical feeds and
return. -/
def isDroppedControl (point : CodePoint) : Bool :=
  [7, 8, 11, 12, 13].contains point.code

def sanitize (text : Text) : Text :=
  text.filter fun point => !isDroppedControl point

structure StyledText where
  text : Text
  spans : List StyleSpan
  deriving DecidableEq

namespace StyledText

def empty : StyledText := ⟨[], []⟩

def ofText (text : Text) : StyledText :=
  ⟨sanitize text, []⟩

def styled (style : Style) (text : Text) : StyledText :=
  ⟨sanitize text, [⟨0, (sanitize text).length, style⟩]⟩

def append (first second : StyledText) : StyledText :=
  ⟨first.text ++ second.text, first.spans ++ second.spans.map (·.shift first.text.length)⟩

def concat (parts : List StyledText) : StyledText :=
  parts.foldl append empty

/-! ## Cutting -/

def slice (styled : StyledText) (low high : Nat) : StyledText :=
  ⟨(styled.text.take high).drop low, styled.spans.filterMap (·.within? low high)⟩

/-- The parts between cuts; without a cut the text is left as it is. -/
def divide (styled : StyledText) (cuts : List Nat) : List StyledText :=
  if cuts.isEmpty then [styled]
  else ((0 :: cuts).zip (cuts ++ [styled.text.length])).map fun (low, high) => styled.slice low high

def keep (styled : StyledText) (length : Nat) : StyledText :=
  if styled.text.length ≤ length then styled
  else ⟨styled.text.take length, styled.spans.filterMap (·.shorten? length)⟩

def withBeginning (styled : StyledText) (text : Text) : StyledText :=
  ⟨text, styled.spans.filterMap (·.shorten? text.length)⟩

/-- Text with blanks put to its end, which look as what was there. -/
def pad (styled : StyledText) (count : Nat) : StyledText :=
  ⟨styled.text ++ List.replicate count (.char ' '),
    styled.spans.map (·.lengthen styled.text.length count)⟩

def positionsFrom (wanted : CodePoint) (position : Nat) : Text → List Nat
  | [] => []
  | point :: rest =>
      if point = wanted then position :: positionsFrom wanted (position + 1) rest
      else positionsFrom wanted (position + 1) rest

def lines (styled : StyledText) : List StyledText :=
  match positionsFrom '\n' 0 styled.text with
  | [] => [styled]
  | ends =>
      ((0 :: ends.map (· + 1)).zip (ends ++ [styled.text.length])).map fun (low, high) =>
        styled.slice low high

/-! ## Segments -/

def boundaries (styled : StyledText) : List Nat :=
  (List.range (styled.text.length + 1)).filter fun position =>
    position = 0 || position = styled.text.length ||
      styled.spans.any fun span => span.start = position || span.finish = position

/-- The style of a segment: that of all spans over it, one inside the other. -/
def styleOf (styled : StyledText) (low high : Nat) : Style :=
  (styled.spans.filter fun span => span.start ≤ low && high ≤ span.finish).foldl
    (fun style span => style.combine span.style) .plain

def segments (styled : StyledText) : List (Style × Text) :=
  (styled.boundaries.zip styled.boundaries.tail).map fun (low, high) =>
    (styled.styleOf low high, (styled.text.take high).drop low)

end StyledText

/-! ## Writing -/

def escape : Char := Char.ofNat 27

def writeSegment (style : Style) (text : Text) : Text :=
  match style.codes with
  | [] => text
  | codes =>
      Text.ofChars (escape :: '[' :: (";".intercalate codes).toList ++ ['m']) ++ text ++
        Text.ofChars [escape, '[', '0', 'm']

/-- Segments up to the one that reaches the width, which is cut there; `column` is the width of what
comes before. -/
def cropSegments (width column : Nat) : List (Style × Text) → List (Style × Text)
  | [] => []
  | (style, text) :: rest =>
      if column + textWidth text < width then
        (style, text) :: cropSegments width (column + textWidth text) rest
      else [(style, fill (width - column) text)]

/-- The segments of a line, cropped if they take more than the width when each is taken alone. -/
def StyledText.fittingSegments (width : Nat) (styled : StyledText) : List (Style × Text) :=
  let taken := styled.segments.foldl (fun taken segment => taken + textWidth segment.2) 0
  if width < taken then cropSegments width 0 styled.segments else styled.segments

def StyledText.write (width : Nat) (colour : Bool) (styled : StyledText) : Text :=
  (styled.fittingSegments width).flatMap fun (style, text) =>
    if colour then writeSegment style text else text

end ChangeImpact.Console
