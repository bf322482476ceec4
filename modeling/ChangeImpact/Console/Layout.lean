import ChangeImpact.Console.StyledText
/-!
# Layout of a console line

Text is laid out in lines of at most a given width. A line breaks before a word that does not fit; a
word longer than a line is cut. Blanks that would stand beyond the end of a line are dropped.
-/
set_option autoImplicit false

namespace ChangeImpact.Console

/-! ## Tabs -/

def tabStop : Nat := 8

/-- A part that ends in a tab, with blanks up to the next tab stop in its place. -/
def expandTab (column : Nat) (part : StyledText) : StyledText :=
  let spaced : StyledText := ⟨part.text.dropLast ++ " ", part.spans⟩
  let filled := (column + textWidth spaced.text) % tabStop
  if filled = 0 then spaced else spaced.pad (tabStop - filled)

def expandParts (column : Nat) : List StyledText → List StyledText
  | [] => []
  | part :: rest =>
      let part := if part.text.getLast? = some (.char '\t') then expandTab column part else part
      part :: expandParts (column + textWidth part.text) rest

/-- A line with its tabs expanded; it is cut after each of them. -/
def expandTabs (line : StyledText) : StyledText :=
  match StyledText.positionsFrom '\t' 0 line.text with
  | [] => line
  | tabs => .concat (expandParts 0 (line.divide (tabs.map (· + 1))))

/-! ## Words -/

def consGroup (point : CodePoint) (groups : List Text) : List Text :=
  match groups with
  | [] => [[point]]
  | group :: rest =>
      if Text.isBlank point && !(group.head?.any Text.isBlank) then [point] :: group :: rest
      else (point :: group) :: rest

/-- The words of a line, each with the blanks after it and the first also with those before it. A
line of blanks has none. -/
def words (line : Text) : List Text :=
  match line.foldr consGroup [] with
  | [] => []
  | [group] => if group.all Text.isBlank then [] else [group]
  | first :: second :: rest =>
      if first.all Text.isBlank then (first ++ second) :: rest else first :: second :: rest

/-- Pieces of clusters, each as wide as fits; `column` is the width of the piece begun. -/
def chopFrom (width column : Nat) (piece : Text) : List Cluster → List Text
  | [] => [piece]
  | cluster :: rest =>
      if column + cluster.width ≤ width then
        chopFrom width (column + cluster.width) (piece ++ cluster.points) rest
      else piece :: chopFrom width cluster.width cluster.points rest

def chop (width : Nat) (word : Text) : List Text :=
  chopFrom width 0 [] (clusters word)

/-! ## Breaking -/

def pieceStarts (position : Nat) : List Text → List Nat
  | [] => []
  | piece :: rest => position :: pieceStarts (position + piece.length) rest

def breaks (width position column : Nat) : List Text → List Nat
  | [] => []
  | word :: rest =>
      let length := textWidth (Text.dropEndBlanks word)
      let next := position + word.length
      if column + length ≤ width then breaks width next (column + textWidth word) rest
      else if width < length then
        let pieces := chop width word
        let last := textWidth (pieces.getLast?.getD [])
        (pieceStarts position pieces).filter (· ≠ 0) ++ breaks width next last rest
      else position :: breaks width next (textWidth word) rest

/-- Drops blanks at the end, as many as the line has code points too many, and then whatever is
beyond the width. -/
def crop (width : Nat) (line : StyledText) : StyledText :=
  let blanks := line.text.length - (Text.dropEndBlanks line.text).length
  let cut := line.keep (line.text.length - min blanks (line.text.length - width))
  if textWidth cut.text ≤ width then cut else cut.withBeginning (fill width cut.text)

def wrap (width : Nat) (line : StyledText) : List StyledText :=
  (line.divide (breaks width 0 0 (words line.text))).map (crop width)

def layout (width : Nat) (styled : StyledText) : List StyledText :=
  styled.lines.flatMap fun line => wrap width (expandTabs line)

end ChangeImpact.Console
