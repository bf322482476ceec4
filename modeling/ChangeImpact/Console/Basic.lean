import ChangeImpact.Console.Layout
import ChangeImpact.Console.Markup
import ChangeImpact.Impact.Report
/-!
# The console

A console has a width and may show colours. It prints styled text, lines with markup and the report
of an impact; the titles of a report are markup, its entries are not. A console without width prints
nothing.
-/
set_option autoImplicit false

namespace ChangeImpact

structure Console where
  width : Nat
  colour : Bool

namespace Console

def print (console : Console) (styled : StyledText) : Text :=
  if console.width = 0 then []
  else
    (layout console.width styled).flatMap fun line =>
      line.write console.width console.colour ++ [Report.lineEnd]

def printMarkup (console : Console) (markup : Text) : Except Markup.Error Text :=
  match Markup.read markup with
  | .error error => .error error
  | .ok styled => .ok (console.print styled)

def sectionStyle : Report.Section → Style
  | .additions => .coloured "green"
  | .deletions => .coloured "red"

def nameStyle : Style := .coloured "blue"

def entry (part : Report.Section) (label : Text) : StyledText :=
  let (kind, rest) := Report.kindAndRest label
  let styledKind := (StyledText.ofText [Report.tab]).append (.styled (sectionStyle part) kind)
  match rest with
  | none => styledKind
  | some name => styledKind.append (.styled nameStyle (" " ++ name))

/-! ## Reports -/

/-- What is printed at once: a line with markup, or text with its styles. -/
inductive Item where
  | markup (line : Text)
  | styled (text : StyledText)

def write (console : Console) : Item → Except Markup.Error Text
  | .markup line => console.printMarkup line
  | .styled text => .ok (console.print text)

def writeAll (console : Console) : List Item → Except Markup.Error Text
  | [] => .ok []
  | item :: rest =>
      match console.write item with
      | .error error => .error error
      | .ok text => (console.writeAll rest).map (text ++ ·)

def sectionItems (part : Report.Section) (range : Text) (labels : LabelSet) : List Item :=
  if labels.isEmpty then []
  else
    .markup (part.title range) :: labels.toList.map fun label => .styled (entry part label)

def reportItems (impact : Impact) (range : Text) : List Item :=
  if impact.isEmpty then [.markup (Report.noChanges range)]
  else
    sectionItems .additions range impact.added ++
      (Report.gapLines impact).map (fun line => .styled (.ofText line)) ++
      sectionItems .deletions range impact.removed

def printReport (console : Console) (impact : Impact) (range : Text) : Except Markup.Error Text :=
  console.writeAll (reportItems impact range)

end Console

end ChangeImpact
