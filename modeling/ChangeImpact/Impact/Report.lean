import ChangeImpact.Impact.Basic
import ChangeImpact.Text.Lines
/-!
# The report of an impact

A section lists the labels touched by additions and another those touched by deletions, each in
order of code points; an empty section is left out. Without any label there is one line that says
so.
-/
set_option autoImplicit false

namespace ChangeImpact.Report

/-- Splits a label at its first space into its kind and the rest. A label without a space is all
kind. -/
def kindAndRest : Text → Text × Option Text
  | [] => ([], none)
  | point :: rest =>
      if point = ' ' then ([], some rest)
      else
        let (kind, name) := kindAndRest rest
        (point :: kind, name)

inductive Section where
  | additions
  | deletions
  deriving DecidableEq

def Section.name : Section → String
  | additions => "additions"
  | deletions => "deletions"

def Section.title (part : Section) (range : Text) : Text :=
  "Functions with " ++ part.name ++ " in " ++ range ++ ":"

def noChanges (range : Text) : Text :=
  "No functions changed in " ++ range

def tab : CodePoint := '\t'

def lineEnd : CodePoint := '\n'

def sectionLines (part : Section) (range : Text) (labels : LabelSet) : List Text :=
  if labels.isEmpty then []
  else part.title range :: labels.toList.map (tab :: ·)

def gapLines (impact : Impact) : List Text :=
  if impact.added.isEmpty || impact.removed.isEmpty then [] else [[]]

def lines (impact : Impact) (range : Text) : List Text :=
  if impact.isEmpty then [noChanges range]
  else
    sectionLines .additions range impact.added ++ gapLines impact ++
      sectionLines .deletions range impact.removed

def render (impact : Impact) (range : Text) : Text :=
  Lines.join lineEnd (lines impact range)

end ChangeImpact.Report
