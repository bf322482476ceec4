import ChangeImpact.Text.CodePoint
/-!
# Patterns of text

In a pattern a star stands for any text, a question mark for any code point, and brackets for one of
the code points between them, or, after an exclamation mark, for any other. All else stands for
itself.
-/
set_option autoImplicit false

namespace ChangeImpact.Glob

inductive Piece where
  | anyText
  | anyPoint
  | point (point : CodePoint)
  /-- A code point inside one of the ranges, or outside all of them. -/
  | among (inside : Bool) (ranges : List (CodePoint × CodePoint))
  deriving DecidableEq

/-! ## Reading -/

/-- The ranges between brackets; a hyphen between two code points makes one of them. -/
def rangesOf : Text → List (CodePoint × CodePoint)
  | first :: .char '-' :: last :: rest => (first, last) :: rangesOf rest
  | point :: rest => (point, point) :: rangesOf rest
  | [] => []

/-- The piece after an opening bracket and how much text it takes; none without a closing bracket. A
closing bracket that comes first stands for itself. -/
def bracketed? (text : Text) : Option (Piece × Nat) :=
  let outside := text.head? = some (.char '!')
  let marks := if outside then 1 else 0
  let inner := text.drop marks
  let length := 1 + ((inner.drop 1).takeWhile (· ≠ .char ']')).length
  if length < inner.length then
    some (.among (!outside) (rangesOf (inner.take length)), marks + length + 1)
  else none

/-- The pieces of a pattern of which the first `skip` code points belong to a piece before. -/
def piecesFrom (skip : Nat) : Text → List Piece
  | [] => []
  | point :: rest =>
      match skip with
      | skip + 1 => piecesFrom skip rest
      | 0 =>
          if point = '*' then
            if rest.head? = some (.char '*') then piecesFrom 0 rest
            else .anyText :: piecesFrom 0 rest
          else if point = '?' then .anyPoint :: piecesFrom 0 rest
          else
            match if point = '[' then bracketed? rest else none with
            | some (piece, length) => piece :: piecesFrom length rest
            | none => .point point :: piecesFrom 0 rest

def pieces (pattern : Text) : List Piece :=
  piecesFrom 0 pattern

/-! ## Matching -/

def Piece.holds (piece : Piece) (point : CodePoint) : Bool :=
  match piece with
  | .anyText | .anyPoint => true
  | .point wanted => point = wanted
  | .among inside ranges =>
      inside == ranges.any fun range =>
        range.1.code ≤ point.code && point.code ≤ range.2.code

def ends : Text → List Text
  | [] => [[]]
  | point :: rest => (point :: rest) :: ends rest

def matchesPieces : List Piece → Text → Bool
  | [], text => text.isEmpty
  | .anyText :: rest, text => (ends text).any (matchesPieces rest)
  | _ :: _, [] => false
  | piece :: rest, point :: text => piece.holds point && matchesPieces rest text

def holds (pattern text : Text) : Bool :=
  matchesPieces (pieces pattern) text

end ChangeImpact.Glob
