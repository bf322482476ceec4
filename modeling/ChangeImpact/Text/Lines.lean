import ChangeImpact.Text.CodePoint
/-!
# Lines

Three ways to see lines in a list of symbols: the pieces between line feeds, with the empty piece
after a final line feed dropped; the same lines with their ends kept; and the lines between any of
Unicode's line breaks. The first is stated for any alphabet, so that it speaks of characters, code
points and bytes alike.
-/
set_option autoImplicit false

namespace ChangeImpact.Lines

variable {α : Type} [DecidableEq α]

def consPiece (separator symbol : α) (pieces : List (List α)) : List (List α) :=
  if symbol = separator then [] :: pieces
  else
    match pieces with
    | [] => [[symbol]]
    | piece :: rest => (symbol :: piece) :: rest

/-- The pieces of a list between the separators; there is one more piece than separators. -/
def pieces (separator : α) (symbols : List α) : List (List α) :=
  symbols.foldr (consPiece separator) [[]]

@[simp] theorem pieces_nil (separator : α) : pieces separator [] = [[]] := rfl

@[simp] theorem pieces_cons (separator symbol : α) (rest : List α) :
    pieces separator (symbol :: rest) = consPiece separator symbol (pieces separator rest) := rfl

theorem pieces_ne_nil (separator : α) (symbols : List α) : pieces separator symbols ≠ [] := by
  cases symbols with
  | nil => simp
  | cons symbol rest =>
      rw [pieces_cons]
      unfold consPiece
      split
      · simp
      · split <;> simp

/-- The pieces, without the last one if it is empty. -/
def split (separator : α) (symbols : List α) : List (List α) :=
  let all := pieces separator symbols
  if all.getLast? = some [] then all.dropLast else all

def join (separator : α) (lines : List (List α)) : List α :=
  lines.flatMap (· ++ [separator])

def consKept (separator symbol : α) (lines : List (List α)) : List (List α) :=
  if symbol = separator then [symbol] :: lines
  else
    match lines with
    | [] => [[symbol]]
    | line :: rest => (symbol :: line) :: rest

/-- The lines with their ends kept; only the last may lack one, and none is empty. -/
def splitKeepingEnds (separator : α) (symbols : List α) : List (List α) :=
  symbols.foldr (consKept separator) []

theorem splitKeepingEnds_cons (separator symbol : α) (rest : List α) :
    splitKeepingEnds separator (symbol :: rest) =
      consKept separator symbol (splitKeepingEnds separator rest) := rfl

theorem flatten_splitKeepingEnds (separator : α) (symbols : List α) :
    (splitKeepingEnds separator symbols).flatten = symbols := by
  induction symbols with
  | nil => rfl
  | cons symbol rest ih =>
      rw [splitKeepingEnds_cons]
      unfold consKept
      split
      · simp [ih]
      · split <;> rename_i shape <;> rw [shape] at ih <;> simp_all

/-- Unicode's line breaks that are one character: line feed, the vertical feeds, return, the ASCII
separators of files, groups and records, next line, and the two separators of lines and
paragraphs. -/
def isLineBreak (point : CodePoint) : Bool :=
  [0xa, 0xb, 0xc, 0xd, 0x1c, 0x1d, 0x1e, 0x85, 0x2028, 0x2029].contains point.code

def joinReturns : Text → Text
  | .char '\r' :: .char '\n' :: rest => '\n' :: joinReturns rest
  | point :: rest => point :: joinReturns rest
  | [] => []

def splitAtBreaks (text : Text) : List Text :=
  split (.char '\n')
    ((joinReturns text).map fun point => if isLineBreak point then .char '\n' else point)

def normalizeReturns (text : Text) : Text :=
  (joinReturns text).map fun (point : CodePoint) => if point = '\r' then .char '\n' else point

end ChangeImpact.Lines
