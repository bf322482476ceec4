import ChangeImpact.Text.Blank
import ChangeImpact.Text.DecimalDigit
/-!
# The lines of a patch outside its hunks

Each recogniser looks at one line, with its line end if it has one. Where a line can be read in
several ways, the first name is as long as possible, but in the remark on binary files as short as
possible.
-/
set_option autoImplicit false

namespace ChangeImpact.Patch.Header

open Text (after? startsWith isAsciiDigit)

def body (line : Text) : Text :=
  line.takeWhile (· ≠ .char '\n')

def inName (point : CodePoint) : Bool :=
  point ≠ '\t' && point ≠ '\n'

/-- All ways to cut a list in two, from the longest first part to the empty one. -/
def cuts {α : Type} (items : List α) : List (List α × List α) :=
  (List.range (items.length + 1)).reverse.map fun count => (items.take count, items.drop count)

/-! ## The header of a file -/

def withoutQuote : Text → Text
  | .char '"' :: rest => rest
  | name => name

/-- A name after the given component, which a quote may precede. -/
def namesUnder (component : String) (name : Text) : Bool :=
  match after? component (withoutQuote name) with
  | some (_ :: _) => true
  | _ => false

def sidedNames? (names : Text) : Option (Text × Text) :=
  (cuts (names.takeWhile inName)).findSome? fun
    | (source, .char ' ' :: target) =>
        if namesUnder "a/" source && namesUnder "b/" target then some (source, target) else none
    | _ => none

def location? (text : Text) : Option Text :=
  (cuts text).findSome? fun (front, rest) =>
    match after? "://" rest with
    | some rest =>
        match rest.takeWhile inName with
        | [] => none
        | name => some (front ++ "://" ++ name)
    | none => none

def locations? (names : Text) : Option (Text × Text) :=
  (cuts (body names)).findSome? fun (front, rest) =>
    match after? "://" rest with
    | none => none
    | some rest =>
        let beyond := rest.dropWhile inName
        (cuts (rest.takeWhile inName)).findSome? fun
          | (name, .char ' ' :: more) =>
              if name.isEmpty then none
              else (location? (more ++ beyond)).map fun target =>
                (front ++ "://" ++ name, target)
          | _ => none

def anyNames? (names : Text) : Option (Text × Text) :=
  (cuts (names.takeWhile inName)).findSome? fun
    | (source, .char ' ' :: target) =>
        if source.isEmpty || target.isEmpty then none else some (source, target)
    | _ => none

def fileNames? (line : Text) : Option (Text × Text) :=
  match after? "diff --git " line with
  | none => none
  | some names => (sidedNames? names).or ((locations? names).or (anyNames? names))

def isNumbered (word : String) (line : Text) : Bool :=
  match after? word (body line) with
  | some digits => !digits.isEmpty && digits.all Text.isDecimalDigit
  | none => false

def isLowerHex (point : CodePoint) : Bool :=
  isAsciiDigit point || (0x61 ≤ point.code && point.code ≤ 0x66)

def isIndex (line : Text) : Bool :=
  match after? "index " (body line) with
  | none => false
  | some rest =>
      match after? ".." (rest.dropWhile isLowerHex) with
      | none => false
      | some more =>
          !(rest.takeWhile isLowerHex).isEmpty && !(more.takeWhile isLowerHex).isEmpty &&
            isNumbered " " (more.dropWhile isLowerHex)

def isIgnored (line : Text) : Bool :=
  isNumbered "old mode " line || isNumbered "new mode " line || isIndex line

/-- The name on the line of the source or of the target, up to a tab. -/
def nameAfter? (word : String) (line : Text) : Option Text :=
  (after? word line).map (·.takeWhile inName)

/-! ## The header of a hunk -/

def digits? (text : Text) : Option (Text × Text) :=
  match text.takeWhile Text.isDecimalDigit with
  | [] => none
  | digits => some (digits, text.dropWhile Text.isDecimalDigit)

def range? (text : Text) : Option ((Text × Option Text) × Text) :=
  match digits? text with
  | none => none
  | some (start, .char ',' :: rest) =>
      match digits? rest with
      | some (length, rest) => some ((start, some length), rest)
      | none => some ((start, none), .char ',' :: rest)
  | some (start, rest) => some ((start, none), rest)

structure HunkDigits where
  sourceStart : Text
  sourceLength : Option Text
  targetStart : Text
  targetLength : Option Text

def hunkDigits? (line : Text) : Option HunkDigits :=
  match (after? "@@ -" line).bind range? with
  | none => none
  | some ((sourceStart, sourceLength), rest) =>
      match (after? " +" rest).bind range? with
      | none => none
      | some ((targetStart, targetLength), rest) =>
          if startsWith " @@" rest then some ⟨sourceStart, sourceLength, targetStart, targetLength⟩
          else none

/-! ## Remarks -/

def isNoLineEnd (line : Text) : Bool :=
  startsWith "\\ No newline at end of file" line

def isBinaryData (line : Text) : Bool :=
  line = "GIT binary patch\n"

def inTime (point : CodePoint) : Bool :=
  Text.isBlank point || isAsciiDigit point || point = ':' || point = '+' || point = '-'

/-- What may be left after a tab and a time, from the longest time to none at all. -/
def afterTime (text : Text) : List Text :=
  match text with
  | .char '\t' :: rest =>
      let time := rest.takeWhile inTime
      let beyond := rest.dropWhile inTime
      ((cuts time).filter (!·.1.isEmpty)).map (fun cut => cut.2 ++ beyond) ++ [text]
  | _ => [text]

def endsRemark (text : Text) : Bool :=
  startsWith " differ" text || startsWith " has changed" text

/-- All ways to cut off a name without tabs, from the shortest one of at least one character. -/
def shortNames (text : Text) : List (Text × Text) :=
  let name := text.takeWhile (· ≠ .char '\t')
  let beyond := text.dropWhile (· ≠ .char '\t')
  ((cuts name).reverse.filter (!·.1.isEmpty)).map fun cut => (cut.1, cut.2 ++ beyond)

def secondBinaryName? (text : Text) : Option Text :=
  match after? " and " text with
  | none => none
  | some rest =>
      (shortNames rest).findSome? fun (name, rest) =>
        if (afterTime rest).any endsRemark then some name else none

def binaryNames? (line : Text) : Option (Text × Option Text) :=
  match (after? "Binary files " line).or (after? "Binary file " line) with
  | none => none
  | some rest =>
      (shortNames rest).findSome? fun (name, rest) =>
        (afterTime rest).findSome? fun rest =>
          match secondBinaryName? rest with
          | some second => some (name, some second)
          | none => if endsRemark rest then some (name, none) else none

end ChangeImpact.Patch.Header
