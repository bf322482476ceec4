import ChangeImpact.Number.Numeral
import ChangeImpact.Patch.Basic
import ChangeImpact.Patch.Header
import ChangeImpact.Text.Lines
/-!
# Reading patches

A patch is read line by line. Between the lines the reader knows the files that are complete, the
file it is in, whether it is in that file's header, the last source name, and the hunk it is in.
-/
set_option autoImplicit false

namespace ChangeImpact.Patch

inductive ParseError where
  | unexpectedNewFile (line : Text)
  | unexpectedDeletedFile (line : Text)
  | targetWithoutSource (line : Text)
  | unexpectedHunk (line : Text)
  | hunkLineExpected (line : Text)
  | hunkTooLong
  | hunkTooShort
  | unexpectedMarker (line : Text)
  | markerBeforeHunks
  | unexpectedBinaryData (line : Text)
  | numeralTooLong (error : Numeral.TooLong)
  deriving DecidableEq

namespace ParseError

def message : ParseError → Text
  | unexpectedNewFile line => "Unexpected new file found: " ++ line
  | unexpectedDeletedFile line => "Unexpected deleted file found: " ++ line
  | targetWithoutSource line => "Target without source: " ++ line
  | unexpectedHunk line => "Unexpected hunk found: " ++ line
  | hunkLineExpected line => "Hunk diff line expected: " ++ line
  | hunkTooLong => "Hunk is longer than expected"
  | hunkTooShort => "Hunk is shorter than expected"
  | unexpectedMarker line => "Unexpected marker: " ++ line
  | markerBeforeHunks => "Unexpected marker: No newline at end of file"
  | unexpectedBinaryData line => "Unexpected binary patch marker: " ++ line
  | numeralTooLong error => error.message

end ParseError

/-! ## Hunks -/

/-- The type and text of a line in a hunk. A line with nothing before its end is context. -/
def hunkLine? : Text → Option Line
  | .char ' ' :: value => some ⟨.context, value⟩
  | .char '+' :: value => some ⟨.added, value⟩
  | .char '-' :: value => some ⟨.removed, value⟩
  | .char '\\' :: value => some ⟨.noLineEnd, value⟩
  | line =>
      match (line.takeWhile fun (point : CodePoint) => point = '\r' || point = '\n').take 2 with
      | [] => none
      | ending => some ⟨.context, ending⟩

/-- A hunk being read: its header, the lines so far with the latest first, and how many of them are
on each side. -/
structure OpenHunk where
  header : Hunk
  latest : List Line
  sourceSeen : Nat
  targetSeen : Nat

namespace OpenHunk

def toHunk (hunk : OpenHunk) : Hunk :=
  { hunk.header with lines := hunk.latest.reverse }

def push (hunk : OpenHunk) (line : Line) : OpenHunk :=
  let source := if line.mark = .context || line.mark = .removed then 1 else 0
  let target := if line.mark = .context || line.mark = .added then 1 else 0
  { hunk with
    latest := line :: hunk.latest
    sourceSeen := hunk.sourceSeen + source
    targetSeen := hunk.targetSeen + target }

def isTooLong (hunk : OpenHunk) : Bool :=
  hunk.header.sourceLength < hunk.sourceSeen || hunk.header.targetLength < hunk.targetSeen

def isTooShort (hunk : OpenHunk) : Bool :=
  hunk.sourceSeen < hunk.header.sourceLength || hunk.targetSeen < hunk.header.targetLength

def isComplete (hunk : OpenHunk) : Bool :=
  !hunk.isTooLong && !hunk.isTooShort

end OpenHunk

def lengthOf (digits : Option Text) : Except Numeral.TooLong Nat :=
  match digits with
  | none => .ok 1
  | some digits => Numeral.ofDigits digits

/-- The hunk that a header opens; a length that is not written is one. -/
def openHunk (digits : Header.HunkDigits) : Except ParseError OpenHunk :=
  match Numeral.ofDigits digits.sourceStart, lengthOf digits.sourceLength,
    Numeral.ofDigits digits.targetStart, lengthOf digits.targetLength with
  | .ok sourceStart, .ok sourceLength, .ok targetStart, .ok targetLength =>
      .ok ⟨⟨sourceStart, sourceLength, targetStart, targetLength, []⟩, [], 0, 0⟩
  | .error error, _, _, _ => .error (.numeralTooLong error)
  | _, .error error, _, _ => .error (.numeralTooLong error)
  | _, _, .error error, _ => .error (.numeralTooLong error)
  | _, _, _, .error error => .error (.numeralTooLong error)

/-! ## The reader -/

structure Reader where
  /-- The complete files, the latest first. -/
  complete : List PatchedFile
  current : Option PatchedFile
  inHeader : Bool
  source : Option Text
  hunk : Option OpenHunk

namespace Reader

def start : Reader := ⟨[], none, false, none, none⟩

def leaveFile (reader : Reader) : Reader :=
  match reader.current with
  | none => reader
  | some file => { reader with complete := file :: reader.complete, current := none }

def enterFile (reader : Reader) (source target : Text) : Reader :=
  { reader.leaveFile with
    current := some ⟨source, target, false, []⟩ }

def addHunk (reader : Reader) (hunk : Hunk) : Reader :=
  { reader with
    current := reader.current.map fun file => { file with hunks := file.hunks ++ [hunk] }
    hunk := none }

def devNull : Text := "/dev/null"

def markBinary (reader : Reader) (file : PatchedFile) : Reader :=
  { { reader with current := some { file with binary := true } }.leaveFile with inHeader := false }

/-- A remark on binary files: it marks the current file, or adds a file of its own. -/
def binaryRemark (reader : Reader) (name : Text) (second : Option Text) : Reader :=
  let named := { reader with source := some name }
  match named.current with
  | some file => named.markBinary file
  | none => named.markBinary ⟨name, second.getD name, true, []⟩

/-- A line that no other rule takes. It ends a file whose hunks have begun. -/
def otherLine (reader : Reader) (line : Text) : Except ParseError Reader :=
  let reader := if reader.inHeader then reader else { reader.leaveFile with inHeader := true }
  match Header.binaryNames? line with
  | some (name, second) => .ok (reader.binaryRemark name second)
  | none =>
      if Header.isBinaryData line then
        match reader.current with
        | none => .error (.unexpectedBinaryData line)
        | some file => .ok (reader.markBinary file)
      else .ok reader

def targetLine (reader : Reader) (line name : Text) : Except ParseError Reader :=
  match reader.current with
  | some file =>
      if file.target = name then .ok reader else .error (.targetWithoutSource line)
  | none =>
      match reader.source with
      | none => .error (.targetWithoutSource line)
      | some source =>
          .ok { reader.enterFile source name with inHeader := false, source := none }

def markerLine (reader : Reader) (line : Text) : Except ParseError Reader :=
  match reader.current with
  | none => .error (.unexpectedMarker line)
  | some file => if file.hunks.isEmpty then .error .markerBeforeHunks else .ok reader

def hunkHeaderLine (reader : Reader) (line : Text) (digits : Header.HunkDigits) :
    Except ParseError Reader :=
  match reader.current with
  | none => .error (.unexpectedHunk line)
  | some _ =>
      match openHunk digits with
      | .error error => .error error
      | .ok hunk => .ok { reader with inHeader := false, hunk := some hunk }

def inFileHeader (reader : Reader) (error : ParseError) (change : PatchedFile → PatchedFile) :
    Except ParseError Reader :=
  match reader.current, reader.inHeader with
  | some file, true => .ok { reader with current := some (change file) }
  | _, _ => .error error

def hasHunks (reader : Reader) : Bool :=
  match reader.current with
  | some file => !file.hunks.isEmpty
  | none => false

/-- A line outside hunks: the first rule that fits it is taken. -/
def headerLine (reader : Reader) (line : Text) : Except ParseError Reader :=
  match Header.fileNames? line with
  | some (source, target) =>
      .ok { reader.enterFile source target with inHeader := true, source := some source }
  | none =>
  if Header.isNumbered "new file mode " line then
    reader.inFileHeader (.unexpectedNewFile line) fun file => { file with source := devNull }
  else if Header.isNumbered "deleted file mode " line then
    reader.inFileHeader (.unexpectedDeletedFile line) fun file => { file with target := devNull }
  else if reader.current.isSome && reader.inHeader && Header.isIgnored line then .ok reader
  else
  match Header.nameAfter? "--- " line with
  | some name =>
      .ok { (if reader.inHeader then reader else reader.leaveFile) with source := some name }
  | none =>
  match Header.nameAfter? "+++ " line with
  | some name => reader.targetLine line name
  | none =>
  match Header.hunkDigits? line with
  | some digits => reader.hunkHeaderLine line digits
  | none =>
  if Header.isNoLineEnd line then reader.markerLine line
  else if line = "\n" && reader.hasHunks then .ok reader
  else reader.otherLine line

def bodyLine (reader : Reader) (hunk : OpenHunk) (line : Text) : Except ParseError Reader :=
  match hunkLine? line with
  | none => .error (.hunkLineExpected line)
  | some read =>
      let hunk := hunk.push read
      if hunk.isTooLong then .error .hunkTooLong
      else if hunk.isComplete then .ok (reader.addHunk hunk.toHunk)
      else .ok { reader with hunk := some hunk }

def step (reader : Reader) (line : Text) : Except ParseError Reader :=
  match reader.hunk with
  | some hunk => reader.bodyLine hunk line
  | none => reader.headerLine line

def finish (reader : Reader) : Except ParseError (List PatchedFile) :=
  match reader.hunk with
  | none => .ok reader.leaveFile.complete.reverse
  | some hunk =>
      if hunk.isTooShort then .error .hunkTooShort
      else .ok (reader.addHunk hunk.toHunk).leaveFile.complete.reverse

end Reader

def readLines (reader : Reader) : List Text → Except ParseError Reader
  | [] => .ok reader
  | line :: rest =>
      match reader.step line with
      | .ok next => readLines next rest
      | .error error => .error error

def parse (text : Text) : Except ParseError (List PatchedFile) :=
  match readLines .start (Lines.splitKeepingEnds (.char '\n') text) with
  | .ok reader => reader.finish
  | .error error => .error error

end ChangeImpact.Patch
