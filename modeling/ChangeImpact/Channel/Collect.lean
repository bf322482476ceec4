import ChangeImpact.Catalog.Basic
import ChangeImpact.Channel.Script
import ChangeImpact.Failure
import ChangeImpact.Wire.Batch
/-!
# Collecting a catalog

What the analyzer sent becomes a catalog only if all of it can be read and the analyzer ended with
status 0. Bad data is reported before a bad status.
-/
set_option autoImplicit false

namespace ChangeImpact.Channel

open Utf8 (Bytes)

def tailLength : Nat := 5

def errorTail (output : Bytes) : Text :=
  let lines := Lines.splitAtBreaks (Text.trim (Utf8.decodeLossy output))
  Text.joinWith "\n" (lines.drop (lines.length - tailLength))

def badStatus (status : Int) (errorOutput : Bytes) : Failure :=
  .analyzer ("analyzer process failed: exit status " ++ Text.ofInt status) (some status)
    (errorTail errorOutput)

def catalogOf (batches : List Wire.Batch) : Catalog :=
  batches.foldl Catalog.extend .empty

def collect (pieces : List Bytes) (status : Int) (errorOutput : Bytes) : Except Failure Catalog :=
  let reading := Wire.readWire pieces
  match reading.error with
  | some error => .error (.ofBatchError error)
  | none =>
      if status = 0 then .ok (catalogOf reading.batches) else .error (badStatus status errorOutput)

/-- The failure of pieces that are bad before the end of the wire. -/
def earlyFailure? (pieces : List Bytes) : Option Failure :=
  (Wire.readPieces .start pieces).2.error.map Failure.ofBatchError

end ChangeImpact.Channel
