import ChangeImpact.Catalog.SourceFunction
import ChangeImpact.Wire.Stream
/-!
# Batches of functions

Each array on the wire is one batch of function records. Reading stops at the first error, after the
batches before it.
-/
set_option autoImplicit false

namespace ChangeImpact.Wire

open Json (Value)
open Utf8 (Bytes)

abbrev Batch := List SourceFunction

inductive BatchError where
  | stream (error : StreamError)
  /-- The first thing wrong with an array of records. -/
  | invalidRecord (complaint : Validation.Complaint)
  deriving DecidableEq

def BatchError.message : BatchError → Text
  | stream error => error.message
  | invalidRecord complaint =>
      "analyzer sent an invalid function record: " ++ complaint.message

def readBatch (value : Value) : Except BatchError Batch :=
  match SourceFunction.batchOfValue value with
  | .ok batch => .ok batch
  | .error problems => .error (.invalidRecord problems.first.complaint)

/-- Batches read, and the error that ended the reading, if one did. -/
structure Reading where
  batches : List Batch
  error : Option BatchError

namespace Reading

/-- A reading continued by another, which counts only if the first met no error. -/
def andThen (first : Reading) (second : Unit → Reading) : Reading :=
  match first.error with
  | some error => ⟨first.batches, some error⟩
  | none =>
      let last := second ()
      ⟨first.batches ++ last.batches, last.error⟩

end Reading

def readValues : List Value → Reading
  | [] => ⟨[], none⟩
  | value :: rest =>
      match readBatch value with
      | .error error => ⟨[], some error⟩
      | .ok batch => (Reading.mk [batch] none).andThen fun _ => readValues rest

/-- Reads pieces of the wire from a state of the stream on. The state after them is that of the last
piece taken in. -/
def readPieces (stream : Stream) : List Bytes → Stream × Reading
  | [] => (stream, ⟨[], none⟩)
  | piece :: rest =>
      match stream.feed piece with
      | (next, .error error) => (next, ⟨[], some (.stream error)⟩)
      | (next, .ok values) =>
          let first := readValues values
          match first.error with
          | some _ => (next, first)
          | none =>
              let (last, others) := readPieces next rest
              (last, ⟨first.batches ++ others.batches, others.error⟩)

def readEnd (stream : Stream) : Reading :=
  match stream.close with
  | (_, .error error) => ⟨[], some (.stream error)⟩
  | (_, .ok values) => readValues values

def readWire (pieces : List Bytes) : Reading :=
  let (stream, reading) := readPieces .start pieces
  reading.andThen fun _ => readEnd stream

/-! ## Writing -/

def writeBatch (batch : Batch) : Value :=
  .array (batch.map SourceFunction.toValue)

end ChangeImpact.Wire
