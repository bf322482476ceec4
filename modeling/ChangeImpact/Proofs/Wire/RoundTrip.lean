import ChangeImpact.Proofs.Wire.Readings
/-!
# Batches, written and read

A wire is any concatenation of written batches with blanks around them. Whatever way its bytes are
cut into pieces, reading them gives the batches back.
-/
set_option autoImplicit false

namespace ChangeImpact.Wire

open Json (Value Denotes WritesList WritesBlanks)
open Utf8 (Bytes)

/-! ## Written batches -/

def WritesBatch (batch : Batch) (text : List Char) : Prop :=
  WritesList SourceFunction.WritesRecord '[' ']' batch text

/-- Batches one after the other, with blanks before, between and after them. -/
inductive WritesWire : List Batch → List Char → Prop
  | done {blanks : List Char} (blank : WritesBlanks blanks) : WritesWire [] blanks
  | more {batch : Batch} {batches : List Batch} {blanks part rest : List Char}
      (blank : WritesBlanks blanks) (isBatch : WritesBatch batch part)
      (others : WritesWire batches rest) : WritesWire (batch :: batches) (blanks ++ (part ++ rest))

theorem exists_bracket_of_writesBatch {batch : Batch} {text : List Char}
    (isWritten : WritesBatch batch text) : ∃ inner, text = '[' :: inner := by
  cases isWritten with
  | empty => exact ⟨_, rfl⟩
  | items => exact ⟨_, rfl⟩

theorem exists_value_of_writesBatch {batch : Batch} {text : List Char}
    (isWritten : WritesBatch batch text) (short : ∀ function ∈ batch, function.ShortLines) :
    ∃ value, Denotes (Text.ofChars text) (.value value) ∧ readBatch value = .ok batch := by
  obtain ⟨values, denotes, areMeant⟩ := Json.exists_array_of_writesList isWritten
    fun function member text isRecord =>
      SourceFunction.exists_value_of_writesRecord (short function member) isRecord
  refine ⟨.array values, denotes, ?_⟩
  rw [readBatch, SourceFunction.batchOfValue, Validation.each_of_forall₂ areMeant]

theorem exists_arrays_of_writesWire {batches : List Batch} {wire : List Char}
    (isWritten : WritesWire batches wire)
    (short : ∀ batch ∈ batches, ∀ function ∈ batch, function.ShortLines) :
    ∃ values, Arrays (Text.ofChars wire) values ∧ values.map readBatch = batches.map .ok := by
  induction isWritten with
  | done blank => exact ⟨[], .done (Json.blank_of_writesBlanks blank), rfl⟩
  | more blank isBatch _ ih =>
      obtain ⟨values, arrays, areBatches⟩ := ih fun batch member => short batch (by simp [member])
      obtain ⟨value, denotes, isRead⟩ := exists_value_of_writesBatch isBatch (short _ (by simp))
      obtain ⟨inner, rfl⟩ := exists_bracket_of_writesBatch isBatch
      refine ⟨value :: values, ?_, by rw [List.map_cons, List.map_cons, isRead, areBatches]⟩
      rw [Json.ofChars_append, Json.ofChars_append]
      exact .more (Json.blank_of_writesBlanks blank) denotes arrays

theorem carries_of_writesWire {batches : List Batch} {wire : List Char}
    (isWritten : WritesWire batches wire)
    (short : ∀ batch ∈ batches, ∀ function ∈ batch, function.ShortLines) :
    Carries (Utf8.encodeChars wire) batches := by
  obtain ⟨values, arrays, areBatches⟩ := exists_arrays_of_writesWire isWritten short
  exact ⟨wire, values, rfl, readArrays?_of_arrays arrays, (map_readBatch_eq_iff ..).mp areBatches⟩

theorem writesWire_writeValue (asciiOnly : Bool) {batches : List Batch}
    (encodable : ∀ batch ∈ batches, ∀ function ∈ batch, function.Encodable) :
    WritesWire batches (batches.flatMap fun batch =>
      Json.writeValue asciiOnly (writeBatch batch)) := by
  induction batches with
  | nil => exact .done Json.writesBlanks_nil
  | cons batch rest ih =>
      have isBatch : WritesBatch batch (Json.writeValue asciiOnly (writeBatch batch)) :=
        Json.writesList_writeArray fun function member =>
          SourceFunction.writesRecord_writeValue asciiOnly
            (encodable batch (by simp) function member)
      have others := ih fun other member => encodable other (by simp [member])
      exact .more Json.writesBlanks_nil isBatch others

/-- Batches that are written as JSON text, in whatever way, are read back without an error from any
pieces of the bytes. What the writer gives for them, with or without characters beyond ASCII
escaped, is written so. -/
theorem readWire_writesWire (batches : List Batch)
    (short : ∀ batch ∈ batches, ∀ function ∈ batch, function.ShortLines) :
    (∀ wire pieces, WritesWire batches wire → pieces.flatten = Utf8.encodeChars wire →
      readWire pieces = ⟨batches, none⟩) ∧
    ((∀ batch ∈ batches, ∀ function ∈ batch, function.Encodable) → ∀ asciiOnly,
      WritesWire batches
        (batches.flatMap fun batch => Json.writeValue asciiOnly (writeBatch batch))) := by
  refine ⟨fun wire pieces isWritten isEncoded => ?_, fun encodable asciiOnly => ?_⟩
  · obtain ⟨values, arrays, areBatches⟩ := exists_arrays_of_writesWire isWritten short
    have isRead := (readAll_eq_ok_iff_arrays pieces values).mpr ⟨wire, isEncoded, arrays⟩
    exact readWire_of_readAll isRead areBatches
  · exact writesWire_writeValue asciiOnly encodable

/-- A record full of marks that JSON text gives a meaning to, and an empty batch. -/
def awkwardBatches : List Batch :=
  [[⟨some "a\"]\\", "[\x7b😀ü\n", ⟨"C:\\x", by decide⟩, 5, 12, by decide, by decide⟩], []]

theorem encodable_awkwardBatches :
    ∀ batch ∈ awkwardBatches, ∀ function ∈ batch, function.Encodable := by
  intro batch isBatch function member
  simp only [awkwardBatches, List.mem_cons, List.not_mem_nil, or_false] at isBatch
  rcases isBatch with rfl | rfl
  · obtain rfl := List.mem_singleton.mp member
    refine ⟨fun name isName => ?_, ⟨_, rfl⟩⟩
    cases isName
    exact ⟨_, rfl⟩
  · cases member

/-- The bytes of the wire come one by one. -/
theorem readWire_awkwardBatches :
    (∀ batch ∈ awkwardBatches, ∀ function ∈ batch, function.ShortLines) ∧
      readWire ((Utf8.encodeChars (awkwardBatches.flatMap fun batch =>
        Json.writeValue true (writeBatch batch))).map fun b => [b]) = ⟨awkwardBatches, none⟩ := by
  have short : ∀ batch ∈ awkwardBatches, ∀ function ∈ batch, function.ShortLines := by decide
  obtain ⟨reads, writes⟩ := readWire_writesWire awkwardBatches short
  refine ⟨short, reads _ _ (writes encodable_awkwardBatches true) ?_⟩
  rw [← List.flatMap_def, List.flatMap_singleton']

end ChangeImpact.Wire
