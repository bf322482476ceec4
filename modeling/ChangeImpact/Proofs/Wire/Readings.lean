import ChangeImpact.Proofs.Catalog.Record
import ChangeImpact.Proofs.Wire.Arrays
/-!
# Readings of a wire

A wire is read without an error exactly if its bytes are arrays of function records, one array for
each batch. How the bytes are cut into pieces does not matter.
-/
set_option autoImplicit false

namespace ChangeImpact

open Json (Value)

namespace Validation

variable {α β : Type}

theorem both_eq_ok_iff (first : Checked α) (second : Checked β) (result : α × β) :
    first.both second = .ok result ↔ first = .ok result.1 ∧ second = .ok result.2 := by
  obtain ⟨a, b⟩ := result
  cases first <;> cases second <;> simp [Checked.both]

theorem under_eq_ok_iff (key : Key) (checked : Checked α) (result : α) :
    checked.under key = .ok result ↔ checked = .ok result := by
  cases checked <;> simp [Checked.under]

theorem forall₂_of_each {check : α → Checked β} {start : Nat} {items : List α} {results : List β}
    (checked : Checked.each check start items = .ok results) :
    List.Forall₂ (fun result item => check item = .ok result) results items := by
  induction items generalizing start results with
  | nil =>
      cases checked
      exact .nil
  | cons item rest ih =>
      rw [Checked.each] at checked
      split at checked
      · rename_i first others areChecked
        cases checked
        obtain ⟨isFirst, areOthers⟩ := (both_eq_ok_iff ..).mp areChecked
        exact .cons ((under_eq_ok_iff ..).mp isFirst) (ih areOthers)
      · cases checked

end Validation

namespace Wire

open Utf8 (Bytes)

/-! ## Readings without an error -/

theorem readValues_of_map_readBatch {values : List Value} {batches : List Batch}
    (areBatches : values.map readBatch = batches.map .ok) :
    readValues values = ⟨batches, none⟩ := by
  induction values generalizing batches with
  | nil =>
      cases batches with
      | nil => rfl
      | cons => cases areBatches
  | cons value rest ih =>
      cases batches with
      | nil => cases areBatches
      | cons batch others =>
          obtain ⟨isBatch, areOthers⟩ := List.cons.inj areBatches
          rw [readValues, isBatch]
          simp only [Reading.andThen, ih areOthers, List.singleton_append]

theorem readPieces_of_feedAll {stream last : Stream} {pieces : List Bytes} {values : List Value}
    {batches : List Batch} (fed : stream.feedAll pieces = (last, .ok values))
    (areBatches : values.map readBatch = batches.map .ok) :
    readPieces stream pieces = (last, ⟨batches, none⟩) := by
  induction pieces generalizing stream values batches with
  | nil =>
      cases fed
      cases batches with
      | nil => rfl
      | cons => cases areBatches
  | cons piece rest ih =>
      obtain ⟨next, before, after, fedPiece, fedRest, rfl⟩ :=
        (Stream.feedAll_cons_eq_ok_iff ..).mp fed
      rw [List.map_append] at areBatches
      obtain ⟨first, others, rfl, areFirst, areOthers⟩ := List.map_eq_append_iff.mp areBatches.symm
      have readFirst := readValues_of_map_readBatch areFirst.symm
      have readOthers := ih fedRest areOthers.symm
      rw [readPieces, fedPiece]
      simp only [readFirst, readOthers]

theorem readWire_of_readAll {pieces : List Bytes} {values : List Value} {batches : List Batch}
    (isRead : Stream.readAll pieces = .ok values)
    (areBatches : values.map readBatch = batches.map .ok) : readWire pieces = ⟨batches, none⟩ := by
  unfold Stream.readAll at isRead
  split at isRead
  · cases isRead
  · rename_i last before fed
    split at isRead
    · cases isRead
    · rename_i final after closed
      cases isRead
      rw [List.map_append] at areBatches
      obtain ⟨first, others, rfl, areFirst, areOthers⟩ := List.map_eq_append_iff.mp areBatches.symm
      have readFirst := readPieces_of_feedAll fed areFirst.symm
      have readLast : readEnd last = ⟨others, none⟩ := by
        rw [readEnd, closed]
        exact readValues_of_map_readBatch areOthers.symm
      unfold readWire
      simp only [readFirst, Reading.andThen, readLast]

theorem map_readBatch_of_readValues {values : List Value}
    (noError : (readValues values).error = none) :
    values.map readBatch = (readValues values).batches.map .ok := by
  induction values with
  | nil => rfl
  | cons value rest ih =>
      rw [readValues] at noError ⊢
      cases isBatch : readBatch value with
      | error error =>
          rw [isBatch] at noError
          cases noError
      | ok batch =>
          rw [isBatch] at noError
          have areOthers := ih noError
          simp only [Reading.andThen, List.map_cons, List.cons_append, List.nil_append, isBatch,
            areOthers]

theorem exists_feedAll_of_readPieces {stream last : Stream} {pieces : List Bytes}
    {reading : Reading} (isRead : readPieces stream pieces = (last, reading))
    (noError : reading.error = none) :
    ∃ values, stream.feedAll pieces = (last, .ok values) ∧
      values.map readBatch = reading.batches.map .ok := by
  induction pieces generalizing stream reading with
  | nil =>
      cases isRead
      exact ⟨[], rfl, rfl⟩
  | cons piece rest ih =>
      rw [readPieces] at isRead
      split at isRead
      · cases isRead
        cases noError
      · rename_i next values fed
        dsimp only at isRead
        split at isRead
        · rename_i error failed
          cases isRead
          rw [failed] at noError
          cases noError
        · rename_i noErrorFirst
          cases isRead
          obtain ⟨others, fedRest, areOthers⟩ := ih rfl noError
          refine ⟨values ++ others, ?_, ?_⟩
          · exact (Stream.feedAll_cons_eq_ok_iff ..).mpr ⟨next, values, others, fed, fedRest, rfl⟩
          · rw [List.map_append, List.map_append, map_readBatch_of_readValues noErrorFirst,
              areOthers]

theorem readWire_of_readPieces {pieces : List Bytes} {last : Stream} {reading : Reading}
    (isRead : readPieces .start pieces = (last, reading)) :
    readWire pieces = reading.andThen fun _ => readEnd last := by
  simp only [readWire, isRead]

theorem exists_readAll_of_readWire {pieces : List Bytes}
    (noError : (readWire pieces).error = none) :
    ∃ values, Stream.readAll pieces = .ok values ∧
      values.map readBatch = (readWire pieces).batches.map .ok := by
  rcases isRead : readPieces .start pieces with ⟨last, reading⟩
  rw [readWire_of_readPieces isRead] at noError ⊢
  unfold Reading.andThen at noError ⊢
  cases first : reading.error with
  | some error =>
      rw [first] at noError
      cases noError
  | none =>
      simp only [first] at noError ⊢
      obtain ⟨values, fed, areBatches⟩ := exists_feedAll_of_readPieces isRead first
      unfold readEnd at noError ⊢
      split at noError
      · cases noError
      · rename_i final others closed
        refine ⟨values ++ others, ?_, ?_⟩
        · simp only [Stream.readAll, fed, closed]
        · rw [List.map_append, List.map_append, areBatches, map_readBatch_of_readValues noError]

/-! ## Records -/

/-- The value is an array of the records of these functions. -/
def HoldsRecords (value : Value) (batch : Batch) : Prop :=
  ∃ items, value = .array items ∧
    List.Forall₂ (fun function item => SourceFunction.ofValue item = .ok function) batch items

theorem readBatch_eq_ok_iff (value : Value) (batch : Batch) :
    readBatch value = .ok batch ↔ HoldsRecords value batch := by
  unfold readBatch
  constructor
  · intro isRead
    split at isRead
    · rename_i found isBatch
      cases isRead
      unfold SourceFunction.batchOfValue at isBatch
      split at isBatch
      · exact ⟨_, rfl, Validation.forall₂_of_each isBatch⟩
      · cases isBatch
    · cases isRead
  · rintro ⟨items, rfl, areRecords⟩
    rw [SourceFunction.batchOfValue, Validation.each_of_forall₂ areRecords]

theorem map_readBatch_eq_iff (values : List Value) (batches : List Batch) :
    values.map readBatch = batches.map .ok ↔ List.Forall₂ HoldsRecords values batches := by
  rw [← List.forall₂_eq_eq_eq, List.forall₂_map_left_iff, List.forall₂_map_right_iff]
  simp only [readBatch_eq_ok_iff]

/-- The bytes are the UTF-8 of arrays one after the other, the records of one batch in each. -/
def Carries (bytes : Bytes) (batches : List Batch) : Prop :=
  ∃ chars values, bytes = Utf8.encodeChars chars ∧ readArrays? (Text.ofChars chars) = some values ∧
    List.Forall₂ HoldsRecords values batches

theorem readWire_eq_iff (pieces : List Bytes) (batches : List Batch) :
    readWire pieces = ⟨batches, none⟩ ↔ Carries pieces.flatten batches := by
  constructor
  · intro isRead
    obtain ⟨values, readsAll, areBatches⟩ :=
      exists_readAll_of_readWire (congrArg Reading.error isRead)
    obtain ⟨chars, isEncoded, arrays⟩ := (readAll_eq_ok_iff_arrays ..).mp readsAll
    rw [isRead] at areBatches
    exact ⟨chars, values, isEncoded, readArrays?_of_arrays arrays,
      (map_readBatch_eq_iff ..).mp areBatches⟩
  · rintro ⟨chars, values, isEncoded, isRead, areRecords⟩
    have readsAll := (readAll_eq_ok_iff_arrays pieces values).mpr ⟨chars, isEncoded,
      arrays_of_readArrays? isRead⟩
    exact readWire_of_readAll readsAll ((map_readBatch_eq_iff ..).mpr areRecords)

theorem readWire_error_eq_none_iff (pieces : List Bytes) :
    (readWire pieces).error = none ↔ ∃ batches, Carries pieces.flatten batches := by
  constructor
  · intro noError
    refine ⟨(readWire pieces).batches, (readWire_eq_iff ..).mp ?_⟩
    rw [← noError]
  · rintro ⟨batches, carries⟩
    rw [(readWire_eq_iff ..).mpr carries]

end Wire

end ChangeImpact
