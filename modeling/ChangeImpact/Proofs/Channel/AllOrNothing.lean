import ChangeImpact.Channel.Collect
import ChangeImpact.Proofs.Wire.RoundTrip
/-!
# A catalog of everything or none

A catalog is given only for bytes that carry function records to their end and an analyzer that
ended with status 0. It then holds all records. Bad bytes fail with the error of their reading,
whatever the status.
-/
set_option autoImplicit false

namespace ChangeImpact.Channel

open Utf8 (Bytes)
open Wire (Batch Carries readWire)

theorem foldl_extend (catalog : Catalog) (batches : List Batch) :
    batches.foldl Catalog.extend catalog =
      ⟨catalog.functions ++ batches.flatten, catalog.batches + batches.length⟩ := by
  induction batches generalizing catalog with
  | nil => simp
  | cons batch rest ih =>
      rw [List.foldl_cons, ih]
      simp only [Catalog.extend, List.flatten_cons, List.append_assoc, List.length_cons,
        Catalog.mk.injEq, true_and]
      omega

theorem catalogOf_eq (batches : List Batch) :
    catalogOf batches = ⟨batches.flatten, batches.length⟩ := by
  rw [catalogOf, foldl_extend]
  simp [Catalog.empty]

theorem collect_of_carries {pieces : List Bytes} {batches : List Batch}
    (carries : Carries pieces.flatten batches) (status : Int) (errorOutput : Bytes) :
    collect pieces status errorOutput =
      if status = 0 then .ok ⟨batches.flatten, batches.length⟩
        else .error (badStatus status errorOutput) := by
  have isRead := (Wire.readWire_eq_iff ..).mpr carries
  simp only [collect, isRead, catalogOf_eq]

theorem exists_error_of_not_carries {pieces : List Bytes}
    (bad : ∀ batches, ¬Carries pieces.flatten batches) :
    ∃ error, (readWire pieces).error = some error ∧
      ∀ status errorOutput, collect pieces status errorOutput = .error (.ofBatchError error) := by
  cases failed : (readWire pieces).error with
  | none =>
      obtain ⟨batches, carries⟩ := (Wire.readWire_error_eq_none_iff pieces).mp failed
      exact absurd carries (bad batches)
  | some error =>
      refine ⟨error, rfl, ?_⟩
      intro status errorOutput
      simp only [collect, failed]

theorem collect_eq_ok_iff (pieces : List Bytes) (status : Int) (errorOutput : Bytes)
    (catalog : Catalog) :
    collect pieces status errorOutput = .ok catalog ↔
      status = 0 ∧ ∃ batches, Carries pieces.flatten batches ∧
        catalog.functions = batches.flatten ∧ catalog.batches = batches.length := by
  constructor
  · intro collected
    by_cases good : ∃ batches, Carries pieces.flatten batches
    · obtain ⟨batches, carries⟩ := good
      rw [collect_of_carries carries] at collected
      split at collected
      · cases collected
        exact ⟨‹_›, batches, carries, rfl, rfl⟩
      · cases collected
    · obtain ⟨error, -, fails⟩ := exists_error_of_not_carries (not_exists.mp good)
      rw [fails] at collected
      cases collected
  · rintro ⟨rfl, batches, carries, sameFunctions, sameBatches⟩
    rw [collect_of_carries carries, if_pos rfl, ← sameFunctions, ← sameBatches]

/-- A catalog is given exactly if the bytes carry batches of records and the status is 0. It holds
their records in order and counts the arrays, however the bytes are cut. With good bytes and another
status the failure is that of the analyzer with this status; with bad bytes it is that of their
reading, for every status. -/
theorem collect_all_or_nothing (pieces : List Bytes) :
    (∀ status errorOutput catalog, collect pieces status errorOutput = .ok catalog ↔
      status = 0 ∧ ∃ batches, Carries pieces.flatten batches ∧
        catalog.functions = batches.flatten ∧ catalog.batches = batches.length) ∧
    (∀ others status errorOutput catalog, others.flatten = pieces.flatten →
      (collect others status errorOutput = .ok catalog ↔
        collect pieces status errorOutput = .ok catalog)) ∧
    (∀ batches status errorOutput, Carries pieces.flatten batches → status ≠ 0 →
      collect pieces status errorOutput =
        .error (.analyzer ("analyzer process failed: exit status " ++ Text.ofInt status)
          (some status) (errorTail errorOutput))) ∧
    ((∀ batches, ¬Carries pieces.flatten batches) →
      ∃ error, (readWire pieces).error = some error ∧
        ∀ status errorOutput, collect pieces status errorOutput =
          .error (.ofBatchError error)) := by
  refine ⟨collect_eq_ok_iff pieces, ?_, ?_, exists_error_of_not_carries⟩
  · intro others status errorOutput catalog sameBytes
    rw [collect_eq_ok_iff, collect_eq_ok_iff, sameBytes]
  · intro batches status errorOutput carries notZero
    rw [collect_of_carries carries, if_neg notZero]
    rfl

def awkwardWire : Bytes :=
  Utf8.encodeChars (Wire.awkwardBatches.flatMap fun batch =>
    Json.writeValue true (Wire.writeBatch batch))

theorem carries_awkwardWire : Carries awkwardWire Wire.awkwardBatches :=
  Wire.carries_of_writesWire (Wire.writesWire_writeValue true Wire.encodable_awkwardBatches)
    (by decide)

theorem not_carries_brace (batches : List Batch) : ¬Carries [0x7B] batches := by
  intro carries
  have isRead := (Wire.readWire_eq_iff [[0x7B]] batches).mpr carries
  have failed : (readWire [[0x7B]]).error = some (.stream (.expectedArray [.char '\x7b'])) := by
    decide
  rw [isRead] at failed
  cases failed

/-- The same good bytes with two statuses, whole and one by one, and bad bytes. -/
theorem collect_awkwardWire :
    Carries awkwardWire Wire.awkwardBatches ∧
      collect [awkwardWire] 0 [] = .ok ⟨Wire.awkwardBatches.flatten, 2⟩ ∧
      collect (awkwardWire.map fun b => [b]) 0 [] = .ok ⟨Wire.awkwardBatches.flatten, 2⟩ ∧
      collect [awkwardWire] 3 [0x62] =
        .error (.analyzer "analyzer process failed: exit status 3" (some 3) "b") ∧
      ∃ error, (readWire [[0x7B]]).error = some error ∧
        ∀ status errorOutput, collect
          [[0x7B]] status errorOutput = .error (.ofBatchError error) := by
  have whole : [awkwardWire].flatten = awkwardWire := List.flatten_singleton
  have bytewise : (awkwardWire.map fun b => [b]).flatten = awkwardWire := by
    rw [← List.flatMap_def, List.flatMap_singleton']
  obtain ⟨accepts, slicing, refuses, -⟩ := collect_all_or_nothing [awkwardWire]
  obtain ⟨-, -, -, bad⟩ := collect_all_or_nothing [[0x7B]]
  have carries := carries_awkwardWire
  rw [← whole] at carries
  have collected := (accepts 0 [] ⟨Wire.awkwardBatches.flatten, 2⟩).mpr ⟨rfl, _, carries, rfl, rfl⟩
  refine ⟨carries_awkwardWire, collected, ?_, refuses _ 3 [0x62] carries (by decide),
    bad not_carries_brace⟩
  exact (slicing _ 0 [] _ (bytewise.trans whole.symm)).mpr collected

end ChangeImpact.Channel
