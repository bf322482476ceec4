import ChangeImpact.Text.CodePoint
/-!
# Sets of labels

A set of labels is the list of its members in increasing order of code points, each once. Two sets
with the same members are therefore equal.
-/
set_option autoImplicit false

namespace ChangeImpact

structure LabelSet where
  toList : List Text
  increasing : toList.Pairwise (· < ·)

namespace LabelSet

def insertInto (label : Text) : List Text → List Text
  | [] => [label]
  | first :: rest =>
      if label < first then label :: first :: rest
      else if label = first then first :: rest
      else first :: insertInto label rest

theorem mem_insertInto (label other : Text) (labels : List Text) :
    other ∈ insertInto label labels ↔ other = label ∨ other ∈ labels := by
  induction labels with
  | nil => simp [insertInto]
  | cons first rest ih =>
      unfold insertInto
      split
      · simp
      · split
        · rename_i same; subst same; simp
        · simp only [List.mem_cons, ih]
          constructor
          · rintro (h | h | h) <;> simp [h]
          · rintro (h | h | h) <;> simp [h]

theorem increasing_insertInto (label : Text) {labels : List Text}
    (increasing : labels.Pairwise (· < ·)) : (insertInto label labels).Pairwise (· < ·) := by
  induction labels with
  | nil => simp [insertInto]
  | cons first rest ih =>
      have ⟨before, tail⟩ := List.pairwise_cons.mp increasing
      unfold insertInto
      split
      · rename_i less
        refine List.pairwise_cons.mpr ⟨?_, increasing⟩
        intro other mem
        rcases List.mem_cons.mp mem with rfl | mem
        · exact less
        · exact List.lt_trans less (before other mem)
      · rename_i notLess
        split
        · exact increasing
        · rename_i different
          refine List.pairwise_cons.mpr ⟨?_, ih tail⟩
          intro other mem
          rcases (mem_insertInto label other rest).mp mem with rfl | mem
          · exact (List.le_iff_lt_or_eq.mp (List.not_lt.mp notLess)).resolve_right
              (fun same => different same.symm)
          · exact before other mem

def empty : LabelSet := ⟨[], List.Pairwise.nil⟩

def insert (set : LabelSet) (label : Text) : LabelSet :=
  ⟨insertInto label set.toList, increasing_insertInto label set.increasing⟩

def insertAll (set : LabelSet) (labels : List Text) : LabelSet :=
  labels.foldl insert set

def ofList (labels : List Text) : LabelSet :=
  insertAll empty labels

def union (left right : LabelSet) : LabelSet :=
  insertAll left right.toList

def isEmpty (set : LabelSet) : Bool :=
  set.toList.isEmpty

instance : Membership Text LabelSet where
  mem set label := label ∈ set.toList

theorem mem_def (set : LabelSet) (label : Text) : label ∈ set ↔ label ∈ set.toList := Iff.rfl

@[simp] theorem not_mem_empty (label : Text) : label ∉ empty := by
  simp [mem_def, empty]

@[simp] theorem mem_insert (set : LabelSet) (label other : Text) :
    other ∈ set.insert label ↔ other = label ∨ other ∈ set :=
  mem_insertInto label other set.toList

@[simp] theorem mem_insertAll (set : LabelSet) (labels : List Text) (other : Text) :
    other ∈ set.insertAll labels ↔ other ∈ labels ∨ other ∈ set := by
  induction labels generalizing set with
  | nil => simp [insertAll]
  | cons label rest ih =>
      have step : set.insertAll (label :: rest) = (set.insert label).insertAll rest := rfl
      rw [step, ih, mem_insert, List.mem_cons]
      constructor
      · rintro (h | h | h) <;> simp [h]
      · rintro ((h | h) | h) <;> simp [h]

@[simp] theorem mem_union (left right : LabelSet) (other : Text) :
    other ∈ left.union right ↔ other ∈ left ∨ other ∈ right := by
  rw [union, mem_insertAll, mem_def right, or_comm]

end LabelSet

end ChangeImpact
