import ChangeImpact.Proofs.Channel.AllOrNothing
import ChangeImpact.Proofs.Impact.ContextWidth
/-!
# Impact as a union

The files of a patch are first turned into runs, which may fail and asks nothing of the catalog. The
impact of runs is the set of the labels of the functions that meet one of them. So it is a union
over the functions as well as over the files, and neither order nor repetition matters on either
side.
-/
set_option autoImplicit false

namespace ChangeImpact

open Patch (Run Span Kind PatchedFile FileError)

/-- The runs of a file as far as they can touch functions; a binary file has none. -/
def Patch.PatchedFile.touchingRuns (room : Nat) (file : PatchedFile) :
    Except FileError (List Run) :=
  if file.binary then .ok [] else (file.pathAndRuns room).map Prod.snd

namespace SourceFunction

/-- The function has a line of a run of this kind, in one of these lists of runs. -/
def Meets (function : SourceFunction) (policy : PathPolicy) (kind : Kind)
    (lists : List (List Run)) :
    Prop :=
  ∃ runs ∈ lists, ∃ span ∈ Patch.spans runs, span.run.kind = kind ∧
    PathMatch.namesFile policy function.file.text span.run.path = true ∧
    function.startLine ≤ span.finish ∧ span.start ≤ function.endLine

theorem meets_append_iff (function : SourceFunction) (policy : PathPolicy) (kind : Kind)
    (first second : List (List Run)) :
    function.Meets policy kind (first ++ second) ↔
      function.Meets policy kind first ∨ function.Meets policy kind second := by
  simp only [Meets, List.mem_append, or_and_right, exists_or]

end SourceFunction

namespace Impact

variable {room : Nat} {catalog : Catalog} {policy : PathPolicy} {label : Text}

theorem ext_of_mem {left right : Impact} (added : ∀ label, label ∈ left.added ↔ label ∈ right.added)
    (removed : ∀ label, label ∈ left.removed ↔ label ∈ right.removed) : left = right := by
  obtain ⟨leftAdded, leftRemoved⟩ := left
  obtain ⟨rightAdded, rightRemoved⟩ := right
  congr
  · exact LabelSet.ext_of_mem added
  · exact LabelSet.ext_of_mem removed

/-! ## Runs first, functions after -/

/-- The impact of the runs of several files. -/
def ofRunLists (catalog : Catalog) (policy : PathPolicy) (lists : List (List Run)) : Impact :=
  lists.foldr (fun runs impact => (ofRuns catalog policy runs).union impact) empty

theorem ofFile_eq_map (room : Nat) (catalog : Catalog) (policy : PathPolicy) (file : PatchedFile) :
    ofFile room catalog policy file = (file.touchingRuns room).map (ofRuns catalog policy) := by
  unfold ofFile PatchedFile.touchingRuns
  cases file.binary with
  | true => rfl
  | false => cases file.pathAndRuns room <;> rfl

/-- Whether files have an impact, and why not, does not depend on the catalog. -/
theorem ofFiles_eq_map (catalog : Catalog) (policy : PathPolicy) (files : List PatchedFile) :
    ofFiles room catalog policy files =
      (files.mapM (PatchedFile.touchingRuns room)).map (ofRunLists catalog policy) := by
  induction files with
  | nil => rfl
  | cons file rest ih =>
      rw [ofFiles, ofFile_eq_map, ih, List.mapM_cons]
      cases file.touchingRuns room with
      | error error => rfl
      | ok runs => cases rest.mapM (PatchedFile.touchingRuns room) <;> rfl

/-! ## The functions that runs meet -/

section Side

variable {side : Impact → LabelSet} {kind : Kind}
  (joined : ∀ left right, side (left.union right) = (side left).union (side right))
  (nothing : side empty = .empty)
  (ofKind : ∀ span, label ∈ side (ofSpan catalog policy span) ↔
    span.run.kind = kind ∧ label ∈ touched catalog policy span)

include joined nothing ofKind

theorem mem_side_ofRuns_iff_meets (runs : List Run) :
    label ∈ side (ofRuns catalog policy runs) ↔
      ∃ function ∈ catalog.functions,
        function.label = label ∧ function.Meets policy kind [runs] := by
  rw [mem_side_ofRuns joined nothing]
  simp only [ofKind, mem_touched_iff, Catalog.HasOn, SourceFunction.Meets, List.mem_singleton,
    exists_eq_left]
  constructor
  · rintro ⟨span, isSpan, isKind, function, member, isLabel, named, shares⟩
    exact ⟨function, member, isLabel, span, isSpan, isKind, named, shares⟩
  · rintro ⟨function, member, isLabel, span, isSpan, isKind, named, shares⟩
    exact ⟨span, isSpan, isKind, function, member, isLabel, named, shares⟩

theorem mem_side_ofRunLists_iff_meets (lists : List (List Run)) :
    label ∈ side (ofRunLists catalog policy lists) ↔
      ∃ function ∈ catalog.functions, function.label = label ∧
        function.Meets policy kind lists := by
  induction lists with
  | nil =>
      change label ∈ side empty ↔ _
      rw [nothing]
      simp [SourceFunction.Meets]
  | cons runs rest ih =>
      change label ∈ side ((ofRuns catalog policy runs).union (ofRunLists catalog policy rest)) ↔ _
      rw [joined, LabelSet.mem_union, ih, mem_side_ofRuns_iff_meets joined nothing ofKind,
        ← exists_or]
      apply exists_congr
      intro function
      have meetsEither := function.meets_append_iff policy kind [runs] rest
      rw [List.singleton_append] at meetsEither
      rw [meetsEither, and_or_left, and_or_left]

end Side

theorem mem_added_ofRunLists_iff (lists : List (List Run)) :
    label ∈ (ofRunLists catalog policy lists).added ↔
      ∃ function ∈ catalog.functions, function.label = label ∧
        function.Meets policy .addition lists :=
  mem_side_ofRunLists_iff_meets (fun _ _ => rfl) rfl mem_added_ofSpan lists

theorem mem_removed_ofRunLists_iff (lists : List (List Run)) :
    label ∈ (ofRunLists catalog policy lists).removed ↔
      ∃ function ∈ catalog.functions, function.label = label ∧
        function.Meets policy .deletion lists :=
  mem_side_ofRunLists_iff_meets (fun _ _ => rfl) rfl mem_removed_ofSpan lists

/-! ## Unions of runs -/

theorem ofRunLists_extend (left right : Catalog) (lists : List (List Run)) :
    ofRunLists (left.extend right.functions) policy lists =
      (ofRunLists left policy lists).union (ofRunLists right policy lists) := by
  apply ext_of_mem
  · intro label
    change _ ↔ label ∈ LabelSet.union _ _
    simp only [LabelSet.mem_union, mem_added_ofRunLists_iff, Catalog.functions_extend,
      List.mem_append, or_and_right, exists_or]
  · intro label
    change _ ↔ label ∈ LabelSet.union _ _
    simp only [LabelSet.mem_union, mem_removed_ofRunLists_iff, Catalog.functions_extend,
      List.mem_append, or_and_right, exists_or]

theorem ofRunLists_append (catalog : Catalog) (first second : List (List Run)) :
    ofRunLists catalog policy (first ++ second) =
      (ofRunLists catalog policy first).union (ofRunLists catalog policy second) := by
  apply ext_of_mem
  · intro label
    change _ ↔ label ∈ LabelSet.union _ _
    simp only [LabelSet.mem_union, mem_added_ofRunLists_iff, SourceFunction.meets_append_iff,
      and_or_left, exists_or]
  · intro label
    change _ ↔ label ∈ LabelSet.union _ _
    simp only [LabelSet.mem_union, mem_removed_ofRunLists_iff, SourceFunction.meets_append_iff,
      and_or_left, exists_or]

theorem ofRunLists_eq_of_same_functions {other : Catalog}
    (same : ∀ function, function ∈ catalog.functions ↔ function ∈ other.functions)
    (lists : List (List Run)) :
    ofRunLists catalog policy lists = ofRunLists other policy lists := by
  apply ext_of_mem
  · intro label
    simp only [mem_added_ofRunLists_iff, same]
  · intro label
    simp only [mem_removed_ofRunLists_iff, same]

theorem mem_labels_of_mem_ofRunLists {lists : List (List Run)}
    (touches : label ∈ (ofRunLists catalog policy lists).added ∨
      label ∈ (ofRunLists catalog policy lists).removed) : label ∈ catalog.labels := by
  rw [mem_added_ofRunLists_iff, mem_removed_ofRunLists_iff] at touches
  rcases touches with ⟨function, member, rfl, -⟩ | ⟨function, member, rfl, -⟩
  · exact List.mem_map_of_mem member
  · exact List.mem_map_of_mem member

/-! ## Unions of patches -/

theorem exists_ofFile_eq_ok_iff (file : PatchedFile) :
    (∃ impact, ofFile room catalog policy file = .ok impact) ↔
      (file.binary = false → (∃ path, file.path = .ok path) ∧
        Patch.gapError? room file.hunks = none) := by
  rw [ofFile_eq_map, PatchedFile.touchingRuns, PatchedFile.pathAndRuns]
  cases file.binary with
  | true => simp [Except.map]
  | false =>
      cases file.path with
      | error error => simp [Except.map]
      | ok path => cases Patch.gapError? room file.hunks <;> simp [Except.map]

theorem exists_ofPatch_eq_ok_iff_paths (files : List PatchedFile) :
    (∃ impact, ofPatch room catalog policy files = .ok impact) ↔
      ∀ file ∈ files, file.binary = false →
        (∃ path, file.path = .ok path) ∧ Patch.gapError? room file.hunks = none := by
  simp only [ofPatch_eq_ok_iff]
  rw [exists_ofFiles_eq_ok_iff]
  simp only [exists_ofFile_eq_ok_iff]

theorem ofPatch_extend (left right : Catalog) (files : List PatchedFile) :
    ofPatch room (left.extend right.functions) policy files = (do
      let before ← ofPatch room left policy files
      let after ← ofPatch room right policy files
      return before.union after) := by
  simp only [ofPatch, ofFiles_eq_map]
  cases files.mapM (PatchedFile.touchingRuns room) with
  | error error => rfl
  | ok lists => exact congrArg Except.ok (ofRunLists_extend left right lists)

theorem ofPatch_append (catalog : Catalog) (first second : List PatchedFile) :
    ofPatch room catalog policy (first ++ second) = (do
      let before ← ofPatch room catalog policy first
      let after ← ofPatch room catalog policy second
      return before.union after) := by
  simp only [ofPatch, ofFiles_eq_map, List.mapM_append]
  cases first.mapM (PatchedFile.touchingRuns room) with
  | error error => rfl
  | ok lists =>
      cases second.mapM (PatchedFile.touchingRuns room) with
      | error error => rfl
      | ok others => exact congrArg Except.ok (ofRunLists_append catalog lists others)

theorem ofPatch_eq_of_same_functions {other : Catalog}
    (same : ∀ function, function ∈ catalog.functions ↔ function ∈ other.functions)
    (files : List PatchedFile) :
    ofPatch room catalog policy files = ofPatch room other policy files := by
  simp only [ofPatch, ofFiles_eq_map]
  cases files.mapM (PatchedFile.touchingRuns room) with
  | error error => rfl
  | ok lists => exact congrArg Except.ok (ofRunLists_eq_of_same_functions same lists)

theorem ofPatch_eq_ok_of_same_files {files others : List PatchedFile}
    (same : ∀ file, file ∈ files ↔ file ∈ others) {impact : Impact}
    (isImpact : ofPatch room catalog policy files = .ok impact) :
    ofPatch room catalog policy others = .ok impact := by
  obtain ⟨found, isFound⟩ : ∃ found, ofPatch room catalog policy others = .ok found := by
    have readable := (exists_ofPatch_eq_ok_iff_paths files).mp ⟨impact, isImpact⟩
    apply (exists_ofPatch_eq_ok_iff_paths others).mpr
    intro file member
    exact readable file ((same file).mpr member)
  rw [isFound]
  rw [ofPatch_eq_ok_iff] at isImpact isFound
  congr 1
  apply ext_of_mem
  · intro label
    rw [mem_side_ofFiles (fun _ _ => rfl) rfl isFound,
      mem_side_ofFiles (fun _ _ => rfl) rfl isImpact]
    simp only [same]
  · intro label
    rw [mem_side_ofFiles (fun _ _ => rfl) rfl isFound,
      mem_side_ofFiles (fun _ _ => rfl) rfl isImpact]
    simp only [same]

theorem mem_labels_of_ofPatch {files : List PatchedFile} {impact : Impact}
    (isImpact : ofPatch room catalog policy files = .ok impact)
    (touches : label ∈ impact.added ∨ label ∈ impact.removed) : label ∈ catalog.labels := by
  rw [ofPatch_eq_ok_iff, ofFiles_eq_map] at isImpact
  cases isRuns : files.mapM (PatchedFile.touchingRuns room) with
  | error error =>
      rw [isRuns] at isImpact
      cases isImpact
  | ok lists =>
      rw [isRuns] at isImpact
      cases isImpact
      exact mem_labels_of_mem_ofRunLists touches

/-- A patch has an impact if the paths of its files can be read and no gap between hunks is too
long. The impact is a union over the functions of the catalog and over the files of the patch, with
every failure kept. So it depends only on which functions were received in any batches, and on which
files there are, and it holds labels of the catalog only. -/
theorem ofPatch_unions (room : Nat) (policy : PathPolicy) :
    (∀ catalog files, (∃ impact, ofPatch room catalog policy files = .ok impact) ↔
      ∀ file ∈ files, file.binary = false →
        (∃ path, file.path = .ok path) ∧ Patch.gapError? room file.hunks = none) ∧
    (∀ (left right : Catalog) files, ofPatch room (left.extend right.functions) policy files = (do
      let before ← ofPatch room left policy files
      let after ← ofPatch room right policy files
      return before.union after)) ∧
    (∀ catalog first second, ofPatch room catalog policy (first ++ second) = (do
      let before ← ofPatch room catalog policy first
      let after ← ofPatch room catalog policy second
      return before.union after)) ∧
    (∀ (start other : Catalog) (batches others : List (List SourceFunction)),
      (∀ function, function ∈ start.functions ++ batches.flatten ↔
        function ∈ other.functions ++ others.flatten) →
      ∀ files, ofPatch room (batches.foldl Catalog.extend start) policy files =
        ofPatch room (others.foldl Catalog.extend other) policy files) ∧
    (∀ files others : List PatchedFile, (∀ file, file ∈ files ↔ file ∈ others) → ∀ catalog impact,
      ofPatch room catalog policy files = .ok impact ↔
        ofPatch room catalog policy others = .ok impact) ∧
    ∀ catalog files impact, ofPatch room catalog policy files = .ok impact → ∀ label,
      label ∈ impact.added ∨ label ∈ impact.removed → label ∈ catalog.labels := by
  refine ⟨fun _ files => exists_ofPatch_eq_ok_iff_paths files, ofPatch_extend, ofPatch_append, ?_,
    ?_, ?_⟩
  · intro start other batches others same files
    apply ofPatch_eq_of_same_functions
    rw [Channel.foldl_extend, Channel.foldl_extend]
    exact same
  · intro files others same catalog impact
    constructor
    · exact ofPatch_eq_ok_of_same_files same
    · exact ofPatch_eq_ok_of_same_files fun file => (same file).symm
  · intro catalog files impact isImpact label
    exact mem_labels_of_ofPatch isImpact

/-- The functions in reverse, none, and the functions again. -/
def repeatedBatches : List (List SourceFunction) :=
  [functionsOfShortenedFile.functions.reverse, [], functionsOfShortenedFile.functions]

theorem mem_repeatedBatches_iff (function : SourceFunction) :
    function ∈ Catalog.empty.functions ++ repeatedBatches.flatten ↔
      function ∈ functionsOfShortenedFile.functions ++ [].flatten := by
  simp [repeatedBatches, Catalog.empty]

/-- Functions that come again in another order and in other batches, and a file that comes twice. -/
theorem ofPatch_unions_shortenedFile :
    (∀ file, file ∈ [shortenedFile, shortenedFile] ↔ file ∈ [shortenedFile]) ∧
    ∃ impact,
      ofPatch 100 (repeatedBatches.foldl Catalog.extend .empty) .suffix
        [shortenedFile, shortenedFile] = .ok impact ∧
      ofPatch 100 functionsOfShortenedFile .suffix [shortenedFile] = .ok impact ∧
      impact.added.toList = [Text.ofString "grown"] ∧ impact.removed.toList =
        [Text.ofString "lost"] ∧
      Text.ofString "grown" ∈ functionsOfShortenedFile.labels := by
  obtain ⟨-, -, -, byFunctions, byFiles, labelled⟩ := ofPatch_unions 100 .suffix
  have sameFiles : ∀ file, file ∈ [shortenedFile, shortenedFile] ↔ file ∈ [shortenedFile] := by
    simp
  have isImpact : ofPatch 100 functionsOfShortenedFile .suffix [shortenedFile] =
      .ok ⟨⟨["grown"], by decide⟩, ⟨["lost"], by decide⟩⟩ := rfl
  refine ⟨sameFiles, _, ?_, isImpact, rfl, rfl, ?_⟩
  · rw [byFunctions .empty functionsOfShortenedFile repeatedBatches [] mem_repeatedBatches_iff]
    exact (byFiles _ _ sameFiles _ _).mpr isImpact
  · exact labelled _ _ _ isImpact _ (.inl List.mem_cons_self)

end Impact

end ChangeImpact
