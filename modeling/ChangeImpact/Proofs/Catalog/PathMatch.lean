import ChangeImpact.Catalog.PathMatch
import ChangeImpact.Proofs.Text.Lines
/-!
# What matching of paths means

Matching by the last components compares lists of components. On paths without backslashes and empty
components it is a fact about the paths as they are written: the one is the other, or ends with it
after a slash.
-/
set_option autoImplicit false

namespace ChangeImpact.PathMatch

/-- A path without backslashes in which no slash stands at the end or next to another. -/
structure Tidy (path : Text) : Prop where
  noBackslash : .char '\\' ∉ path
  noDoubleSlash : ¬[.char '/', .char '/'] <:+: path
  noFinalSlash : path.getLast? ≠ some (.char '/')

/-- A path without backslashes that is made of components alone, none of which is empty. -/
structure Relative (path : Text) : Prop where
  nonEmpty : path ≠ []
  noBackslash : .char '\\' ∉ path
  noEmptyComponent : [] ∉ Lines.pieces (.char '/') path

instance (path : Text) : Decidable (Relative path) :=
  decidable_of_iff (path ≠ [] ∧ .char '\\' ∉ path ∧ [] ∉ Lines.pieces (.char '/') path)
    ⟨fun relative => ⟨relative.1, relative.2.1, relative.2.2⟩,
      fun relative => ⟨relative.nonEmpty, relative.noBackslash, relative.noEmptyComponent⟩⟩

/-! ## Components -/

def slashed (point : CodePoint) : CodePoint :=
  if point = '\\' then .char '/' else point

theorem components_eq (path : Text) :
    components path = (Lines.pieces (.char '/') (path.map slashed)).filter (!·.isEmpty) := rfl

theorem filter_of_nil_notMem {pieces : List Text} (nonEmpty : [] ∉ pieces) :
    pieces.filter (!·.isEmpty) = pieces := by
  rw [List.filter_eq_self]
  intro piece member
  have notEmpty : piece ≠ [] := by
    rintro rfl
    exact nonEmpty member
  simpa using notEmpty

theorem components_append_slash (root path : Text) :
    components (root ++ .char '/' :: path) = components root ++ components path := by
  have isSlash : slashed (.char '/') = .char '/' := rfl
  rw [components_eq, List.map_append, List.map_cons, isSlash, Lines.pieces_append_cons,
    List.filter_append]
  rfl

theorem components_of_noBackslash {path : Text} (noBackslash : .char '\\' ∉ path) :
    components path = (Lines.pieces (.char '/') path).filter (!·.isEmpty) := by
  have same : path.map slashed = path := by
    calc path.map slashed = path.map id := by
          apply List.map_congr_left
          intro point member
          have different : point ≠ .char '\\' := by
            intro isBackslash
            exact noBackslash (isBackslash ▸ member)
          exact if_neg different
      _ = path := List.map_id path
  rw [components_eq, same]

theorem Relative.components_eq {path : Text} (relative : Relative path) :
    components path = Lines.pieces (.char '/') path := by
  rw [components_of_noBackslash relative.noBackslash,
    filter_of_nil_notMem relative.noEmptyComponent]

theorem Tidy.tail {point : CodePoint} {rest : Text} (tidy : Tidy (point :: rest)) : Tidy rest where
  noBackslash := fun member => tidy.noBackslash (List.mem_cons_of_mem _ member)
  noDoubleSlash := fun within => tidy.noDoubleSlash
    (within.trans (List.suffix_cons point rest).isInfix)
  noFinalSlash := by
    intro final
    apply tidy.noFinalSlash
    rw [List.getLast?_cons, final]
    rfl

/-- Only the first piece of a tidy path may be empty, if the path starts with a slash. -/
theorem Tidy.nil_notMem_tail_pieces {path : Text} (tidy : Tidy path) :
    [] ∉ (Lines.pieces (.char '/') path).tail := by
  induction path with
  | nil => simp
  | cons point rest ih =>
      have tail := ih tidy.tail
      by_cases isSlash : point = .char '/'
      · subst isSlash
        rw [Lines.pieces_cons_self, List.tail_cons]
        cases rest with
        | nil => exact absurd rfl tidy.noFinalSlash
        | cons next others =>
            have different : next ≠ .char '/' := by
              rintro rfl
              exact tidy.noDoubleSlash ⟨[], others, rfl⟩
            obtain ⟨piece, more, -, shape⟩ := Lines.pieces_cons_of_ne different others
            rw [shape] at tail ⊢
            simpa using tail
      · obtain ⟨piece, more, shapeRest, shape⟩ := Lines.pieces_cons_of_ne isSlash rest
        rw [shapeRest] at tail
        rw [shape]
        exact tail

theorem Tidy.components_suffix {path : Text} (tidy : Tidy path) :
    components path <:+ Lines.pieces (.char '/') path := by
  have tail := tidy.nil_notMem_tail_pieces
  rw [components_of_noBackslash tidy.noBackslash]
  generalize Lines.pieces (.char '/') path = pieces at tail ⊢
  cases pieces with
  | nil => exact List.suffix_refl _
  | cons first rest =>
      have kept : rest.filter (!·.isEmpty) = rest := filter_of_nil_notMem tail
      rw [List.filter_cons, kept]
      split
      · exact List.suffix_refl _
      · exact List.suffix_cons first rest

/-! ## The two policies -/

theorem namesFile_suffix_iff_components {path : Text} (relative : Relative path) (file : Text) :
    namesFile .suffix file path = true ↔ Lines.pieces (.char '/') path <:+ components file := by
  have notEmpty : path.isEmpty = false := by simpa using relative.nonEmpty
  have hasComponents : (Lines.pieces (.char '/') path).isEmpty = false := by
    simpa using Lines.pieces_ne_nil (.char '/') path
  rw [namesFile, notEmpty, relative.components_eq]
  simp [hasComponents]

theorem namesFile_suffix_iff {file path : Text} (tidy : Tidy file) (relative : Relative path) :
    namesFile .suffix file path = true ↔ file = path ∨ .char '/' :: path <:+ file := by
  rw [namesFile_suffix_iff_components relative]
  constructor
  · intro named
    obtain ⟨front, split⟩ := named.trans tidy.components_suffix
    have isFile := Lines.intercalate_pieces (.char '/') file
    have isPath := Lines.intercalate_pieces (.char '/') path
    rw [← split] at isFile
    cases front with
    | nil =>
        left
        rw [← isFile, List.nil_append, isPath]
    | cons first rest =>
        right
        have ends := Lines.suffix_intercalate_append (.char '/') (List.cons_ne_nil first rest)
          (Lines.pieces_ne_nil (.char '/') path)
        rw [isFile, isPath] at ends
        exact ends
  · rintro (rfl | ⟨root, rfl⟩)
    · exact ⟨[], relative.components_eq.symm⟩
    · rw [components_append_slash, relative.components_eq]
      exact List.suffix_append _ _

theorem occursIn_iff (word text : Text) : occursIn word text = true ↔ word <:+: text := by
  induction text with
  | nil => simp [occursIn]
  | cons point rest ih =>
      rw [occursIn, Bool.or_eq_true, ih, List.isPrefixOf_iff_prefix, List.infix_cons_iff]

instance (path : Text) : Decidable (Tidy path) :=
  decidable_of_iff
    (.char '\\' ∉ path ∧ ¬occursIn [.char '/', .char '/'] path = true ∧
      path.getLast? ≠ some (.char '/'))
    ⟨fun tidy => ⟨tidy.1, mt (occursIn_iff _ path).mpr tidy.2.1, tidy.2.2⟩,
      fun tidy => ⟨tidy.noBackslash, mt (occursIn_iff _ path).mp tidy.noDoubleSlash,
        tidy.noFinalSlash⟩⟩

theorem namesFile_substring_iff {path : Text} (nonEmpty : path ≠ []) (file : Text) :
    namesFile .substring file path = true ↔ path <:+: file := by
  have notEmpty : path.isEmpty = false := by simpa using nonEmpty
  rw [namesFile, notEmpty]
  exact occursIn_iff path file

theorem namesFile_substring_of_suffix {file path : Text} (tidy : Tidy file)
    (relative : Relative path) (named : namesFile .suffix file path = true) :
    namesFile .substring file path = true := by
  rw [namesFile_substring_iff relative.nonEmpty]
  rcases (namesFile_suffix_iff tidy relative).mp named with rfl | ends
  · exact List.infix_rfl
  · exact (List.suffix_cons _ path).isInfix.trans ends.isInfix

/-- A path below any root is matched by both policies, whatever the root looks like. -/
theorem namesFile_append_slash {path : Text} (relative : Relative path) (root : Text)
    (policy : PathPolicy) : namesFile policy (root ++ .char '/' :: path) path = true := by
  cases policy with
  | substring =>
      rw [namesFile_substring_iff relative.nonEmpty]
      exact ((List.suffix_cons _ path).trans (List.suffix_append root _)).isInfix
  | suffix =>
      rw [namesFile_suffix_iff_components relative, components_append_slash, relative.components_eq]
      exact List.suffix_append _ _

end ChangeImpact.PathMatch
