import ChangeImpact.Proofs.Repository.Ways
import Mathlib.Data.List.Perm.Lattice
/-!
# Which meaning of a reference wins

A reference may be the beginning of a commit's name and at once the name of references, branches,
tags and expressions. Two repositories with the same objects give the same commit for it as soon as
they agree on the first of these meanings that applies, whatever they hold for the others.
-/
set_option autoImplicit false

namespace ChangeImpact.Repository

variable {repository here there : Repository} {ref commit : Text}

/-! ## Meanings -/

/-- Four to forty hexadecimal digits in either case. -/
structure IsHexName (ref : Text) : Prop where
  digits : ∀ point ∈ ref, Text.isHexDigit point = true
  long : 4 ≤ ref.length
  short : ref.length ≤ 40

structure Begins (repository : Repository) (ref commit : Text) : Prop where
  isStart : Text.asciiLower ref <+: commit
  readable : repository.isReadableCommit commit = true

/-- One commit and no other begins so; objects that are no commits do not count. -/
structure BeginsOnly (repository : Repository) (ref commit : Text) : Prop where
  begins : repository.Begins ref commit
  unique : ∀ other, repository.Begins ref other → other = commit

def BeginsNoneOrSeveral (repository : Repository) (ref : Text) : Prop :=
  (∀ commit, ¬repository.Begins ref commit) ∨
    ∃ first second, first ≠ second ∧ repository.Begins ref first ∧ repository.Begins ref second

/-- No two objects share a name, and the search by the start of a name finds them all. -/
structure Searchable (repository : Repository) : Prop where
  distinct : (repository.objects.map Prod.fst).Nodup
  answers : repository.searchFails = false

structure SameObjects (here there : Repository) : Prop where
  object? : ∀ name, here.object? name = there.object? name
  unreadable : ∀ name, name ∈ here.unreadable ↔ name ∈ there.unreadable

namespace SameObjects

theorem symm (same : SameObjects here there) : SameObjects there here where
  object? name := (same.object? name).symm
  unreadable name := (same.unreadable name).symm

theorem isReadableCommit (same : SameObjects here there) (name : Text) :
    here.isReadableCommit name = there.isReadableCommit name := by
  have sameLocks : here.unreadable.contains name = there.unreadable.contains name := by
    rw [Bool.eq_iff_iff, List.contains_iff_mem, List.contains_iff_mem]
    exact same.unreadable name
  simp only [Repository.isReadableCommit, isCommit, sameLocks, same.object?]

theorem begins (same : SameObjects here there) (begins : here.Begins ref commit) :
    there.Begins ref commit where
  isStart := begins.isStart
  readable := by
    rw [← same.isReadableCommit]
    exact begins.readable

theorem beginsOnly (same : SameObjects here there) (only : here.BeginsOnly ref commit) :
    there.BeginsOnly ref commit where
  begins := same.begins only.begins
  unique other begins := only.unique other (same.symm.begins begins)

theorem beginsNoneOrSeveral (same : SameObjects here there)
    (undecided : here.BeginsNoneOrSeveral ref) :
    there.BeginsNoneOrSeveral ref := by
  rcases undecided with none | ⟨first, second, differ, isFirst, isSecond⟩
  · exact .inl fun commit begins => none commit (same.symm.begins begins)
  · exact .inr ⟨first, second, differ, same.begins isFirst, same.begins isSecond⟩

end SameObjects

/-! ## The rule for beginnings of names -/

theorem mem_commitsStartingWith_iff :
    commit ∈ repository.commitsStartingWith (Text.asciiLower ref) ↔
      repository.Begins ref commit := by
  simp only [commitsStartingWith, List.mem_filter, Bool.and_eq_true, List.isPrefixOf_iff_prefix]
  constructor
  · rintro ⟨-, isStart, readable⟩
    exact ⟨isStart, readable⟩
  · rintro ⟨isStart, readable⟩
    have isCommit : repository.isCommit commit = true := (Bool.and_eq_true_iff.mp readable).2
    exact ⟨mem_objects_of_isCommit isCommit, isStart, readable⟩

theorem commitsStartingWith_of_beginsOnly (searchable : repository.Searchable)
    (only : repository.BeginsOnly ref commit) :
    repository.commitsStartingWith (Text.asciiLower ref) = [commit] := by
  have distinct : (repository.commitsStartingWith (Text.asciiLower ref)).Nodup :=
    searchable.distinct.filter _
  apply List.perm_singleton.mp
  apply (List.perm_ext_iff_of_nodup distinct (List.nodup_singleton commit)).mpr
  intro other
  rw [mem_commitsStartingWith_iff, List.mem_singleton]
  constructor
  · exact only.unique other
  · rintro rfl
    exact only.begins

theorem beginsOnly_of_commitsStartingWith
    (isOnly : repository.commitsStartingWith (Text.asciiLower ref) = [commit]) :
    repository.BeginsOnly ref commit := by
  have begins_iff (other : Text) : repository.Begins ref other ↔ other = commit := by
    rw [← mem_commitsStartingWith_iff, isOnly, List.mem_singleton]
  exact ⟨(begins_iff commit).mpr rfl, fun other => (begins_iff other).mp⟩

theorem BeginsOnly.not_noneOrSeveral (only : repository.BeginsOnly ref commit) :
    ¬repository.BeginsNoneOrSeveral ref := by
  rintro (none | ⟨first, second, differ, isFirst, isSecond⟩)
  · exact none commit only.begins
  · exact differ ((only.unique first isFirst).trans (only.unique second isSecond).symm)

theorem isHash_iff_isHexName (noLineEnd : .char '\n' ∉ ref) :
    isHash ref = true ↔ IsHexName ref := by
  have isWhole : withoutLineEnd ref = ref := by
    apply if_neg
    intro isLast
    exact noLineEnd (List.mem_of_getLast? isLast)
  simp only [isHash, isWhole, Bool.and_eq_true, List.all_eq_true, decide_eq_true_eq]
  constructor
  · rintro ⟨⟨digits, long⟩, short⟩
    exact ⟨digits, long, short⟩
  · rintro ⟨digits, long, short⟩
    exact ⟨⟨digits, long⟩, short⟩

theorem IsHexName.notMem (hexName : IsHexName ref) {point : CodePoint}
    (noDigit : Text.isHexDigit point = false) :
    point ∉ ref := by
  intro member
  rw [hexName.digits point member] at noDigit
  cases noDigit

theorem asHash_of_beginsOnly (searchable : repository.Searchable) (hexName : IsHexName ref)
    (only : repository.BeginsOnly ref commit) : repository.asHash ref = .ok (some commit) := by
  have isHash : isHash ref = true := (isHash_iff_isHexName (hexName.notMem (by decide))).mpr hexName
  simp [asHash, isHash, searchable.answers, commitsStartingWith_of_beginsOnly searchable only]

theorem asHash_of_undecided (noLineEnd : .char '\n' ∉ ref)
    (undecided : IsHexName ref → repository.BeginsNoneOrSeveral ref) :
    repository.asHash ref = .ok none := by
  unfold asHash
  split
  · rename_i isSearched
    have hexName := (isHash_iff_isHexName noLineEnd).mp (Bool.and_eq_true_iff.mp isSearched).1
    split
    · rename_i isOnly
      exact absurd (undecided hexName) (beginsOnly_of_commitsStartingWith isOnly).not_noneOrSeveral
    · rfl
  · rfl

/-! ## The rules in their order -/

theorem resolve_of_asWhole (found : repository.asWhole ref = .ok (some commit)) :
    repository.resolve ref = .ok commit := by
  rw [resolve, found]
  rfl

theorem asWhole_of_not_head (notHead : ref ≠ "HEAD") (notParent : ref ≠ "HEAD^") :
    repository.asWhole ref =
      ((repository.asHash ref).orElse fun _ => repository.asName ref).orElse fun _ =>
        (repository.asName ("refs/heads/" ++ ref)).orElse fun _ =>
          repository.asName ("refs/tags/" ++ ref) := by
  rw [asWhole, asHead, if_neg notHead, Attempt.orElse_none, asHeadParent, if_neg notParent,
    Attempt.orElse_none]

theorem resolve_of_beginsOnly (searchable : repository.Searchable) (hexName : IsHexName ref)
    (only : repository.BeginsOnly ref commit) : repository.resolve ref = .ok commit := by
  have noHead : .char 'H' ∉ ref := hexName.notMem (by decide)
  have notHead : ref ≠ "HEAD" := by
    rintro rfl
    exact noHead (by decide)
  have notParent : ref ≠ "HEAD^" := by
    rintro rfl
    exact noHead (by decide)
  apply resolve_of_asWhole
  rw [asWhole_of_not_head notHead notParent, asHash_of_beginsOnly searchable hexName only]
  rfl

theorem notMem_of_isPlainName (plain : isPlainName ref = true) {point : CodePoint}
    (forbidden : isForbidden point = true) : point ∉ ref := by
  intro member
  cases ref with
  | nil => cases plain
  | cons first rest =>
      have found : (first :: rest).any isForbidden = true :=
        List.any_eq_true.mpr ⟨point, member, forbidden⟩
      simp [isPlainName, found] at plain

theorem hasForbiddenPair_branch (ref : Text) :
    hasForbiddenPair ("refs/heads/" ++ ref) = hasForbiddenPair ref := by
  cases ref <;> rfl

theorem isPlainName_branch (plain : isPlainName ref = true) :
    isPlainName ("refs/heads/" ++ ref) = true := by
  have isName :
      isPlainName ("refs/heads/" ++ ref) = (!ref.any isForbidden && !hasForbiddenPair ref) := by
    rw [← hasForbiddenPair_branch]
    rfl
  rw [isName]
  cases ref with
  | nil => cases plain
  | cons first rest =>
      simp only [isPlainName, Bool.and_eq_true] at plain
      exact Bool.and_eq_true_iff.mpr ⟨plain.1.2, plain.2⟩

theorem isForbidden_of_isHexDigit {point : CodePoint} (digit : Text.isHexDigit point = true) :
    isForbidden point = false := by
  cases point with
  | surrogate => cases digit
  | char c =>
      have upTo {last : Char} (within : c ≤ last) : c.toNat ≤ last.toNat := within
      have small : c.toNat < 128 := by
        simp only [Text.isHexDigit, Text.hexValue?, Bool.and_eq_true, decide_eq_true_eq] at digit
        split at digit
        · rename_i range
          exact Nat.lt_of_le_of_lt (upTo range.2) (by decide)
        · split at digit
          · rename_i range
            exact Nat.lt_of_le_of_lt (upTo range.2) (by decide)
          · split at digit
            · rename_i range
              exact Nat.lt_of_le_of_lt (upTo range.2) (by decide)
            · cases digit
      have checked : ∀ code < 128, Text.isHexDigit (.char (Char.ofNat code)) = true →
          isForbidden (.char (Char.ofNat code)) = false := by decide
      have same := checked c.toNat small
      rw [Char.ofNat_toNat] at same
      exact same digit

theorem hasForbiddenPair_of_notMem (noDot : .char '.' ∉ ref) (noAt : .char '@' ∉ ref) :
    hasForbiddenPair ref = false := by
  induction ref with
  | nil => rfl
  | cons first rest ih =>
      have notDot : first ≠ '.' := (List.ne_of_not_mem_cons noDot).symm
      have notAt : first ≠ '@' := (List.ne_of_not_mem_cons noAt).symm
      have noRest := ih (List.not_mem_of_not_mem_cons noDot) (List.not_mem_of_not_mem_cons noAt)
      cases rest with
      | nil => rfl
      | cons second others => simp [hasForbiddenPair, isForbiddenPair, notDot, notAt, noRest]

theorem IsHexName.isPlainName (hexName : IsHexName ref) : isPlainName ref = true := by
  have noPair := hasForbiddenPair_of_notMem (hexName.notMem (by decide))
    (hexName.notMem (by decide))
  have noForbidden : ref.any isForbidden = false :=
    List.any_eq_false.mpr fun point member => by simp [isForbidden_of_isHexDigit
      (hexName.digits point member)]
  cases ref with
  | nil => exact absurd hexName.long (by decide)
  | cons first rest =>
      have notSlash : first ≠ '/' := (List.ne_of_not_mem_cons (hexName.notMem (by decide))).symm
      have notDash : first ≠ '-' := (List.ne_of_not_mem_cons (hexName.notMem (by decide))).symm
      simp [Repository.isPlainName, notSlash, notDash, noForbidden, noPair]

theorem headCommit_of_refCommit? (found : repository.refCommit? "HEAD" = some commit) :
    repository.headCommit = .ok commit := by
  unfold refCommit? at found
  unfold headCommit
  split at found
  · rename_i isObject
    rw [isObject]
    cases found
    rfl
  · cases found

theorem resolve_of_exact (plain : isPlainName ref = true)
    (undecided : IsHexName ref → repository.BeginsNoneOrSeveral ref)
    (exact : repository.refCommit? ref = some commit) : repository.resolve ref = .ok commit := by
  apply resolve_of_asWhole
  by_cases isHead : ref = "HEAD"
  · rw [isHead] at exact ⊢
    rw [asWhole_head, headCommit_of_refCommit? exact]
    rfl
  · have notParent : ref ≠ "HEAD^" := by
      rintro rfl
      cases plain
    have declines := asHash_of_undecided (notMem_of_isPlainName plain (by decide)) undecided
    rw [asWhole_of_not_head isHead notParent, declines, asName, if_pos plain, exact]
    rfl

theorem resolve_of_branch (plain : isPlainName ref = true)
    (undecided : IsHexName ref → repository.BeginsNoneOrSeveral ref) (notHead : ref ≠ "HEAD")
    (noExact : repository.refCommit? ref = none)
    (branch : repository.refCommit? ("refs/heads/" ++ ref) = some commit) :
    repository.resolve ref = .ok commit := by
  have notParent : ref ≠ "HEAD^" := by
    rintro rfl
    cases plain
  have declines := asHash_of_undecided (notMem_of_isPlainName plain (by decide)) undecided
  apply resolve_of_asWhole
  rw [asWhole_of_not_head notHead notParent, declines, asName, if_pos plain, noExact, asName,
    if_pos (isPlainName_branch plain), branch]
  rfl

/-! ## Two repositories -/

/-- With the same objects, a reference means the one commit that can be read and begins so; without
one it means the reference of that name, and then, unless it is the head's, the branch. Nothing that
either repository holds for a later meaning changes this. -/
theorem resolve_eq_of_first_meaning (same : SameObjects here there) (ref commit : Text) :
    (here.Searchable → there.Searchable → IsHexName ref → here.BeginsOnly ref commit →
      here.resolve ref = .ok commit ∧ there.resolve ref = .ok commit) ∧
    (IsHexName ref ∧ here.BeginsNoneOrSeveral ref ∨ ¬IsHexName ref ∧ isPlainName ref = true →
      (here.refCommit? ref = some commit ∧ there.refCommit? ref = some commit ∨
        ref ≠ "HEAD" ∧ here.refCommit? ref = none ∧ there.refCommit? ref = none ∧
          here.refCommit? ("refs/heads/" ++ ref) = some commit ∧
          there.refCommit? ("refs/heads/" ++ ref) = some commit) →
      here.resolve ref = .ok commit ∧ there.resolve ref = .ok commit) := by
  constructor
  · intro searchable searchableThere hexName only
    have onlyThere := same.beginsOnly only
    exact ⟨resolve_of_beginsOnly searchable hexName only,
      resolve_of_beginsOnly searchableThere hexName onlyThere⟩
  · intro isName meaning
    have plain : isPlainName ref = true := isName.elim (·.1.isPlainName) (·.2)
    have undecided (hexName : IsHexName ref) : here.BeginsNoneOrSeveral ref :=
      isName.elim (·.2) fun other => absurd hexName other.1
    have undecidedThere := fun hexName => same.beginsNoneOrSeveral (undecided hexName)
    rcases meaning with
      ⟨exact, exactThere⟩ | ⟨notHead, noExact, noExactThere, branch, branchThere⟩
    · exact ⟨resolve_of_exact plain undecided exact,
        resolve_of_exact plain undecidedThere exactThere⟩
    · exact ⟨resolve_of_branch plain undecided notHead noExact branch,
        resolve_of_branch plain undecidedThere notHead noExactThere branchThere⟩

/-- Two commits with a common beginning, and a tree that begins like a third. -/
def store : Repository :=
  { empty with
    objects := [("c0ffee", .commit []), ("c0ffab", .tree), ("beef01", .commit ["c0ffee"]),
      ("beef02", .commit ["c0ffee"])]
    refs := [("refs/heads/main", .object "c0ffee"), ("refs/heads/beef", .object "beef02")] }

def crowdedStore : Repository :=
  { store with
    refs := [("refs/heads/main", .object "c0ffee"), ("refs/heads/beef", .object "beef02"),
      ("refs/heads/c0FF", .object "beef01"), ("refs/tags/main", .object "beef01"),
      ("refs/tags/beef", .object "beef01")]
    expressions := [("c0FF", "beef01"), ("main", "beef02"), ("beef", "c0ffee")] }

theorem beginsOnly_store : store.BeginsOnly "c0FF" "c0ffee" :=
  beginsOnly_of_commitsStartingWith (by decide)

theorem beginsNoneOrSeveral_store : store.BeginsNoneOrSeveral "beef" :=
  .inr ⟨"beef01", "beef02", by decide, ⟨by decide, by decide⟩, ⟨by decide, by decide⟩⟩

/-- The one commit that begins so, a branch whose name begins no commit, and one whose name begins
two. -/
theorem resolve_eq_crowdedStore :
    SameObjects store crowdedStore ∧
      (store.BeginsOnly "c0FF" "c0ffee" ∧ store.resolve "c0FF" = .ok (Text.ofString "c0ffee") ∧
        crowdedStore.resolve "c0FF" = .ok (Text.ofString "c0ffee")) ∧
      (store.resolve "main" = .ok (Text.ofString "c0ffee") ∧
        crowdedStore.resolve "main" = .ok (Text.ofString "c0ffee")) ∧
      (store.BeginsNoneOrSeveral "beef" ∧ store.resolve "beef" = .ok (Text.ofString "beef02") ∧
        crowdedStore.resolve "beef" = .ok (Text.ofString "beef02")) := by
  have same : SameObjects store crowdedStore := ⟨fun _ => rfl, fun _ => .rfl⟩
  refine ⟨same, ⟨beginsOnly_store, ?_⟩, ?_, beginsNoneOrSeveral_store, ?_⟩
  · have hexName : IsHexName "c0FF" := ⟨by decide, by decide, by decide⟩
    exact (resolve_eq_of_first_meaning same _ _).1 ⟨by decide, rfl⟩ ⟨by decide,
      rfl⟩ hexName beginsOnly_store
  · have noHexName : ¬IsHexName "main" := fun hexName =>
      absurd (hexName.digits (.char 'm') (by decide)) (by decide)
    apply (resolve_eq_of_first_meaning same _ _).2 (.inr ⟨noHexName, by decide⟩)
    exact .inr ⟨by decide, by decide, by decide, by decide, by decide⟩
  · have hexName : IsHexName "beef" := ⟨by decide, by decide, by decide⟩
    apply (resolve_eq_of_first_meaning same _ _).2 (.inl ⟨hexName, beginsNoneOrSeveral_store⟩)
    exact .inr ⟨by decide, by decide, by decide, by decide, by decide⟩

def headBranch : Repository :=
  { empty with
    objects := [("c0ffee", .commit [])]
    refs := [("refs/heads/HEAD", .object "c0ffee")] }

/-- The only commit cannot be read. -/
def lockedCommit : Repository :=
  { empty with
    objects := [("c0ffee", .commit [])]
    unreadable := ["c0ffee"] }

/-- The head's name is not looked up as a branch, and a commit that cannot be read is not found by
its beginning. -/
theorem resolve_headBranch_and_lockedCommit :
    (isPlainName "HEAD" = true ∧ headBranch.refCommit? "HEAD" = none ∧
      headBranch.refCommit? ("refs/heads/" ++ Text.ofString "HEAD") =
        some (Text.ofString "c0ffee") ∧
      headBranch.resolve "HEAD" =
        .error (.unresolved "HEAD" (some (Text.ofString "HEAD does not point at a commit")))) ∧
    (IsHexName "c0ff" ∧ lockedCommit.Searchable ∧
      (∀ name, lockedCommit.isCommit name = true ↔ name = Text.ofString "c0ffee") ∧
      lockedCommit.resolve "c0ff" = .error (.unresolved "c0ff" none)) := by
  have isOnly (name : Text) :
      lockedCommit.isCommit name = true ↔ name = Text.ofString "c0ffee" := by
    constructor
    · intro isCommit
      exact List.mem_singleton.mp (mem_objects_of_isCommit isCommit)
    · rintro rfl
      decide
  have hexName : IsHexName "c0ff" := ⟨by decide, by decide, by decide⟩
  exact ⟨⟨by decide, by decide, by decide, by decide⟩, hexName, ⟨by decide, rfl⟩, isOnly, by decide⟩

end ChangeImpact.Repository
