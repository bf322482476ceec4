import Mathlib.Data.List.Perm.Subperm
import Mathlib.Logic.Relation
import ChangeImpact.Repository.Resolve
/-!
# Walks through parents

A walk takes one step to a parent with some number and then steps to first parents. What it reaches,
or where it stops, is said here by the parents of commits alone. Where no commit is its own ancestor
a walk passes each object at most once, so it stops at a commit without parents, however many steps
are asked for.
-/
set_option autoImplicit false

namespace ChangeImpact.Repository

variable {repository : Repository}

/-! ## One step -/

def IsParent (repository : Repository) (commit : Text) : Nat → Text → Prop
  | 0, found => found = commit
  | number + 1, found => (repository.parents commit)[number]? = some found

instance decidableIsParent (repository : Repository) (commit found : Text) :
    (number : Nat) → Decidable (repository.IsParent commit number found)
  | 0 => inferInstanceAs (Decidable (found = commit))
  | number + 1 => inferInstanceAs (Decidable ((repository.parents commit)[number]? = some found))

theorem parent_eq_ok_iff (ref commit found : Text) (number : Nat) :
    repository.parent ref commit number = .ok found ↔ repository.IsParent commit number found := by
  cases number with
  | zero =>
      rw [parent, IsParent, Except.ok.injEq]
      exact eq_comm
  | succ number =>
      rw [parent, IsParent]
      cases (repository.parents commit)[number]? <;> simp

theorem parent_eq_error_iff (ref commit : Text) (number : Nat) (failure : Failure) :
    repository.parent ref commit number = .error failure ↔
      (repository.parents commit).length < number ∧ failure = .noParent ref commit number := by
  cases number with
  | zero => simp [parent]
  | succ number =>
      rw [parent, Nat.lt_succ_iff, ← List.getElem?_eq_none_iff]
      cases (repository.parents commit)[number]? with
      | none => simp [eq_comm]
      | some found => simp

/-! ## First parents -/

inductive FirstLine (repository : Repository) : Text → Nat → Text → Prop
  | here {commit : Text} : FirstLine repository commit 0 commit
  | step {commit next last : Text} {others : List Text} {steps : Nat}
      (isFirst : repository.parents commit = next :: others)
      (line : FirstLine repository next steps last) : FirstLine repository commit (steps + 1) last

theorem parent_one_eq_ok_iff (ref commit next : Text) :
    repository.parent ref commit 1 = .ok next ↔
      ∃ others, repository.parents commit = next :: others := by
  rw [parent_eq_ok_iff, IsParent]
  cases repository.parents commit <;> simp

theorem parent_one_eq_error_iff (ref commit : Text) (failure : Failure) :
    repository.parent ref commit 1 = .error failure ↔
      repository.parents commit = [] ∧ failure = .noParent ref commit 1 := by
  rw [parent_eq_error_iff, Nat.lt_one_iff, List.length_eq_zero_iff]
  rfl

theorem firstParents_eq_ok_iff (ref commit last : Text) (steps : Nat) :
    repository.firstParents ref steps commit = .ok last ↔
      repository.FirstLine commit steps last := by
  induction steps generalizing commit with
  | zero =>
      rw [firstParents, Except.ok.injEq]
      constructor
      · rintro rfl
        exact .here
      · intro line
        cases line
        rfl
  | succ steps ih =>
      rw [firstParents]
      constructor
      · intro walked
        cases stepped : repository.parent ref commit 1 with
        | error failure =>
            rw [stepped] at walked
            cases walked
        | ok next =>
            rw [stepped] at walked
            obtain ⟨others, isFirst⟩ := (parent_one_eq_ok_iff ..).mp stepped
            exact .step isFirst ((ih next).mp walked)
      · intro line
        cases line with
        | step isFirst line =>
            rw [(parent_one_eq_ok_iff ref commit _).mpr ⟨_, isFirst⟩]
            exact (ih _).mpr line

/-- Steps to first parents fail at a commit that has no parents and is reached before the last
step. -/
theorem firstParents_eq_error_iff (ref commit : Text) (steps : Nat) (failure : Failure) :
    repository.firstParents ref steps commit = .error failure ↔
      ∃ taken root, taken < steps ∧ repository.FirstLine commit taken root ∧
        repository.parents root = [] ∧ failure = .noParent ref root 1 := by
  induction steps generalizing commit with
  | zero => simp [firstParents]
  | succ steps ih =>
      rw [firstParents]
      constructor
      · intro walked
        cases stepped : repository.parent ref commit 1 with
        | error refused =>
            rw [stepped] at walked
            cases walked
            obtain ⟨isRoot, isFailure⟩ := (parent_one_eq_error_iff ..).mp stepped
            exact ⟨0, commit, Nat.succ_pos steps, .here, isRoot, isFailure⟩
        | ok next =>
            rw [stepped] at walked
            obtain ⟨others, isFirst⟩ := (parent_one_eq_ok_iff ..).mp stepped
            obtain ⟨taken, root, short, line, isRoot, isFailure⟩ := (ih next).mp walked
            exact ⟨taken + 1, root, Nat.succ_lt_succ short, .step isFirst line, isRoot, isFailure⟩
      · rintro ⟨taken, root, short, line, isRoot, isFailure⟩
        cases line with
        | here => rw [(parent_one_eq_error_iff ref commit failure).mpr ⟨isRoot, isFailure⟩]
        | step isFirst line =>
            rw [(parent_one_eq_ok_iff ref commit _).mpr ⟨_, isFirst⟩]
            exact (ih _).mpr ⟨_, root, Nat.lt_of_succ_lt_succ short, line, isRoot, isFailure⟩

theorem firstParents_add (ref commit : Text) (first second : Nat) :
    repository.firstParents ref (first + second) commit =
      repository.firstParents ref first commit >>= repository.firstParents ref second := by
  induction first generalizing commit with
  | zero =>
      rw [Nat.zero_add]
      rfl
  | succ first ih =>
      rw [Nat.add_right_comm, firstParents, firstParents]
      cases repository.parent ref commit 1 with
      | error failure => rfl
      | ok next => exact ih next

theorem FirstLine.exists_middle {commit last : Text} {steps : Nat}
    (line : repository.FirstLine commit steps last) {first : Nat} (atMost : first ≤ steps) :
    ∃ middle, repository.FirstLine commit first middle := by
  induction line generalizing first with
  | here =>
      obtain rfl := Nat.le_zero.mp atMost
      exact ⟨_, .here⟩
  | step isFirst _ ih =>
      cases first with
      | zero => exact ⟨_, .here⟩
      | succ first =>
          obtain ⟨middle, line⟩ := ih (Nat.le_of_succ_le_succ atMost)
          exact ⟨middle, .step isFirst line⟩

/-! ## Repositories without gaps -/

def HasParent (repository : Repository) (commit parent : Text) : Prop :=
  parent ∈ repository.parents commit

/-- The parents of commits are commits of the repository, as in a clone that is not shallow. -/
def Intact (repository : Repository) : Prop :=
  ∀ commit ∈ repository.objects.map Prod.fst, ∀ parent ∈ repository.parents commit,
    repository.isCommit parent = true

instance decidableIntact (repository : Repository) : Decidable repository.Intact :=
  inferInstanceAs (Decidable (∀ commit ∈ repository.objects.map Prod.fst,
    ∀ parent ∈ repository.parents commit, repository.isCommit parent = true))

theorem mem_objects_of_object? {name : Text} {object : RepositoryObject}
    (found : repository.object? name = some object) : name ∈ repository.objects.map Prod.fst := by
  unfold object? find? at found
  obtain ⟨pair, isPair, -⟩ := Option.map_eq_some_iff.mp found
  have isKey : pair.1 = name := by simpa using List.find?_some isPair
  rw [← isKey]
  exact List.mem_map_of_mem (List.mem_of_find?_eq_some isPair)

theorem isCommit_of_object? {name : Text} {parents : List Text}
    (found : repository.object? name = some (.commit parents)) :
    repository.isCommit name = true := by
  rw [isCommit, found]

theorem mem_objects_of_isCommit {name : Text} (isCommit : repository.isCommit name = true) :
    name ∈ repository.objects.map Prod.fst := by
  unfold Repository.isCommit at isCommit
  split at isCommit
  · rename_i found
    exact mem_objects_of_object? found
  · cases isCommit

theorem mem_objects_of_hasParent {commit parent : Text}
    (hasParent : repository.HasParent commit parent) :
    commit ∈ repository.objects.map Prod.fst := by
  unfold HasParent parents at hasParent
  split at hasParent
  · rename_i found
    exact mem_objects_of_object? found
  · cases hasParent

theorem hasParent_of_isFirst {commit next : Text} {others : List Text}
    (isFirst : repository.parents commit = next :: others) : repository.HasParent commit next := by
  rw [HasParent, isFirst]
  exact List.mem_cons_self

namespace Intact

variable (intact : repository.Intact)

include intact

theorem isCommit_of_hasParent {commit parent : Text}
    (hasParent : repository.HasParent commit parent) : repository.isCommit parent = true :=
  intact commit (mem_objects_of_hasParent hasParent) parent hasParent

theorem isCommit_of_isParent {commit found : Text} {number : Nat}
    (isCommit : repository.isCommit commit = true)
    (isParent : repository.IsParent commit number found) : repository.isCommit found = true := by
  cases number with
  | zero =>
      rw [IsParent] at isParent
      rwa [isParent]
  | succ number => exact intact.isCommit_of_hasParent (List.mem_of_getElem? isParent)

theorem isCommit_of_firstLine {commit last : Text} {steps : Nat}
    (line : repository.FirstLine commit steps last) (isCommit : repository.isCommit commit = true) :
    repository.isCommit last = true := by
  induction line with
  | here => exact isCommit
  | step isFirst _ ih => exact ih (intact.isCommit_of_hasParent (hasParent_of_isFirst isFirst))

end Intact

/-! ## The end of a walk -/

/-- What a walk from a commit gives: the commit at its end, or the failure of the step that asks for
a parent that a commit does not have. -/
inductive Leads (repository : Repository) (ref commit : Text) (number steps : Nat) :
    Except Failure Text → Prop
  | arrives {parent last : Text} (isParent : repository.IsParent commit number parent)
      (line : repository.FirstLine parent steps last) (isCommit : repository.isCommit last = true) :
      Leads repository ref commit number steps (.ok last)
  | lacksParent (isCommit : repository.isCommit commit = true)
      (tooFew : (repository.parents commit).length < number) :
      Leads repository ref commit number steps (.error (.noParent ref commit number))
  | endsEarly {parent root : Text} {taken : Nat}
      (isParent : repository.IsParent commit number parent) (short : taken < steps)
      (line : repository.FirstLine parent taken root) (isCommit : repository.isCommit root = true)
      (isRoot : repository.parents root = []) :
      Leads repository ref commit number steps (.error (.noParent ref root 1))

theorem walk_eq_iff_leads (intact : repository.Intact) {commit : Text}
    (isCommit : repository.isCommit commit = true) (ref : Text) (number steps : Nat)
    (outcome : Except Failure Text) :
    (repository.parent ref commit number >>= repository.firstParents ref steps) = outcome ↔
      repository.Leads ref commit number steps outcome := by
  constructor
  · rintro rfl
    cases stepped : repository.parent ref commit number with
    | error failure =>
        obtain ⟨tooFew, rfl⟩ := (parent_eq_error_iff ..).mp stepped
        exact .lacksParent isCommit tooFew
    | ok parent =>
        have isParent := (parent_eq_ok_iff ..).mp stepped
        have parentCommit := intact.isCommit_of_isParent isCommit isParent
        change repository.Leads ref commit number steps (repository.firstParents ref steps parent)
        cases walked : repository.firstParents ref steps parent with
        | error failure =>
            obtain ⟨taken, root, short, line, isRoot, rfl⟩ :=
              (firstParents_eq_error_iff ..).mp walked
            have rootCommit := intact.isCommit_of_firstLine line parentCommit
            exact .endsEarly isParent short line rootCommit isRoot
        | ok last =>
            have line := (firstParents_eq_ok_iff ..).mp walked
            exact .arrives isParent line (intact.isCommit_of_firstLine line parentCommit)
  · intro leads
    cases leads with
    | arrives isParent line =>
        rw [(parent_eq_ok_iff ref ..).mpr isParent]
        exact (firstParents_eq_ok_iff ..).mpr line
    | lacksParent _ tooFew =>
        rw [(parent_eq_error_iff ref commit number _).mpr ⟨tooFew, rfl⟩]
        rfl
    | endsEarly isParent short line _ isRoot =>
        rw [(parent_eq_ok_iff ref ..).mpr isParent]
        exact (firstParents_eq_error_iff ..).mpr ⟨_, _, short, line, isRoot, rfl⟩

/-! ## Repositories without circles -/

/-- No commit is its own ancestor. -/
def Acyclic (repository : Repository) : Prop :=
  ∀ commit, ¬Relation.TransGen repository.HasParent commit commit

/-- Commits that can be numbered so that parents come before their children form no circle. -/
theorem acyclic_of_rank (rank : Text → Nat)
    (falls : ∀ commit ∈ repository.objects.map Prod.fst, ∀ parent ∈ repository.parents commit,
      rank parent < rank commit) : repository.Acyclic := by
  have lower {commit ancestor : Text}
      (isAncestor : Relation.TransGen repository.HasParent commit ancestor) :
      rank ancestor < rank commit := by
    induction isAncestor with
    | single hasParent => exact falls _ (mem_objects_of_hasParent hasParent) _ hasParent
    | tail _ hasParent ih =>
        exact Nat.lt_trans (falls _ (mem_objects_of_hasParent hasParent) _ hasParent) ih
  exact fun commit isAncestor => Nat.lt_irrefl _ (lower isAncestor)

/-- The commits that a line passes are different objects. -/
theorem exists_passed_of_firstLine (acyclic : repository.Acyclic) {commit last : Text} {steps : Nat}
    (line : repository.FirstLine commit steps last) :
    ∃ passed : List Text, passed.length = steps ∧ passed.Nodup ∧
      passed ⊆ repository.objects.map Prod.fst ∧
      ∀ other ∈ passed, Relation.ReflTransGen repository.HasParent commit other := by
  induction line with
  | here => exact ⟨[], rfl, .nil, nofun, nofun⟩
  | @step commit next last others steps isFirst _ ih =>
      obtain ⟨passed, isLength, distinct, inside, areAncestors⟩ := ih
      have hasParent := hasParent_of_isFirst isFirst
      have areBehind : ∀ other ∈ passed, Relation.TransGen repository.HasParent commit other :=
        fun other member => .head' hasParent (areAncestors other member)
      refine ⟨commit :: passed, by rw [List.length_cons, isLength], ?_, ?_, ?_⟩
      · exact List.nodup_cons.mpr ⟨fun member => acyclic commit (areBehind commit member), distinct⟩
      · exact List.cons_subset.mpr ⟨mem_objects_of_hasParent hasParent, inside⟩
      · intro other member
        rcases List.mem_cons.mp member with rfl | isPassed
        · exact .refl
        · exact (areBehind other isPassed).to_reflTransGen

theorem length_le_of_firstLine (acyclic : repository.Acyclic) {commit last : Text} {steps : Nat}
    (line : repository.FirstLine commit steps last) : steps ≤ repository.objects.length := by
  obtain ⟨passed, rfl, distinct, inside, -⟩ := exists_passed_of_firstLine acyclic line
  have bounded := (distinct.subperm inside).length_le
  rwa [List.length_map] at bounded

theorem exists_root_or_firstLine (commit : Text) (steps : Nat) :
    (∃ taken root, repository.FirstLine commit taken root ∧ repository.parents root = []) ∨
      ∃ last, repository.FirstLine commit steps last := by
  cases walked : repository.firstParents [] steps commit with
  | error failure =>
      obtain ⟨taken, root, -, line, isRoot, -⟩ := (firstParents_eq_error_iff ..).mp walked
      exact .inl ⟨taken, root, line, isRoot⟩
  | ok last => exact .inr ⟨last, (firstParents_eq_ok_iff ..).mp walked⟩

/-- The line of first parents ends at a commit without parents after at most as many steps as there
are objects. -/
theorem exists_root (acyclic : repository.Acyclic) (commit : Text) :
    ∃ taken root, taken ≤ repository.objects.length ∧ repository.FirstLine commit taken root ∧
      repository.parents root = [] := by
  rcases exists_root_or_firstLine commit (repository.objects.length + 1) with
    ⟨taken, root, line, isRoot⟩ | ⟨last, line⟩
  · exact ⟨taken, root, length_le_of_firstLine acyclic line, line, isRoot⟩
  · have bounded := length_le_of_firstLine acyclic line
    omega

end ChangeImpact.Repository
