import ChangeImpact.Proofs.Repository.Ways
/-!
# How a reference fails

A reference fails for a start of it that names no commit, for a parent that a commit of the
repository does not have, for a head that is no commit, or for a number in it with too many digits.
The rules give no other failure, and no commit that the repository does not mention.
-/
set_option autoImplicit false

namespace ChangeImpact.Repository

variable {repository : Repository} {ref : Text}

/-- An object has this name, or a commit has a parent with it. -/
def Mentions (repository : Repository) (name : Text) : Prop :=
  name ∈ repository.objects.map Prod.fst ∨ ∃ commit, repository.HasParent commit name

inductive Refused (repository : Repository) (ref : Text) : Failure → Prop
  | unknown {part : Text} {reason : Option Text} (isStart : part <+: ref)
      (isKnown : reason = none ∨ reason = some (Text.ofString "HEAD does not point at a commit")) :
      Refused repository ref (.unresolved part reason)
  | noParent {part commit : Text} {number : Int} (isStart : part <+: ref)
      (mentioned : repository.Mentions commit) :
      Refused repository ref (.noParent part commit number)
  | notCommit {name : Text} {object : RepositoryObject}
      (leads : repository.refObject? "HEAD" = some (name, object))
      (isOther : ∀ parents, object ≠ .commit parents) :
      Refused repository ref (.notCommit name object)
  | tooLong {length : Nat} (long : Numeral.LongDigits Text.isDecimalDigit ref length) :
      Refused repository ref (.numeralTooLong ⟨length⟩)

theorem Refused.mono {part : Text} {failure : Failure} (refused : repository.Refused part failure)
    (isStart : part <+: ref) : repository.Refused ref failure := by
  cases refused with
  | unknown isPart isKnown => exact .unknown (isPart.trans isStart) isKnown
  | noParent isPart mentioned => exact .noParent (isPart.trans isStart) mentioned
  | notCommit leads isOther => exact .notCommit leads isOther
  | tooLong long => exact .tooLong (long.mono isStart.isInfix)

/-! ## Commits of the repository -/

theorem Mentions.parent {commit found : Text} {number : Nat}
    (mentioned : repository.Mentions commit) (isParent : repository.IsParent commit number found) :
    repository.Mentions found := by
  cases number with
  | zero =>
      rw [IsParent] at isParent
      rwa [isParent]
  | succ number => exact .inr ⟨commit, List.mem_of_getElem? isParent⟩

theorem Mentions.firstLine {commit last : Text} {steps : Nat}
    (mentioned : repository.Mentions commit) (line : repository.FirstLine commit steps last) :
    repository.Mentions last := by
  induction line with
  | here => exact mentioned
  | @step commit next _ _ _ isFirst _ ih =>
      exact ih (.inr ⟨commit, hasParent_of_isFirst isFirst⟩)

/-! ## Sound results -/

/-- A result that is a commit of the repository or a failure of the reference. -/
structure Sound (repository : Repository) (ref : Text) (result : Except Failure Text) : Prop where
  gives : ∀ commit, result = .ok commit → repository.Mentions commit
  fails : ∀ failure, result = .error failure → repository.Refused ref failure

/-- An attempt that gives nothing, or has a sound result. -/
structure SoundAttempt (repository : Repository) (ref : Text) (attempt : Attempt) : Prop where
  gives : ∀ commit, attempt = .ok (some commit) → repository.Mentions commit
  fails : ∀ failure, attempt = .error failure → repository.Refused ref failure

theorem sound_ok {commit : Text} (mentioned : repository.Mentions commit) :
    repository.Sound ref (.ok commit) := by
  refine ⟨?_, nofun⟩
  intro other same
  cases same
  exact mentioned

theorem sound_error {failure : Failure} (refused : repository.Refused ref failure) :
    repository.Sound ref (.error failure) := by
  refine ⟨nofun, ?_⟩
  intro other same
  cases same
  exact refused

theorem Sound.mono {part : Text} {result : Except Failure Text}
    (sound : repository.Sound part result) (isStart : part <+: ref) : repository.Sound ref result :=
  ⟨sound.gives, fun failure fails => (sound.fails failure fails).mono isStart⟩

theorem Sound.bind {result : Except Failure Text} {next : Text → Except Failure Text}
    (sound : repository.Sound ref result)
    (goesOn : ∀ commit, repository.Mentions commit → repository.Sound ref (next commit)) :
    repository.Sound ref (result >>= next) := by
  cases result with
  | ok commit => exact goesOn commit (sound.gives commit rfl)
  | error failure => exact sound_error (sound.fails failure rfl)

theorem Sound.attempt {result : Except Failure Text} (sound : repository.Sound ref result) :
    repository.SoundAttempt ref (result.map some) := by
  cases result with
  | ok commit =>
      refine ⟨?_, nofun⟩
      intro other same
      cases same
      exact sound.gives commit rfl
  | error failure =>
      refine ⟨nofun, ?_⟩
      intro other same
      cases same
      exact sound.fails failure rfl

theorem SoundAttempt.orElse {first : Attempt} {next : Unit → Attempt}
    (sound : repository.SoundAttempt ref first)
    (nextSound : repository.SoundAttempt ref (next ())) :
    repository.SoundAttempt ref (first.orElse next) := by
  unfold Attempt.orElse
  split
  · exact nextSound
  · exact sound

theorem SoundAttempt.orUnresolved {attempt : Attempt}
    (sound : repository.SoundAttempt ref attempt) :
    repository.Sound ref (attempt.orUnresolved ref) := by
  unfold Attempt.orUnresolved
  split
  · rename_i commit
    exact sound_ok (sound.gives commit rfl)
  · exact sound_error (.unknown List.prefix_rfl (.inl rfl))
  · rename_i failure
    exact sound_error (sound.fails failure rfl)

/-! ## Rules -/

end ChangeImpact.Repository
