import Mathlib.Data.List.TakeWhile
import ChangeImpact.Proofs.Repository.FirstParents
/-!
# What ways through parents mean

A reference with a parent's number after a caret, a number of steps after a tilde, or both, names
the end of a walk from the commit that the text before the first mark names. No rule that looks at
the reference as a whole finds another commit for it.
-/
set_option autoImplicit false

namespace ChangeImpact.Repository

variable {repository : Repository}

/-! ## Written ways -/

/-- Digits of any script, and the number that they write in base ten. -/
inductive Decimal : Text → Nat → Prop
  | one {point : CodePoint} {value : Nat} (isDigit : Text.digitValue? point = some value) :
      Decimal [point] value
  | more {digits : Text} {number value : Nat} {point : CodePoint} (others : Decimal digits number)
      (isDigit : Text.digitValue? point = some value) :
      Decimal (digits ++ [point]) (10 * number + value)

/-- Digits that write a number and are few enough to be converted. -/
structure Writes (digits : Text) (number : Nat) : Prop where
  decimal : Decimal digits number
  fits : digits.length ≤ Numeral.digitLimit

/-- The number of a parent as it stands after a caret, where nothing stands for one. -/
def WritesParent (digits : Text) (number : Nat) : Prop :=
  digits = [] ∧ number = 1 ∨ Writes digits number

def NoMark (text : Text) : Prop :=
  ∀ point ∈ text, isStepMark point = false

def HasMark (text : Text) : Prop :=
  ∃ point ∈ text, isStepMark point = true

/-- A reference that asks for the parent with some number of what the base names, and then for so
many steps to first parents. After a caret a tilde asks for no steps if what follows it is not a
number. -/
inductive Asks (base : Text) : Text → Nat → Nat → Prop
  | caret {digits : Text} {number : Nat} (isNumber : WritesParent digits number) :
      Asks base (base ++ .char '^' :: digits) number 0
  | tilde {digits : Text} {steps : Nat} (isNumber : Writes digits steps) :
      Asks base (base ++ .char '~' :: digits) 0 steps
  | both {first second : Text} {number steps : Nat} (isParent : WritesParent first number)
      (isNumber : Writes second steps) :
      Asks base (base ++ .char '^' :: (first ++ .char '~' :: second)) number steps
  | ignored {digits other : Text} {number : Nat} (isNumber : WritesParent digits number)
      (noMark : NoMark other)
      (noNumber : other = [] ∨ ∃ point ∈ other, Text.isDecimalDigit point = false) :
      Asks base (base ++ .char '^' :: (digits ++ .char '~' :: other)) number 0

/-! ## Numbers -/

theorem isDecimalDigit_of_digitValue? {point : CodePoint} {value : Nat}
    (isDigit : Text.digitValue? point = some value) : Text.isDecimalDigit point = true := by
  rw [Text.isDecimalDigit, isDigit]
  rfl

theorem Decimal.areDigits {digits : Text} {number : Nat} (decimal : Decimal digits number) :
    ∀ point ∈ digits, Text.isDecimalDigit point = true := by
  induction decimal with
  | one isDigit =>
      intro point member
      rw [List.mem_singleton.mp member]
      exact isDecimalDigit_of_digitValue? isDigit
  | more _ isDigit ih =>
      intro point member
      rcases List.mem_append.mp member with earlier | last
      · exact ih point earlier
      · rw [List.mem_singleton.mp last]
        exact isDecimalDigit_of_digitValue? isDigit

theorem Decimal.ne_nil {digits : Text} {number : Nat} (decimal : Decimal digits number) :
    digits ≠ [] := by
  cases decimal <;> simp

theorem Decimal.numberOfDigits {digits : Text} {number : Nat} (decimal : Decimal digits number) :
    Text.numberOfDigits digits = number := by
  induction decimal with
  | one isDigit => simp [Text.numberOfDigits, isDigit]
  | more _ isDigit ih =>
      rw [Text.numberOfDigits] at ih ⊢
      rw [List.foldl_append, ih]
      simp [isDigit]

theorem readNumber_of_writes {digits : Text} {number : Nat} (writes : Writes digits number) :
    readNumber digits = .ok number := by
  rw [readNumber, Numeral.ofDigits, if_neg (Nat.not_lt.mpr writes.fits),
    writes.decimal.numberOfDigits]

theorem WritesParent.areDigits {digits : Text} {number : Nat}
    (isNumber : WritesParent digits number) :
    ∀ point ∈ digits, Text.isDecimalDigit point = true := by
  rcases isNumber with ⟨rfl, -⟩ | writes
  · nofun
  · exact writes.decimal.areDigits

theorem caretStep_of_writesParent {digits : Text} {number : Nat}
    (isNumber : WritesParent digits number) (ref commit : Text) :
    repository.caretStep ref commit (some digits) = repository.parent ref commit number := by
  rcases isNumber with ⟨rfl, rfl⟩ | writes
  · rfl
  · have notEmpty := writes.decimal.ne_nil
    cases digits with
    | nil => exact absurd rfl notEmpty
    | cons digit digits => simp only [caretStep, readNumber_of_writes writes]

theorem tildeSteps_of_writes {digits : Text} {steps : Nat} (writes : Writes digits steps)
    (ref commit : Text) :
    repository.tildeSteps ref commit (some digits) = repository.firstParents ref steps commit := by
  simp only [tildeSteps, readNumber_of_writes writes]

/-! ## Reading a way -/

theorem isStepMark_iff (point : CodePoint) :
    isStepMark point = true ↔ point = .char '^' ∨ point = .char '~' := by
  simp [isStepMark]

theorem noMark_of_areDigits {digits : Text}
    (areDigits : ∀ point ∈ digits, Text.isDecimalDigit point = true) :
    NoMark digits := by
  intro point member
  rw [Bool.eq_false_iff]
  intro isMark
  have isDigit := areDigits point member
  rcases (isStepMark_iff point).mp isMark with rfl | rfl <;> exact absurd isDigit (by decide)

theorem NoMark.not_isStepMark {text : Text} (noMark : NoMark text) :
    ∀ point ∈ text, (!isStepMark point) = true := by
  intro point member
  rw [noMark point member]
  rfl

theorem any_isStepMark_of_noMark {text : Text} (noMark : NoMark text) :
    text.any isStepMark = false := by
  rw [List.any_eq_false]
  intro point member
  rw [noMark point member]
  exact Bool.false_ne_true

/-- A text that a step can follow. -/
structure IsBase (base : Text) : Prop where
  notEmpty : base ≠ []
  noMark : NoMark base

namespace IsBase

variable {base : Text}

theorem takeWhile (isBase : IsBase base) {mark : CodePoint} (isMark : isStepMark mark = true)
    (rest : Text) :
    ((base ++ mark :: rest).takeWhile fun point => !isStepMark point) = base := by
  have noMark := isBase.noMark.not_isStepMark
  rw [List.takeWhile_append_of_pos noMark, List.takeWhile_cons_of_neg (by simp [isMark]),
    List.append_nil]

theorem dropWhile (isBase : IsBase base) {mark : CodePoint} (isMark : isStepMark mark = true)
    (rest : Text) :
    ((base ++ mark :: rest).dropWhile fun point => !isStepMark point) = mark :: rest := by
  have noMark := isBase.noMark.not_isStepMark
  rw [List.dropWhile_append_of_pos noMark, List.dropWhile_cons_of_neg (by simp [isMark])]

theorem isEmpty (isBase : IsBase base) : base.isEmpty = false :=
  List.isEmpty_eq_false_iff.mpr isBase.notEmpty

theorem way?_self (isBase : IsBase base) : way? base = some ⟨base, none, none⟩ := by
  have noMark := isBase.noMark.not_isStepMark
  rw [way?, List.takeWhile_eq_self_iff.mpr noMark, List.dropWhile_eq_nil_iff.mpr noMark,
    isBase.isEmpty]
  rfl

theorem way?_tilde (isBase : IsBase base) {steps : Text} (noMark : NoMark steps) :
    way? (base ++ .char '~' :: steps) = some ⟨base, none, some steps⟩ := by
  have isMark : isStepMark (.char '~') = true := by decide
  rw [way?, isBase.takeWhile isMark, isBase.dropWhile isMark, isBase.isEmpty]
  simp only [any_isStepMark_of_noMark noMark, Bool.false_eq_true, if_false]

theorem way?_caret (isBase : IsBase base) {digits : Text}
    (areDigits : ∀ point ∈ digits, Text.isDecimalDigit point = true) :
    way? (base ++ .char '^' :: digits) = some ⟨base, some digits, none⟩ := by
  have isMark : isStepMark (.char '^') = true := by decide
  rw [way?, isBase.takeWhile isMark, isBase.dropWhile isMark, isBase.isEmpty]
  simp only [List.takeWhile_eq_self_iff.mpr areDigits, List.dropWhile_eq_nil_iff.mpr areDigits,
    Bool.false_eq_true, if_false]

theorem way?_caret_tilde (isBase : IsBase base) {digits steps : Text}
    (areDigits : ∀ point ∈ digits, Text.isDecimalDigit point = true) (noMark : NoMark steps) :
    way? (base ++ .char '^' :: (digits ++ .char '~' :: steps)) =
      some ⟨base, some digits, some steps⟩ := by
  have isMark : isStepMark (.char '^') = true := by decide
  have noDigit : ¬Text.isDecimalDigit (.char '~') = true := by decide
  have front : (digits ++ .char '~' :: steps).takeWhile Text.isDecimalDigit = digits := by
    rw [List.takeWhile_append_of_pos areDigits, List.takeWhile_cons_of_neg noDigit, List.append_nil]
  have rest :
      (digits ++ .char '~' :: steps).dropWhile Text.isDecimalDigit = .char '~' :: steps := by
    rw [List.dropWhile_append_of_pos areDigits, List.dropWhile_cons_of_neg noDigit]
  rw [way?, isBase.takeWhile isMark, isBase.dropWhile isMark, isBase.isEmpty]
  simp only [front, rest, any_isStepMark_of_noMark noMark, Bool.false_eq_true, if_false]

end IsBase

theorem Way.steps?_of_digits (base : Text) (caret : Option Text) {digits : Text}
    (notEmpty : digits ≠ []) (areDigits : ∀ point ∈ digits, Text.isDecimalDigit point = true) :
    (Way.mk base caret (some digits)).steps? = some digits := by
  cases digits with
  | nil => exact absurd rfl notEmpty
  | cons digit digits => exact if_pos (List.all_eq_true.mpr areDigits)

theorem Way.steps?_of_noNumber (base : Text) (caret : Option Text) {other : Text}
    (noNumber : other = [] ∨ ∃ point ∈ other, Text.isDecimalDigit point = false) :
    (Way.mk base caret (some other)).steps? = none := by
  cases other with
  | nil => rfl
  | cons point rest =>
      rcases noNumber with empty | noDigit
      · cases empty
      · apply if_neg
        rw [List.all_eq_true]
        intro areDigits
        obtain ⟨other, member, isOther⟩ := noDigit
        rw [areDigits other member] at isOther
        cases isOther

/-- A reference that asks for steps is read as a way that takes them. -/
theorem exists_way_of_asks (repository : Repository) {base ref : Text} {number steps : Nat}
    (isBase : IsBase base) (asks : Asks base ref number steps) :
    ∃ way, way? ref = some way ∧ way.base = base ∧ (way.caret.isNone && way.steps?.isNone) = false ∧
      (∀ commit, repository.caretStep ref commit way.caret = repository.parent ref commit number) ∧
      ∀ commit, repository.tildeSteps ref commit way.steps? =
        repository.firstParents ref steps commit := by
  cases asks with
  | @caret digits number isNumber =>
      exact ⟨_, isBase.way?_caret isNumber.areDigits, rfl, rfl,
        caretStep_of_writesParent isNumber _, fun commit => rfl⟩
  | @tilde digits steps writes =>
      have areDigits := writes.decimal.areDigits
      have steps? := Way.steps?_of_digits base none writes.decimal.ne_nil areDigits
      refine ⟨_, isBase.way?_tilde (noMark_of_areDigits areDigits), rfl, ?_, fun commit => rfl, ?_⟩
      · rw [steps?]
        rfl
      · rw [steps?]
        exact tildeSteps_of_writes writes _
  | both isParent writes =>
      have areDigits := writes.decimal.areDigits
      refine ⟨_, isBase.way?_caret_tilde isParent.areDigits (noMark_of_areDigits areDigits), rfl,
        rfl, caretStep_of_writesParent isParent _, ?_⟩
      rw [Way.steps?_of_digits base _ writes.decimal.ne_nil areDigits]
      exact tildeSteps_of_writes writes _
  | ignored isNumber noMark noNumber =>
      refine ⟨_, isBase.way?_caret_tilde isNumber.areDigits noMark, rfl, rfl,
        caretStep_of_writesParent isNumber _, ?_⟩
      rw [Way.steps?_of_noNumber base _ noNumber]
      exact fun commit => rfl

/-! ## References with a mark -/

theorem Asks.hasMark {base ref : Text} {number steps : Nat} (asks : Asks base ref number steps) :
    HasMark ref := by
  cases asks <;> exact ⟨_, List.mem_append_right _ List.mem_cons_self, by decide⟩

theorem asName_of_mark {name : Text} (marked : HasMark name) :
    repository.asName name = .ok none := by
  obtain ⟨point, member, isMark⟩ := marked
  have isForbidden : isForbidden point = true := by
    rcases (isStepMark_iff point).mp isMark with rfl | rfl <;> decide
  have notPlain : isPlainName name = false := by
    cases name with
    | nil => rfl
    | cons first rest =>
        have found : (first :: rest).any Repository.isForbidden = true :=
          List.any_eq_true.mpr ⟨point, member, isForbidden⟩
        simp [isPlainName, found]
  rw [asName, notPlain]
  rfl

theorem mem_withoutLineEnd {text : Text} {point : CodePoint} (member : point ∈ text)
    (notEnd : point ≠ .char '\n') : point ∈ withoutLineEnd text := by
  unfold withoutLineEnd
  split
  · rename_i isLast
    rw [← List.dropLast_append_getLast? _ isLast] at member
    rcases List.mem_append.mp member with earlier | last
    · exact earlier
    · exact absurd (List.mem_singleton.mp last) notEnd
  · exact member

theorem asHash_of_mark {ref : Text} (marked : HasMark ref) :
    repository.asHash ref = .ok none := by
  obtain ⟨point, member, isMark⟩ := marked
  have notEnd : point ≠ .char '\n' := by
    rintro rfl
    exact absurd isMark (by decide)
  have notHex : Text.isHexDigit point = false := by
    rcases (isStepMark_iff point).mp isMark with rfl | rfl <;> decide
  have notHash : isHash ref = false := by
    have notAll : (withoutLineEnd ref).all Text.isHexDigit = false :=
      List.all_eq_false.mpr ⟨point, mem_withoutLineEnd member notEnd, by simp [notHex]⟩
    rw [isHash, notAll]
    rfl
  rw [asHash, notHash]
  rfl

theorem asWhole_of_mark {ref : Text} (marked : HasMark ref)
    (notHeadParent : ref ≠ "HEAD^") : repository.asWhole ref = .ok none := by
  have notHead : ref ≠ "HEAD" := by
    rintro rfl
    obtain ⟨point, member, isMark⟩ := marked
    have noMark : ∀ point ∈ Text.ofString "HEAD", isStepMark point = false := by decide
    rw [noMark point member] at isMark
    cases isMark
  have markedName (start : Text) : HasMark (start ++ ref) := by
    obtain ⟨point, member, isMark⟩ := marked
    exact ⟨point, List.mem_append_right start member, isMark⟩
  simp only [asWhole, asHead, if_neg notHead, asHeadParent, if_neg notHeadParent,
    asHash_of_mark marked, asName_of_mark marked, asName_of_mark (markedName _), Attempt.orElse]

/-! ## The resolver -/

namespace Attempt

theorem orElse_none (next : Unit → Attempt) : orElse (.ok none) next = next () :=
  rfl

theorem orElse_map_some (result : Except Failure Text) (next : Unit → Attempt) :
    orElse (result.map some) next = result.map some := by
  cases result <;> rfl

theorem orUnresolved_map_some (result : Except Failure Text) (ref : Text) :
    orUnresolved (result.map some) ref = result := by
  cases result <;> rfl

theorem orElse_eq_error_iff (first : Attempt) (next : Unit → Attempt) (failure : Failure) :
    orElse first next = .error failure ↔
      first = .error failure ∨ first = .ok none ∧ next () = .error failure := by
  unfold orElse
  split <;> simp_all

theorem orElse_eq_some_iff (first : Attempt) (next : Unit → Attempt) (commit : Text) :
    orElse first next = .ok (some commit) ↔
      first = .ok (some commit) ∨ first = .ok none ∧ next () = .ok (some commit) := by
  unfold orElse
  split <;> simp_all

end Attempt

theorem asWhole_head : repository.asWhole "HEAD" = repository.headCommit.map some := by
  simp only [asWhole, asHead, if_pos, Attempt.orElse_map_some]

theorem asWhole_headParent :
    repository.asWhole "HEAD^" =
      (repository.headCommit >>= fun commit => repository.parent "HEAD^" commit 1).map some := by
  have notHead : ("HEAD^" : Text) ≠ "HEAD" := by decide
  have rule : repository.asHeadParent "HEAD^" =
      (repository.headCommit >>= fun commit => repository.parent "HEAD^" commit 1).map some := by
    simp only [asHeadParent, if_pos]
    cases repository.headCommit <;> rfl
  simp only [asWhole, asHead, if_neg notHead, rule, Attempt.orElse_none, Attempt.orElse_map_some]

theorem resolve_of_isBase {base : Text} (isBase : IsBase base) :
    repository.resolve base = repository.resolvePlain base := by
  have declines : repository.asWay base = .ok none := by
    simp only [asWay, isBase.way?_self]
    rfl
  rw [resolve, resolvePlain, declines]
  cases repository.asWhole base with
  | error failure => rfl
  | ok found => cases found <;> rfl

theorem asWay_of_way {ref : Text} {way : Way} (isWay : way? ref = some way)
    (asksSteps : (way.caret.isNone && way.steps?.isNone) = false) :
    repository.asWay ref = (do
      let base ← repository.resolvePlain way.base
      let commit ← repository.caretStep ref base way.caret
      repository.tildeSteps ref commit way.steps?).map some := by
  simp only [asWay, isWay, asksSteps, Bool.false_eq_true, if_false]
  cases repository.resolvePlain way.base with
  | error failure => rfl
  | ok base =>
      change _ = Except.map some (repository.caretStep ref base way.caret >>= fun commit =>
        repository.tildeSteps ref commit way.steps?)
      cases stepped : repository.caretStep ref base way.caret with
      | error failure => simp only [stepped]; rfl
      | ok commit => simp only [stepped]; rfl

/-- The head's first parent is found by a rule of its own, which agrees with the rule for ways. -/
theorem resolve_headParent :
    repository.resolve "HEAD^" = (do
      let base ← repository.resolvePlain "HEAD"
      repository.parent "HEAD^" base 1) := by
  have plain : repository.resolvePlain "HEAD" = repository.headCommit := by
    rw [resolvePlain, asWhole_head, Attempt.orElse_map_some, Attempt.orUnresolved_map_some]
  rw [resolve, asWhole_headParent, Attempt.orElse_map_some, Attempt.orElse_map_some,
    Attempt.orUnresolved_map_some, plain]

theorem resolve_of_way {ref : Text} {way : Way} (marked : HasMark ref)
    (isWay : way? ref = some way) (asksSteps : (way.caret.isNone && way.steps?.isNone) = false) :
    repository.resolve ref = (do
      let base ← repository.resolvePlain way.base
      let commit ← repository.caretStep ref base way.caret
      repository.tildeSteps ref commit way.steps?) := by
  by_cases isHeadParent : ref = "HEAD^"
  · subst isHeadParent
    have isHeadWay : way? "HEAD^" = some ⟨"HEAD", some [], none⟩ := by decide
    cases isHeadWay.symm.trans isWay
    rw [resolve_headParent]
    cases repository.resolvePlain "HEAD" with
    | error failure => rfl
    | ok base =>
        change repository.parent "HEAD^" base 1 =
          (repository.parent "HEAD^" base 1 >>= fun commit => .ok commit)
        cases repository.parent "HEAD^" base 1 <;> rfl
  · rw [resolve, asWhole_of_mark marked isHeadParent, Attempt.orElse_none,
      asWay_of_way isWay asksSteps, Attempt.orElse_map_some, Attempt.orUnresolved_map_some]

theorem resolve_of_asks {base ref : Text} {number steps : Nat} (isBase : IsBase base)
    (asks : Asks base ref number steps) :
    repository.resolve ref = (do
      let commit ← repository.resolve base
      repository.parent ref commit number >>= repository.firstParents ref steps) := by
  obtain ⟨way, isWay, rfl, asksSteps, takesCaret, takesTilde⟩ :=
    exists_way_of_asks repository isBase asks
  rw [resolve_of_isBase isBase, resolve_of_way asks.hasMark isWay asksSteps]
  simp only [takesCaret, takesTilde]

/-! ## Results of a base -/

/-- How a reference without steps fails. Only the head has a failure that does not name it. -/
inductive BaseFailure (repository : Repository) (base : Text) : Failure → Prop
  | unresolved (reason : Option Text) : BaseFailure repository base (.unresolved base reason)
  | notCommit {name : Text} {object : RepositoryObject} (isHead : base = "HEAD")
      (leads : repository.refObject? "HEAD" = some (name, object))
      (isOther : ∀ parents, object ≠ .commit parents) :
      BaseFailure repository base (.notCommit name object)

theorem headCommit_eq_error {failure : Failure} (failed : repository.headCommit = .error failure) :
    repository.BaseFailure "HEAD" failure := by
  unfold headCommit at failed
  split at failed
  · cases failed
  · rename_i name object isOther leads
    cases failed
    exact .notCommit rfl leads isOther
  · cases failed
    exact .unresolved _

theorem asHash_ne_error (ref : Text) (failure : Failure) :
    repository.asHash ref ≠ .error failure := by
  unfold asHash
  split
  · split <;> nofun
  · nofun

theorem asName_ne_error (name : Text) (failure : Failure) :
    repository.asName name ≠ .error failure := by
  unfold asName
  split <;> nofun

theorem asExpression_ne_error (ref : Text) (failure : Failure) :
    repository.asExpression ref ≠ .error failure := by
  unfold asExpression
  split
  · nofun
  · split <;> nofun

theorem IsBase.ne_headParent {base : Text} (isBase : IsBase base) : base ≠ "HEAD^" := by
  rintro rfl
  exact absurd (isBase.noMark (.char '^') (by decide)) (by decide)

/-- Only the rule for the head fails on a text without steps. -/
theorem asWhole_eq_error {base : Text} {failure : Failure} (isBase : IsBase base)
    (failed : repository.asWhole base = .error failure) : repository.BaseFailure base failure := by
  simp only [asWhole, Attempt.orElse_eq_error_iff, asHash_ne_error, asName_ne_error, and_false,
    or_false, asHeadParent, if_neg isBase.ne_headParent, reduceCtorEq] at failed
  unfold asHead at failed
  split at failed
  · rename_i isHead
    rw [isHead]
    apply headCommit_eq_error
    cases head : repository.headCommit with
    | error refused =>
        rw [head] at failed
        cases failed
        rfl
    | ok commit =>
        rw [head] at failed
        cases failed
  · cases failed

theorem resolve_eq_error {base : Text} {failure : Failure} (isBase : IsBase base)
    (failed : repository.resolve base = .error failure) : repository.BaseFailure base failure := by
  rw [resolve_of_isBase isBase, resolvePlain] at failed
  cases attempted : (repository.asWhole base).orElse fun _ => repository.asExpression base with
  | error refused =>
      rw [attempted] at failed
      cases failed
      rcases (Attempt.orElse_eq_error_iff ..).mp attempted with inWhole | ⟨-, inExpression⟩
      · exact asWhole_eq_error isBase inWhole
      · exact absurd inExpression (asExpression_ne_error _ _)
  | ok found =>
      rw [attempted] at failed
      cases found with
      | some commit => cases failed
      | none =>
          cases failed
          exact .unresolved none

/-! ## Commits of a base -/

theorem isCommit_of_refObject? {name commit : Text} {parents : List Text}
    (found : repository.refObject? name = some (commit, .commit parents)) :
    repository.isCommit commit = true := by
  unfold refObject? at found
  split at found
  · unfold peeled? at found
    split at found
    · obtain ⟨object, isObject, same⟩ := Option.map_eq_some_iff.mp found
      cases same
      exact isCommit_of_object? isObject
    · obtain ⟨object, isObject, same⟩ := Option.map_eq_some_iff.mp found
      cases same
      exact isCommit_of_object? isObject
  · cases found

theorem isCommit_of_refCommit? {name commit : Text}
    (found : repository.refCommit? name = some commit) : repository.isCommit commit = true := by
  unfold refCommit? at found
  split at found
  · rename_i isObject
    cases found
    exact isCommit_of_refObject? isObject
  · cases found

theorem isCommit_of_headCommit {commit : Text} (found : repository.headCommit = .ok commit) :
    repository.isCommit commit = true := by
  unfold headCommit at found
  split at found
  · rename_i isObject
    cases found
    exact isCommit_of_refObject? isObject
  · cases found
  · cases found

theorem isCommit_of_isReadableCommit {name : Text}
    (readable : repository.isReadableCommit name = true) : repository.isCommit name = true :=
  (Bool.and_eq_true_iff.mp readable).2

theorem isCommit_of_asHash {ref commit : Text} (found : repository.asHash ref = .ok (some commit)) :
    repository.isCommit commit = true := by
  unfold asHash at found
  split at found
  · split at found
    · rename_i only
      cases found
      have member : commit ∈ repository.commitsStartingWith (Text.asciiLower ref) := by
        rw [only]
        exact List.mem_singleton_self commit
      have starts := (List.mem_filter.mp member).2
      exact isCommit_of_isReadableCommit (Bool.and_eq_true_iff.mp starts).2
    · cases found
  · cases found

theorem isCommit_of_asName {name commit : Text}
    (found : repository.asName name = .ok (some commit)) : repository.isCommit commit = true := by
  unfold asName at found
  split at found
  · exact isCommit_of_refCommit? (Except.ok.inj found)
  · cases found

theorem isCommit_of_asExpression {ref commit : Text}
    (found : repository.asExpression ref = .ok (some commit)) :
    repository.isCommit commit = true := by
  unfold asExpression at found
  split at found
  · cases found
  · split at found
    · cases found
    · have given := Except.ok.inj found
      split at given
      · rename_i readable
        cases given
        exact isCommit_of_isReadableCommit readable
      · cases given

theorem isCommit_of_asWhole {base commit : Text} (notHeadParent : base ≠ "HEAD^")
    (found : repository.asWhole base = .ok (some commit)) : repository.isCommit commit = true := by
  simp only [asWhole, Attempt.orElse_eq_some_iff] at found
  rcases found with (((head | ⟨-, headParent⟩) | ⟨-, hash⟩) | ⟨-, name⟩) | ⟨-, branch | ⟨-, tag⟩⟩
  · unfold asHead at head
    split at head
    · cases isHead : repository.headCommit with
      | error failure =>
          rw [isHead] at head
          cases head
      | ok found =>
          rw [isHead] at head
          cases head
          exact isCommit_of_headCommit isHead
    · cases head
  · rw [asHeadParent, if_neg notHeadParent] at headParent
    cases headParent
  · exact isCommit_of_asHash hash
  · exact isCommit_of_asName name
  · exact isCommit_of_asName branch
  · exact isCommit_of_asName tag

/-- What a reference without steps names is a commit of the repository. -/
theorem isCommit_of_resolve {base commit : Text} (isBase : IsBase base)
    (found : repository.resolve base = .ok commit) : repository.isCommit commit = true := by
  rw [resolve_of_isBase isBase, resolvePlain] at found
  cases attempted : (repository.asWhole base).orElse fun _ => repository.asExpression base with
  | error refused =>
      rw [attempted] at found
      cases found
  | ok result =>
      rw [attempted] at found
      cases result with
      | none => cases found
      | some result =>
          cases found
          rcases (Attempt.orElse_eq_some_iff ..).mp attempted with whole | ⟨-, expression⟩
          · exact isCommit_of_asWhole isBase.ne_headParent whole
          · exact isCommit_of_asExpression expression

/-! ## What a way means -/

theorem resolve_eq_iff_leads (intact : repository.Intact) {base ref commit : Text}
    {number steps : Nat} (isBase : IsBase base) (asks : Asks base ref number steps)
    (isCommit : repository.resolve base = .ok commit) (outcome : Except Failure Text) :
    repository.resolve ref = outcome ↔ repository.Leads ref commit number steps outcome := by
  rw [resolve_of_asks isBase asks, isCommit]
  exact walk_eq_iff_leads intact (isCommit_of_resolve isBase isCommit) ..

theorem resolve_tilde {base digits : Text} {steps : Nat} (isBase : IsBase base)
    (writes : Writes digits steps) :
    repository.resolve (base ++ .char '~' :: digits) =
      repository.resolve base >>= repository.firstParents (base ++ .char '~' :: digits) steps := by
  rw [resolve_of_asks isBase (.tilde writes)]
  cases repository.resolve base <;> rfl

section

variable {base short long commit : Text} {first second : Nat}

theorem resolve_tilde_add (intact : repository.Intact) (isBase : IsBase base)
    (isShort : Writes short first) (isLong : Writes long (first + second))
    (isCommit : repository.resolve (base ++ .char '~' :: short) = .ok commit)
    (outcome : Except Failure Text) :
    repository.resolve (base ++ .char '~' :: long) = outcome ↔
      repository.Leads (base ++ .char '~' :: long) commit 0 second outcome := by
  rw [resolve_tilde isBase isShort] at isCommit
  rw [resolve_tilde isBase isLong]
  cases start : repository.resolve base with
  | error failure =>
      rw [start] at isCommit
      cases isCommit
  | ok found =>
      rw [start] at isCommit
      have line := (firstParents_eq_ok_iff ..).mp isCommit
      have lineCommit := intact.isCommit_of_firstLine line (isCommit_of_resolve isBase start)
      rw [← walk_eq_iff_leads intact lineCommit]
      change repository.firstParents _ (first + second) found = outcome ↔ _
      rw [firstParents_add, (firstParents_eq_ok_iff (base ++ .char '~' :: long) ..).mpr line]
      rfl

theorem resolve_tilde_add_of_noParent (isBase : IsBase base) (isShort : Writes short first)
    (isLong : Writes long (first + second)) {number : Int}
    (failed : repository.resolve (base ++ .char '~' :: short) =
      .error (.noParent (base ++ .char '~' :: short) commit number)) :
    repository.resolve (base ++ .char '~' :: long) =
      .error (.noParent (base ++ .char '~' :: long) commit number) := by
  rw [resolve_tilde isBase isShort] at failed
  rw [resolve_tilde isBase isLong]
  cases start : repository.resolve base with
  | error failure =>
      rw [start] at failed
      cases failed
      cases resolve_eq_error isBase start
  | ok found =>
      rw [start] at failed
      obtain ⟨taken, root, isEarly, line, isRoot, same⟩ := (firstParents_eq_error_iff ..).mp failed
      cases same
      exact (firstParents_eq_error_iff ..).mpr
        ⟨taken, _, Nat.lt_add_right second isEarly, line, isRoot, rfl⟩

end

/-- However many steps a tilde asks for, a walk ends at a commit without parents. -/
theorem exists_root_of_tilde (intact : repository.Intact) (acyclic : repository.Acyclic)
    {base commit : Text} (isBase : IsBase base)
    (isCommit : repository.resolve base = .ok commit) :
    ∃ most root, most ≤ repository.objects.length ∧ repository.FirstLine commit most root ∧
      repository.isCommit root = true ∧ repository.parents root =
        [] ∧ ∀ digits steps, Writes digits steps →
          (steps ≤ most → ∃ found, repository.resolve (base ++ .char '~' :: digits) = .ok found) ∧
        (most < steps → repository.resolve (base ++ .char '~' :: digits) =
          .error (.noParent (base ++ .char '~' :: digits) root 1)) := by
  obtain ⟨most, root, bounded, line, isRoot⟩ := exists_root acyclic commit
  have rootCommit := intact.isCommit_of_firstLine line (isCommit_of_resolve isBase isCommit)
  refine ⟨most, root, bounded, line, rootCommit, isRoot, ?_⟩
  intro digits steps writes
  rw [resolve_tilde isBase writes, isCommit]
  constructor
  · intro atMost
    obtain ⟨found, part⟩ := line.exists_middle atMost
    exact ⟨found, (firstParents_eq_ok_iff ..).mpr part⟩
  · intro beyond
    exact (firstParents_eq_error_iff ..).mpr ⟨most, root, beyond, line, isRoot, rfl⟩

/-- A reference that asks for a parent, for steps to first parents or for both fails as its base
does, or names the end of the walk from the commit of its base. Steps add up, and in a repository
without circles a walk stops for any number of them. The repository has the parents of its commits:
in a shallow clone a walk may fail at a commit that is not there. -/
theorem resolve_ways (repository : Repository) (intact : repository.Intact) {base : Text}
    (isBase : IsBase base) :
    (∀ ref number steps, Asks base ref number steps →
      (∀ failure, repository.resolve base = .error failure →
        repository.resolve ref = .error failure ∧ repository.BaseFailure base failure) ∧
      (∀ commit, repository.resolve base = .ok commit → ∀ outcome,
        repository.resolve ref = outcome ↔ repository.Leads ref commit number steps outcome)) ∧
    (∀ short long first second, Writes short first → Writes long (first + second) →
      (∀ commit, repository.resolve (base ++ .char '~' :: short) = .ok commit → ∀ outcome,
        repository.resolve (base ++ .char '~' :: long) = outcome ↔
          repository.Leads (base ++ .char '~' :: long) commit 0 second outcome) ∧
      (∀ commit number, repository.resolve (base ++ .char '~' :: short) =
          .error (.noParent (base ++ .char '~' :: short) commit number) →
        repository.resolve (base ++ .char '~' :: long) =
          .error (.noParent (base ++ .char '~' :: long) commit number))) ∧
    (repository.Acyclic → ∀ commit, repository.resolve base = .ok commit →
      ∃ most root, most ≤ repository.objects.length ∧ repository.FirstLine commit most root ∧
        repository.isCommit root = true ∧ repository.parents root = [] ∧
        ∀ digits steps, Writes digits steps →
          (steps ≤ most →
            ∃ found, repository.resolve (base ++ .char '~' :: digits) = .ok found) ∧
          (most < steps → repository.resolve (base ++ .char '~' :: digits) =
            .error (.noParent (base ++ .char '~' :: digits) root 1))) := by
  refine ⟨?_, ?_, ?_⟩
  · intro ref number steps asks
    constructor
    · intro failure failed
      refine ⟨?_, resolve_eq_error isBase failed⟩
      rw [resolve_of_asks isBase asks, failed]
      rfl
    · intro commit isCommit outcome
      exact resolve_eq_iff_leads intact isBase asks isCommit outcome
  · intro short long first second isShort isLong
    constructor
    · intro commit isCommit outcome
      exact resolve_tilde_add intact isBase isShort isLong isCommit outcome
    · intro commit number failed
      exact resolve_tilde_add_of_noParent isBase isShort isLong failed
  · intro acyclic commit isCommit
    exact exists_root_of_tilde intact acyclic isBase isCommit

/-- A merge of three commits over a common root. -/
def octopus : Repository :=
  { empty with
    objects :=
      [("m", .commit ["a", "b", "c"]), ("a", .commit ["r"]), ("b", .commit ["a"]),
        ("c", .commit ["r"]), ("r", .commit [])]
    refs := [("refs/heads/main", .object "m")] }

theorem intact_octopus : octopus.Intact := by
  decide

theorem acyclic_octopus : octopus.Acyclic :=
  acyclic_of_rank (fun name => (["r", "c", "a", "b", "m"] : List Text).idxOf name) (by decide)

theorem isBase_main : IsBase "main" :=
  ⟨by decide, by unfold NoMark; decide⟩

theorem writes_digit {point : CodePoint} {value : Nat}
    (isDigit : Text.digitValue? point = some value) : Writes [point] value :=
  ⟨.one isDigit, Nat.le_of_ble_eq_true rfl⟩

theorem resolve_main : octopus.resolve "main" = .ok (Text.ofString "m") := by
  decide

/-- The third parent and one step further; a fourth parent is missing, and so is a step behind the
root. -/
theorem resolve_ways_octopus :
    IsBase "main" ∧ octopus.Intact ∧ octopus.Acyclic ∧
      octopus.resolve "main" = .ok (Text.ofString "m") ∧
      octopus.resolve "main^3~1" = .ok (Text.ofString "r") ∧
      octopus.resolve "main^4~1" = .error (.noParent "main^4~1" "m" 4) ∧
      octopus.resolve "main^2~7" = .error (.noParent "main^2~7" "r" 1) ∧
      ∃ most root, most ≤ octopus.objects.length ∧ octopus.FirstLine "m" most root ∧
        octopus.parents root = [] := by
  obtain ⟨meaning, -, stops⟩ := resolve_ways octopus intact_octopus isBase_main
  have asks (parent steps : CodePoint) (number count : Nat)
      (isParent : Text.digitValue? parent = some number)
      (isCount : Text.digitValue? steps = some count) :
      Asks "main" ("main" ++ .char '^' :: ([parent] ++ .char '~' :: [steps])) number count :=
    .both (.inr (writes_digit isParent)) (writes_digit isCount)
  refine ⟨isBase_main, intact_octopus, acyclic_octopus, resolve_main, ?_, ?_, ?_, ?_⟩
  · have fromMain := (meaning _ _ _ (asks (.char '3') (.char '1') 3 1 (by decide) (by decide))).2
    apply (fromMain _ resolve_main _).mpr
    have isParent : octopus.IsParent "m" 3 "c" := by decide
    have behind : octopus.parents "c" = ["r"] := by decide
    exact .arrives isParent (.step behind .here) (by decide)
  · have fromMain := (meaning _ _ _ (asks (.char '4') (.char '1') 4 1 (by decide) (by decide))).2
    apply (fromMain _ resolve_main _).mpr
    have tooFew : (octopus.parents "m").length < 4 := by decide
    exact .lacksParent (by decide) tooFew
  · have fromMain := (meaning _ _ _ (asks (.char '2') (.char '7') 2 7 (by decide) (by decide))).2
    apply (fromMain _ resolve_main _).mpr
    have isParent : octopus.IsParent "m" 2 "b" := by decide
    have behind : octopus.parents "b" = ["a"] := by decide
    have further : octopus.parents "a" = ["r"] := by decide
    have isRoot : octopus.parents "r" = [] := by decide
    exact .endsEarly isParent (by decide) (.step behind (.step further .here)) (by decide) isRoot
  · obtain ⟨most, root, bounded, line, -, isRoot, -⟩ := stops acyclic_octopus _ resolve_main
    exact ⟨most, root, bounded, line, isRoot⟩

end ChangeImpact.Repository
