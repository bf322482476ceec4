import ChangeImpact.Proofs.Channel.Collecting
/-!
# What a scope leaves behind

A scope whose body ends leaves nothing at the path of the pipe, no analyzer and the handlers from
before, if the first signal came in the body or none comes, and if no handler raises something as
soon as it is back. A first signal that comes while the scope is being left is harmless as long as
the analyzer is being stopped; after that it keeps the rest of the cleanup from happening.
-/
set_option autoImplicit false

namespace ChangeImpact.Channel

open Program

/-- Nothing is at the path of the pipe, and signals go where they went before the scope. -/
structure Cleaned (earlier : Signal → EarlierHandler) (state : State) : Prop where
  noPipe : state.node = .absent
  restored : ∀ signal, state.handlers signal = .earlier (earlier signal)

def PipeNode.isReplaceable : PipeNode → Bool
  | absent | file | fifo => true
  | directory | noParent | underFile | nameTooLong => false

variable {earlier : Signal → EarlierHandler} {state : State} {schedule : Schedule}

/-! ## Entering -/

def State.entered (state : State) : State :=
  { state with
    node := .fifo
    handlers := fun _ => .scope
    saved := [(.interrupt, state.handlers .interrupt), (.terminate, state.handlers .terminate)] }

theorem inside_entered (path : Text) (node : PipeNode) (earlier : Signal → EarlierHandler) :
    Inside earlier (State.start path node earlier).entered := by
  refine ⟨⟨fun _ => rfl, ?_, .inl rfl⟩, nofun, rfl⟩
  intro signal
  cases signal <;> rfl

theorem trapped_eq_entered (path : Text) (node : PipeNode) (earlier : Signal → EarlierHandler) :
    ((Step.trap .terminate).perform
        ((Step.trap .interrupt).perform (.start path .fifo earlier)).1).1 =
      (State.start path node earlier).entered := by
  have handlers : (fun signal : Signal => if signal = .terminate then Handler.scope else
      if signal = .interrupt then Handler.scope else .earlier (earlier signal)) =
        fun _ => .scope := by
    funext signal
    cases signal <;> rfl
  rw [State.entered, ← handlers]
  rfl

theorem enter_of_quiet {path : Text} {node : PipeNode} (replaceable : node.isReplaceable = true)
    (quiet : ∀ signals ∈ schedule.take 4, signals = []) :
    enter.run (.start path node earlier) schedule =
      ⟨(State.start path node earlier).entered, schedule.drop 4, .completed⟩ := by
  have calm : Calm (.start path node earlier) schedule (2 + 2) := .inr quiet
  have calmLater : Calm (.start path .fifo earlier) (schedule.drop 2) 2 := calm.late Iff.rfl
  have made : (ofSteps [.removeStale, .makePipe]).run (.start path node earlier) schedule =
      ⟨.start path .fifo earlier, schedule.drop 2, .completed⟩ := by
    cases node with
    | absent | file | fifo =>
        exact run_ofSteps_of_calm _ ⟨rfl, Iff.rfl, rfl, Iff.rfl, trivial⟩ calm.early
    | directory | noParent | underFile | nameTooLong => cases replaceable
  have uninterrupted {first second : State} (isFirst : first.interrupted = false)
      (isSecond : second.interrupted = false) : first.Deaf ↔ second.Deaf :=
    iff_of_false (State.not_deaf isFirst) (State.not_deaf isSecond)
  have trapped := run_ofSteps_of_calm [.trap .interrupt, .trap .terminate]
    ⟨rfl, uninterrupted rfl rfl, rfl, uninterrupted rfl rfl, trivial⟩ calmLater
  unfold enter
  rw [run_andThen_of_completed made, run_onFailure_of_completed trapped, ← trapped_eq_entered,
    List.drop_drop]
  rfl

def PipeNode.refusal? (path : Text) : PipeNode → Option Failure
  | absent | file | fifo => none
  | directory => some (Step.removeFailed path (isADirectory path))
  | underFile => some (Step.removeFailed path (notADirectory path))
  | nameTooLong => some (Step.removeFailed path (ChangeImpact.nameTooLong path))
  | noParent => some (Step.makeFailed path)

theorem PipeNode.exists_refusal (path : Text) {node : PipeNode}
    (refused : node.isReplaceable = false) :
    ∃ reason, node.refusal? path = some (.pipe path reason) := by
  cases node with
  | absent | file | fifo => cases refused
  | directory | underFile | nameTooLong | noParent => exact ⟨_, rfl⟩

/-- What some signals raise that go to the handlers from before the scope. -/
def earlierRaise? (earlier : Signal → EarlierHandler) (signals : List Signal) : Option Failure :=
  signals.findSome? fun signal => (earlier signal).raised

/-- Before the traps a step is taken, unless a handler raises something. Then nothing changes. -/
theorem run_step_start (path : Text) (node : PipeNode) (earlier : Signal → EarlierHandler)
    (schedule : Schedule) (step : Step) (rest : Program) :
    (earlierRaise? earlier schedule.next = none ∧
        ∀ signal ∈ schedule.next, (State.start path node earlier).raised? signal = none) ∨
      ∃ failure, earlierRaise? earlier schedule.next = some failure ∧
        (andThen (single step) rest).run (.start path node earlier) schedule =
          ⟨.start path node earlier, schedule.tail, .failed failure⟩ := by
  cases raises : earlierRaise? earlier schedule.next with
  | none => exact .inl ⟨rfl, List.findSome?_eq_none_iff.mp raises⟩
  | some failure =>
      have raises :
          schedule.next.findSome? (State.start path node earlier).raised? = some failure :=
        raises
      obtain ⟨signal, ran⟩ := run_step_of_raised step rest raises
      exact .inr ⟨failure, rfl, ran⟩

/-- A path that cannot be replaced by a pipe is left as it is, whatever signals arrive. -/
theorem enter_of_refusal {path : Text} {node : PipeNode} {failure : Failure}
    (refuses : node.refusal? path = some failure) (earlier : Signal → EarlierHandler)
    (schedule : Schedule) :
    (enter.run (.start path node earlier) schedule).state = .start path node earlier ∧
      (enter.run (.start path node earlier) schedule).outcome =
        .failed ((earlierRaise? earlier schedule.next).getD
          (if node = .noParent then (earlierRaise? earlier (schedule.before 1)).getD failure
          else failure)) := by
  have fails {result : Result} {raised : Failure}
      (failed :
        (ofSteps [.removeStale, .makePipe]).run (.start path node earlier) schedule = result)
      (isFailed : result.outcome = .failed raised) :
      enter.run (.start path node earlier) schedule = result := by
    unfold enter
    rw [run_andThen_of_failed ((congrArg Result.outcome failed).trans isFailed), failed]
  rcases run_step_start path node earlier schedule .removeStale
    (andThen (single .makePipe) done) with ⟨isNone, ignored⟩ | ⟨raised, raises, ran⟩
  · rw [isNone]
    cases node with
    | absent | file | fifo => cases refuses
    | directory | underFile | nameTooLong =>
        cases refuses
        rw [fails (run_step_of_fails ignored rfl) rfl]
        exact ⟨rfl, rfl⟩
    | noParent =>
        cases refuses
        have first : (ofSteps [.removeStale, .makePipe]).run (.start path .noParent earlier)
            schedule = _ := run_step_of_ignored ignored rfl
        rcases run_step_start path .noParent earlier schedule.tail .makePipe done with
          ⟨isNone, ignored⟩ | ⟨raised, raises, ran⟩
        · rw [Schedule.next_tail] at isNone
          rw [isNone, fails (first.trans (run_step_of_fails ignored rfl)) rfl]
          exact ⟨rfl, rfl⟩
        · rw [Schedule.next_tail] at raises
          rw [raises, fails (first.trans ran) rfl]
          exact ⟨rfl, rfl⟩
  · rw [raises, fails ran rfl]
    exact ⟨rfl, rfl⟩

/-! ## Stopping the analyzer -/

def State.stopped (state : State) : State :=
  { state with
    held := false
    stopping := state.held
    child := if state.held && state.child = .running then .ended else state.child
    errorsOpen := false }

theorem Inside.stopped_not_running (inside : Inside earlier state) :
    state.stopped.child ≠ .running := by
  by_cases running : state.child = .running
  · simp [State.stopped, running, inside.held running]
  · simp [State.stopped, running]

theorem stop_of_calm (calm : Calm state schedule 4) :
    stop.run state schedule = ⟨state.stopped, schedule.drop 4, .completed⟩ := by
  let released : State := { state with held := false, stopping := state.held }
  let ended : State := { state.stopped with errorsOpen := state.errorsOpen }
  have calmReleased : Calm released schedule.tail (2 + 1) := calm.tail Iff.rfl
  have calmEnded : Calm ended (schedule.tail.drop 2) 1 := calmReleased.late Iff.rfl
  have terminated : (ofSteps [.terminateChild, .awaitChild]).run released schedule.tail =
      ⟨ended, schedule.tail.drop 2, .completed⟩ :=
    run_ofSteps_of_calm _ ⟨rfl, Iff.rfl, rfl, Iff.rfl, trivial⟩ calmReleased.early
  have closed : (single .closeErrors).run ended (schedule.tail.drop 2) =
      ⟨state.stopped, schedule.drop 4, .completed⟩ := by
    rw [run_single, runStep_of_ignored calmEnded.ignored, List.drop_tail, List.tail_drop]
    rfl
  have same : (Step.releaseChild.perform state).1 = released := rfl
  rw [stop, run_step_of_ignored calm.ignored rfl, same,
    run_ensuring_of_ended (by simp [terminated]), terminated]
  simp only [closed]
  rfl

/-- The run was ended by a first signal, and the scope is as it was entered. -/
structure Interrupts (earlier : Signal → EarlierHandler) (result : Result) : Prop where
  entered : Entered earlier result.state
  interrupted : result.state.interrupted = true
  raised : ∃ signal : Signal, result.outcome = .failed (.interrupted signal.number)

theorem Entered.deaf (entered : Entered earlier state) (interrupted : state.interrupted = true) :
    state.Deaf :=
  ⟨interrupted, entered.trapped⟩

theorem Interrupts.deaf {result : Result} (interrupts : Interrupts earlier result) :
    result.state.Deaf :=
  interrupts.entered.deaf interrupts.interrupted

theorem Interrupts.andThen {first second : Program}
    (interrupts : Interrupts earlier (first.run state schedule)) :
    Interrupts earlier ((andThen first second).run state schedule) := by
  obtain ⟨signal, raised⟩ := interrupts.raised
  rw [run_andThen_of_failed raised]
  exact interrupts

theorem Entered.calm_of_ignored (entered : Entered earlier state)
    (ignored : ∀ signal ∈ schedule.next, state.raised? signal = none) :
    Calm state schedule 1 := by
  cases interrupted : state.interrupted with
  | true => exact .inl (entered.deaf interrupted)
  | false =>
      right
      intro signals member
      cases schedule with
      | nil => cases member
      | cons first rest =>
          rw [List.mem_singleton.mp member]
          apply List.eq_nil_iff_forall_not_mem.mpr
          intro signal arrives
          have raises := State.raised?_of_scope (entered.trapped signal) interrupted
          cases raises.symm.trans (ignored signal arrives)

theorem Entered.interrupts (entered : Entered earlier state) (uncalm : ¬Calm state schedule 1)
    (step : Step) : Interrupts earlier ((single step).run state schedule) := by
  rw [run_single]
  rcases runStep_cases state schedule step with
    ⟨ignored, -⟩ | ⟨signal, -, failure, isRaised, -, same⟩
  · exact absurd (entered.calm_of_ignored ignored) uncalm
  · obtain ⟨-, rfl, noted⟩ := entered.raised isRaised
    rw [same, noted]
    exact ⟨entered.same rfl rfl rfl, rfl, signal, rfl⟩

/-- A step that cannot fail and leaves the scope as it was entered. -/
def Step.IsQuiet (step : Step) : Prop :=
  ∀ state, (step.perform state).2 = none ∧
    (step.perform state).1.interrupted = state.interrupted ∧
    (step.perform state).1.handlers = state.handlers ∧
    (step.perform state).1.saved = state.saved ∧ (step.perform state).1.node = state.node

theorem Step.IsQuiet.deaf_iff {step : Step} (isQuiet : step.IsQuiet) (state : State) :
    (step.perform state).1.Deaf ↔ state.Deaf := by
  obtain ⟨-, keeps, handlers, -, -⟩ := isQuiet state
  rw [State.Deaf, State.Deaf, keeps, handlers]

theorem interrupts_ofSteps {steps : List Step} (isQuiet : ∀ step ∈ steps, step.IsQuiet)
    (entered : Entered earlier state) (uncalm : ¬Calm state schedule steps.length) :
    Interrupts earlier ((ofSteps steps).run state schedule) := by
  induction steps generalizing state schedule with
  | nil => exact absurd (.inr (by simp)) uncalm
  | cons step rest ih =>
      have split : ofSteps (step :: rest) = andThen (single step) (ofSteps rest) := rfl
      rw [split]
      by_cases calm : Calm state schedule 1
      · have stepQuiet := isQuiet step List.mem_cons_self
        obtain ⟨succeeds, keeps, handlers, saved, node⟩ := stepQuiet state
        rw [run_step_of_ignored calm.ignored succeeds]
        apply ih
        · intro other member
          exact isQuiet other (List.mem_cons_of_mem step member)
        · exact entered.same handlers saved node
        · intro calmLater
          apply uncalm
          rw [List.length_cons, Nat.add_comm]
          exact calm.append (stepQuiet.deaf_iff state) (by rwa [List.drop_one])
      · exact (entered.interrupts calm step).andThen

theorem Interrupts.ensuring {body : Program} {step : Step}
    (interrupts : Interrupts earlier (body.run state schedule)) (isQuiet : step.IsQuiet) :
    Interrupts earlier ((ensuring body (single step)).run state schedule) := by
  obtain ⟨signal, raised⟩ := interrupts.raised
  obtain ⟨succeeds, keeps, handlers, saved, node⟩ := isQuiet (body.run state schedule).state
  have ignored : ∀ other ∈ (body.run state schedule).schedule.next,
      (body.run state schedule).state.raised? other = none :=
    fun other _ => interrupts.deaf.raised? other
  rw [run_ensuring_of_ended (by simp [raised]), run_single, runStep_of_ignored ignored, succeeds,
    raised]
  exact ⟨interrupts.entered.same handlers saved node, keeps.trans interrupts.interrupted, signal,
    rfl⟩

theorem interrupts_cleanup {body cleanup : Program} {next : State} {later : Schedule}
    (ran : body.run state schedule = ⟨next, later, .completed⟩)
    (interrupts : Interrupts earlier (cleanup.run next later)) :
    Interrupts earlier ((ensuring body cleanup).run state schedule) := by
  obtain ⟨signal, raised⟩ := interrupts.raised
  rw [run_ensuring_of_ended (by simp [ran]), ran]
  refine ⟨interrupts.entered, interrupts.interrupted, signal, ?_⟩
  simp only [raised]
  rfl

/-- A first signal ends the stopping, and leaves the scope as it was entered. -/
theorem interrupts_stop (entered : Entered earlier state) (uncalm : ¬Calm state schedule 4) :
    Interrupts earlier (stop.run state schedule) := by
  rw [stop]
  -- The first signal comes before the analyzer is released, while it is ended, or before its errors
  -- are closed.
  by_cases calm : Calm state schedule 1
  · let released : State := { state with held := false, stopping := state.held }
    have same : (Step.releaseChild.perform state).1 = released := rfl
    have uncalmLater : ¬Calm released schedule.tail (2 + 1) := by
      intro calmLater
      rw [← List.drop_one] at calmLater
      have calmAll : Calm state schedule (1 + (2 + 1)) := calm.append Iff.rfl calmLater
      exact uncalm calmAll
    have enteredLater : Entered earlier released := entered.same rfl rfl rfl
    rw [run_step_of_ignored calm.ignored rfl, same]
    by_cases calmEarly : Calm released schedule.tail 2
    · let ended : State := { state.stopped with errorsOpen := state.errorsOpen }
      have terminated : (ofSteps [.terminateChild, .awaitChild]).run released schedule.tail =
          ⟨ended, schedule.tail.drop 2, .completed⟩ :=
        run_ofSteps_of_calm _ ⟨rfl, Iff.rfl, rfl, Iff.rfl, trivial⟩ calmEarly
      have enteredLast : Entered earlier ended := entered.same rfl rfl rfl
      apply interrupts_cleanup terminated
      apply enteredLast.interrupts
      intro calmEnded
      exact uncalmLater (calmEarly.append Iff.rfl calmEnded)
    · apply Interrupts.ensuring
      · apply interrupts_ofSteps _ enteredLater calmEarly
        intro step member
        simp only [List.mem_cons, List.not_mem_nil, or_false] at member
        rcases member with rfl | rfl <;> exact fun _ => ⟨rfl, rfl, rfl, rfl, rfl⟩
      · intro ended
        exact ⟨rfl, rfl, rfl, rfl, rfl⟩
  · exact (entered.interrupts calm .releaseChild).andThen

/-! ## Removing and restoring -/

def clearing : Program :=
  ofSteps [.removePipe, .restore .interrupt, .restore .terminate, .forgetHandlers]

def State.unpiped (state : State) : State :=
  { state with node := .absent }

def State.halfRestored (earlier : Signal → EarlierHandler) (state : State) : State :=
  state.unpiped.handle .interrupt (.earlier (earlier .interrupt))

def State.restored (earlier : Signal → EarlierHandler) (state : State) : State :=
  { state.unpiped with handlers := fun signal => .earlier (earlier signal) }

theorem Entered.perform_removePipe (entered : Entered earlier state) :
    Step.removePipe.perform state = (state.unpiped, none) := by
  rcases entered.pipe with isFifo | isAbsent
  · rw [Step.perform_removePipe, isFifo]
    rfl
  · have same : state.unpiped = state := by rw [State.unpiped, ← isAbsent]
    rw [same]
    rw [Step.perform_removePipe, isAbsent]

theorem perform_restore {signal : Signal} {handler : Handler}
    (saved : state.saved? signal = some handler) :
    (Step.restore signal).perform state = (state.handle signal handler, none) := by
  rw [Step.perform_restore, saved]

theorem Entered.perform_restore_interrupt (entered : Entered earlier state) :
    (Step.restore .interrupt).perform state.unpiped = (state.halfRestored earlier, none) :=
  perform_restore (entered.saved .interrupt)

theorem Entered.perform_restore_terminate (entered : Entered earlier state) :
    (Step.restore .terminate).perform (state.halfRestored earlier) =
      (state.restored earlier, none) := by
  have handlers : (fun signal : Signal => if signal = .terminate then
      Handler.earlier (earlier .terminate) else (state.halfRestored earlier).handlers signal) =
        fun signal => .earlier (earlier signal) := by
    funext signal
    cases signal <;> rfl
  have saved :
      (state.halfRestored earlier).saved? .terminate = some (.earlier (earlier .terminate)) :=
    entered.saved .terminate
  rw [perform_restore saved, State.restored, ← handlers]
  rfl

theorem clearing_eq :
    clearing = andThen (single .removePipe) (andThen (single (.restore .interrupt))
    (andThen (single (.restore .terminate)) (andThen (single .forgetHandlers) done))) := rfl

/-- Between the two handlers an interrupt is for its own again, and the scope still takes the other
signal. -/
theorem Entered.ignored_halfRestored_iff (entered : Entered earlier state) (signals : List Signal) :
    (∀ signal ∈ signals, (state.halfRestored earlier).raised? signal = none) ↔
      (.interrupt ∈ signals → (earlier .interrupt).raised = none) ∧
        (.terminate ∈ signals → state.interrupted = true) := by
  have ofTerminate : (state.halfRestored earlier).raised? .terminate = none ↔
      state.interrupted = true := by
    have trapped : (state.halfRestored earlier).handlers .terminate = .scope :=
      entered.trapped .terminate
    cases interrupted : state.interrupted with
    | true => exact iff_of_true (State.raised?_of_interrupted trapped interrupted) rfl
    | false => exact iff_of_false (by rw [State.raised?_of_scope trapped interrupted]; nofun) nofun
  constructor
  · intro ignored
    exact ⟨ignored .interrupt, fun arrives => ofTerminate.mp (ignored .terminate arrives)⟩
  · intro harmless signal arrives
    cases signal with
    | interrupt => exact harmless.1 arrives
    | terminate => exact ofTerminate.mpr (harmless.2 arrives)

theorem clearing_of_ignored (entered : Entered earlier state)
    (first : ∀ signal ∈ schedule.next, state.raised? signal = none)
    (second : ∀ signal ∈ schedule.before 1, state.raised? signal = none)
    (third : ∀ signal ∈ schedule.before 2, (state.halfRestored earlier).raised? signal = none) :
    clearing.run state schedule =
      (andThen (single .forgetHandlers) done).run (state.restored earlier) (schedule.drop 3) := by
  have unpiped : ∀ signal ∈ Schedule.next schedule.tail, state.unpiped.raised? signal = none := by
    rw [Schedule.next_tail]
    exact second
  have half : ∀ signal ∈ Schedule.next schedule.tail.tail,
      (state.halfRestored earlier).raised? signal = none := by
    rw [Schedule.next_tail, Schedule.before_tail]
    exact third
  rw [clearing_eq, run_step_of_performed first entered.perform_removePipe,
    run_step_of_performed unpiped entered.perform_restore_interrupt,
    run_step_of_performed half entered.perform_restore_terminate]
  simp only [← List.drop_one, List.drop_drop]

/-- Once both handlers are back, whatever they raise leaves the scope cleaned. -/
theorem cleaned_forgetting (earlier : Signal → EarlierHandler) (state : State)
    (schedule : Schedule) :
    Cleaned earlier
      ((andThen (single .forgetHandlers) done).run (state.restored earlier) schedule).state := by
  rcases runStep_cases (state.restored earlier) schedule .forgetHandlers with
    ⟨ignored, -⟩ | ⟨signal, -, failure, -, -, same⟩
  · rw [run_step_of_ignored ignored rfl]
    exact ⟨rfl, fun _ => rfl⟩
  · rw [run_andThen, run_single, same]
    exact ⟨rfl, fun _ => rfl⟩

/-- What ends a program while a signal is trapped leaves its handler in place. -/
theorem Cleaned.ignored {step : Step} {rest : Program}
    (cleaned : Cleaned earlier ((andThen (single step) rest).run state schedule).state)
    (trap : Signal) (trapped : state.handlers trap = .scope) :
    ∀ signal ∈ schedule.next, state.raised? signal = none := by
  cases raises : schedule.next.findSome? state.raised? with
  | none => exact List.findSome?_eq_none_iff.mp raises
  | some failure =>
      obtain ⟨first, ran⟩ := run_step_of_raised step rest raises
      rw [ran] at cleaned
      have restored : state.handlers trap = .earlier (earlier trap) := cleaned.restored trap
      cases trapped.symm.trans restored

theorem cleaned_clearing_iff (entered : Entered earlier state) :
    Cleaned earlier (clearing.run state schedule).state ↔
      (∀ signal ∈ schedule.next, state.raised? signal = none) ∧
        (∀ signal ∈ schedule.before 1, state.raised? signal = none) ∧
        ∀ signal ∈ schedule.before 2, (state.halfRestored earlier).raised? signal = none := by
  constructor
  · intro cleaned
    -- Each step is taken only if nothing is raised before it, for until the third one is taken a
    -- signal is trapped.
    have trapped := entered.trapped .terminate
    rw [clearing_eq] at cleaned
    have first := cleaned.ignored .terminate trapped
    rw [run_step_of_performed first entered.perform_removePipe] at cleaned
    have second := cleaned.ignored .terminate trapped
    rw [run_step_of_performed second entered.perform_restore_interrupt] at cleaned
    have third := cleaned.ignored .terminate trapped
    rw [Schedule.next_tail] at second
    rw [Schedule.next_tail, Schedule.before_tail] at third
    exact ⟨first, second, third⟩
  · intro ignored
    rw [clearing_of_ignored entered ignored.1 ignored.2.1 ignored.2.2]
    exact cleaned_forgetting earlier state _

/-! ## Handlers that raise as soon as they are back -/

/-- What an interrupt raises that comes between the two handlers, of which its own is back. -/
def betweenHandlers? (earlier : Signal → EarlierHandler) (schedule : Schedule) : Option Failure :=
  if .interrupt ∈ schedule.before 2 then (earlier .interrupt).raised else none

/-- What a signal raises that comes when both handlers are back. -/
def afterHandlers? (earlier : Signal → EarlierHandler) (schedule : Schedule) : Option Failure :=
  earlierRaise? earlier (schedule.before 3)

theorem betweenHandlers?_eq_none_iff :
    betweenHandlers? earlier schedule = none ↔
      (.interrupt ∈ schedule.before 2 → (earlier .interrupt).raised = none) := by
  unfold betweenHandlers?
  split
  · rename_i arrives
    exact ⟨fun isNone _ => isNone, fun ignored => ignored arrives⟩
  · rename_i absent
    exact iff_of_true rfl fun arrives => absurd arrives absent

theorem cleaned_clearing_of_interrupted (entered : Entered earlier state)
    (interrupted : state.interrupted = true) :
    Cleaned earlier (clearing.run state schedule).state ↔
      betweenHandlers? earlier schedule = none := by
  have deaf := entered.deaf interrupted
  rw [cleaned_clearing_iff entered, entered.ignored_halfRestored_iff, betweenHandlers?_eq_none_iff]
  constructor
  · intro ignored
    exact ignored.2.2.1
  · intro harmless
    exact ⟨fun signal _ => deaf.raised? signal, fun signal _ => deaf.raised? signal, harmless,
      fun _ => interrupted⟩

/-- A first signal that comes this late spoils the cleanup, unless it goes to an earlier handler
that returns. -/
theorem cleaned_clearing_of_uninterrupted (entered : Entered earlier state)
    (uninterrupted : state.interrupted = false) :
    Cleaned earlier (clearing.run state schedule).state ↔
      (schedule.next = [] ∧ schedule.before 1 = [] ∧ .terminate ∉ schedule.before 2) ∧
        betweenHandlers? earlier schedule = none := by
  have nil_iff (signals : List Signal) :
      (∀ signal ∈ signals, state.raised? signal = none) ↔ signals = [] := by
    rw [List.eq_nil_iff_forall_not_mem]
    apply forall_congr'
    intro signal
    rw [State.raised?_of_scope (entered.trapped signal) uninterrupted]
    constructor
    · intro isNone arrives
      cases isNone arrives
    · intro absent arrives
      exact absurd arrives absent
  rw [cleaned_clearing_iff entered, nil_iff, nil_iff, entered.ignored_halfRestored_iff,
    betweenHandlers?_eq_none_iff, uninterrupted]
  constructor
  · intro ignored
    obtain ⟨first, second, harmless, third⟩ := ignored
    exact ⟨⟨first, second, fun arrives => nomatch (third arrives)⟩, harmless⟩
  · intro late
    obtain ⟨⟨first, second, third⟩, harmless⟩ := late
    exact ⟨first, second, harmless, fun arrives => absurd arrives third⟩

theorem Entered.findSome?_halfRestored (entered : Entered earlier state) {signals : List Signal}
    (ignored : .terminate ∈ signals → state.interrupted = true) :
    signals.findSome? (state.halfRestored earlier).raised? =
      if .interrupt ∈ signals then (earlier .interrupt).raised else none := by
  induction signals with
  | nil => rfl
  | cons signal rest ih =>
      have later := ih fun arrives => ignored (List.mem_cons_of_mem signal arrives)
      rw [List.findSome?_cons, later]
      cases signal with
      | interrupt =>
          have raised : (state.halfRestored earlier).raised? .interrupt =
              (earlier .interrupt).raised := rfl
          rw [raised, if_pos List.mem_cons_self]
          cases (earlier .interrupt).raised <;> simp
      | terminate =>
          have trapped : (state.halfRestored earlier).handlers .terminate = .scope :=
            entered.trapped .terminate
          rw [State.raised?_of_interrupted trapped (ignored List.mem_cons_self)]
          simp

/-- How the last part ends if nothing that the scope takes is raised any more. -/
inductive ClearingEnd (earlier : Signal → EarlierHandler) (schedule : Schedule) (state : State) :
    Result → Prop
  | cleared (harmless : betweenHandlers? earlier schedule = none)
      (returns : afterHandlers? earlier schedule = none) :
      ClearingEnd earlier schedule state
        ⟨{ state.restored earlier with saved := [] }, schedule.drop 4, .completed⟩
  | raisedAfter {failure : Failure} {signal : Signal}
      (harmless : betweenHandlers? earlier schedule = none)
      (raises : afterHandlers? earlier schedule = some failure) :
      ClearingEnd earlier schedule state
        ⟨(state.restored earlier).noting signal, schedule.drop 4, .failed failure⟩
  | raisedBetween {failure : Failure} {signal : Signal}
      (raises : betweenHandlers? earlier schedule = some failure) :
      ClearingEnd earlier schedule state
        ⟨(state.halfRestored earlier).noting signal, schedule.drop 3, .failed failure⟩

theorem clearing_of_calm (entered : Entered earlier state) (calm : Calm state schedule 3) :
    ClearingEnd earlier schedule state (clearing.run state schedule) := by
  have first : ∀ signal ∈ schedule.next, state.raised? signal = none := calm.ignored
  have second : ∀ signal ∈ Schedule.next schedule.tail, state.unpiped.raised? signal = none :=
    (calm.tail Iff.rfl : Calm state.unpiped schedule.tail 2).ignored
  have third : .terminate ∈ schedule.before 2 → state.interrupted = true := by
    intro arrives
    rcases calm with deaf | quiet
    · exact deaf.1
    · rw [before_eq_nil_of_take (by omega) quiet] at arrives
      cases arrives
  have between := entered.findSome?_halfRestored third
  cases isBetween : betweenHandlers? earlier schedule with
  | some failure =>
      rw [betweenHandlers?] at isBetween
      rw [isBetween, ← Schedule.before_tail, ← Schedule.next_tail] at between
      obtain ⟨signal, ran⟩ := run_step_of_raised (.restore .terminate)
        (andThen (single .forgetHandlers) done) between
      rw [clearing_eq, run_step_of_performed first entered.perform_removePipe,
        run_step_of_performed second entered.perform_restore_interrupt, ran]
      simp only [← List.drop_one, List.drop_drop]
      exact .raisedBetween isBetween
  | none =>
      rw [betweenHandlers?] at isBetween
      have ignored := List.findSome?_eq_none_iff.mp (between.trans isBetween)
      rw [Schedule.next_tail] at second
      rw [clearing_of_ignored entered first second ignored]
      cases isAfter : afterHandlers? earlier schedule with
      | none =>
          have returns : ∀ signal ∈ Schedule.next (schedule.drop 3),
              (state.restored earlier).raised? signal = none :=
            List.findSome?_eq_none_iff.mp isAfter
          rw [run_step_of_ignored returns rfl, List.tail_drop]
          exact .cleared isBetween isAfter
      | some failure =>
          obtain ⟨signal, ran⟩ := run_step_of_raised .forgetHandlers done
            (show (Schedule.next (schedule.drop 3)).findSome? (state.restored earlier).raised? =
              some failure from isAfter)
          rw [ran, List.tail_drop]
          exact .raisedAfter isBetween isAfter

/-! ## Leaving -/

/-- What a signal does while a scope is being left: a first one that comes before the analyzer has
been stopped is harmless, and so is one that goes to an earlier handler which returns; any other
keeps the cleanup from being finished. -/
theorem cleaned_leave_iff (entered : Entered earlier state) :
    Cleaned earlier (leave.run state schedule).state ↔
      (state.interrupted = true ∨ (∃ signals ∈ schedule.take 4, signals ≠ []) ∨
        (schedule.before 4 = [] ∧ schedule.before 5 = [] ∧ .terminate ∉ schedule.before 6)) ∧
      betweenHandlers? earlier (stop.run state schedule).schedule = none := by
  have split : leave = ensuring stop clearing := rfl
  rw [split]
  -- Either the stopping is calm, and what counts is what comes after it, or a first signal ends it
  -- and makes the scope deaf to others.
  by_cases calm : Calm state schedule 4
  · have enteredLater : Entered earlier state.stopped := entered.same rfl rfl rfl
    rw [run_ensuring_of_ended (by simp [stop_of_calm calm]), stop_of_calm calm]
    dsimp only
    by_cases interrupted : state.interrupted = true
    · rw [cleaned_clearing_of_interrupted enteredLater interrupted]
      exact ⟨fun harmless => ⟨.inl interrupted, harmless⟩, fun finished => finished.2⟩
    · have quiet : ¬∃ signals ∈ schedule.take 4, signals ≠ [] := by
        intro some
        obtain ⟨signals, member, nonempty⟩ := some
        rcases calm with deaf | quiet
        · exact interrupted deaf.1
        · exact nonempty (quiet signals member)
      rw [Bool.not_eq_true] at interrupted
      rw [cleaned_clearing_of_uninterrupted enteredLater interrupted]
      simp only [interrupted, Bool.false_eq_true, quiet, false_or, Schedule.before, List.drop_drop]
  · have interrupts := interrupts_stop entered calm
    obtain ⟨signal, raised⟩ := interrupts.raised
    have signalled : ∃ signals ∈ schedule.take 4, signals ≠ [] := by
      simp only [Calm, not_or, Classical.not_forall] at calm
      obtain ⟨-, signals, member, nonempty⟩ := calm
      exact ⟨signals, member, nonempty⟩
    rw [run_ensuring_of_ended (by simp [raised])]
    dsimp only
    rw [cleaned_clearing_of_interrupted interrupts.entered interrupts.interrupted]
    exact ⟨fun harmless => ⟨.inr (.inl signalled), harmless⟩, fun finished => finished.2⟩

/-! ## Bodies -/

/-- What holds after an act or a body: one that completed has no analyzer left that runs. -/
def Acted (earlier : Signal → EarlierHandler) (outcome : Outcome) (state : State) : Prop :=
  Inside earlier state ∧ (outcome = .completed → state.child ≠ .running)

theorem Acted.raised {failure : Failure} {signal : Signal} (acted : Acted earlier .completed state)
    (isRaised : state.raised? signal = some failure) :
    Acted earlier (.failed failure) (state.noting signal) := by
  obtain ⟨-, -, noted⟩ := acted.1.entered.raised isRaised
  rw [noted]
  exact ⟨acted.1.interrupt, nofun⟩

theorem meets_act (interval : Float) (act : Act) :
    Meets (act.program interval) (Acted earlier .completed) (Acted earlier) := by
  cases act with
  | collect launch entry =>
      intro state schedule acted
      obtain ⟨inside, -, ends⟩ :=
        collecting_concludes acted.1 (acted.2 rfl) launch interval entry schedule
      refine ⟨inside, ?_⟩
      intro isCompleted
      have isCompleted : ((collecting launch interval entry).run state schedule).outcome =
          .completed := isCompleted
      rw [isCompleted] at ends
      have isEnded : ((collecting launch interval entry).run state schedule).state.child = .ended :=
        ends.isEnded
      simp [Act.program, isEnded]
  | vanish =>
      apply meets_single
      · intro state signal failure acted isRaised
        exact acted.raised isRaised
      · intro state acted
        exact ⟨acted.1.vanish, acted.2⟩
  | fail failure =>
      apply meets_single
      · intro state signal failure acted isRaised
        exact acted.raised isRaised
      · intro state acted
        exact ⟨acted.1, nofun⟩

theorem meets_acting (interval : Float) (acts : List Act) :
    Meets (acting interval acts) (Acted earlier .completed) (Acted earlier) := by
  induction acts with
  | nil =>
      apply meets_done
      intro state acted
      exact acted
  | cons act rest ih =>
      refine meets_andThen (Acted earlier .completed) ?_ ih
      refine (meets_act interval act).weaken (fun _ acted => acted) ?_
      intro outcome state acted
      split
      · rename_i isCompleted
        exact isCompleted ▸ acted
      · exact acted

/-! ## Scopes -/

theorem run_scope {start : State} {body : Program}
    (enters : (enter.run start schedule).outcome = .completed) :
    let entered := enter.run start schedule
    let inner := body.run entered.state entered.schedule
    let last := leave.run inner.state inner.schedule
    inner.outcome ≠ .waiting →
      (scope body).run start schedule =
        { last with outcome := last.outcome.after inner.outcome } := by
  intro entered inner last ends
  have ran : enter.run start schedule = ⟨entered.state, entered.schedule, .completed⟩ := by
    rw [← enters]
  rw [scope, run_andThen_of_completed ran]
  exact run_ensuring_of_ended ends

theorem inside_body {path : Text} {node : PipeNode} (replaceable : node.isReplaceable = true)
    (quiet : ∀ signals ∈ schedule.take 4, signals = []) (interval : Float) (acts : List Act) :
    let entered := enter.run (.start path node earlier) schedule
    Inside earlier ((acting interval acts).run entered.state entered.schedule).state := by
  intro entered
  have ran : entered = _ := enter_of_quiet replaceable quiet
  rw [ran]
  exact (meets_acting interval acts _ _ ⟨inside_entered path node earlier, nofun⟩).1

theorem leave_of_calm (calm : Calm state schedule 4) :
    leave.run state schedule = clearing.run state.stopped (schedule.drop 4) := by
  have split : leave = ensuring stop clearing := rfl
  rw [split, run_ensuring_of_ended (by simp [stop_of_calm calm]), stop_of_calm calm]
  cases (clearing.run state.stopped (schedule.drop 4)) with
  | mk next later outcome => cases outcome <;> rfl

/-- A scope whose body ends leaves no pipe and no analyzer behind if the first signal comes in the
body or none comes: it does not matter what was at the path, what the analyzers did and which
signals came later. The handlers are restored, and what the body did is passed on, unless a handler
raises something as soon as it is back: then that takes the place of what the body did, and if it
comes between the two handlers the second one is not restored. A path that cannot be a pipe's is
left as it was. -/
theorem scope_cleans_up (path : Text) (node : PipeNode) (earlier : Signal → EarlierHandler)
    (interval : Float) (acts : List Act) (schedule : Schedule) :
    let start := State.start path node earlier
    let entered := enter.run start schedule
    let inner := (acting interval acts).run entered.state entered.schedule
    let last := inner.schedule.drop 4
    let result := (scope (acting interval acts)).run start schedule
    (node.isReplaceable = true → (∀ signals ∈ schedule.take 4, signals = []) →
      entered.outcome = .completed ∧
        (inner.outcome ≠ .waiting →
          (inner.state.interrupted = true ∨ ∀ signals ∈ inner.schedule, signals = []) →
            result.state.node = .absent ∧ result.state.child ≠ .running ∧
              result.state.strays = 0 ∧ result.state.catalogs = inner.state.catalogs ∧
              result.state.handlers .interrupt = .earlier (earlier .interrupt) ∧
              (∀ failure, betweenHandlers? earlier last = some failure →
                result.state.handlers .terminate = .scope ∧ result.outcome = .failed failure) ∧
              (betweenHandlers? earlier last = none →
                Cleaned earlier result.state ∧
                  result.outcome = match afterHandlers? earlier last with
                    | some failure => .failed failure
                    | none => inner.outcome))) ∧
      (node.isReplaceable = false →
        result.state = start ∧
          (earlierRaise? earlier schedule.next = none →
            earlierRaise? earlier (schedule.before 1) = none →
            ∃ reason, result.outcome = .failed (.pipe path reason))) := by
  intro start entered inner last result
  constructor
  · intro replaceable quiet
    have enters : entered.outcome = .completed :=
      congrArg Result.outcome (enter_of_quiet replaceable quiet)
    refine ⟨enters, ?_⟩
    intro ends calm
    have inside : Inside earlier inner.state := inside_body replaceable quiet interval acts
    have enteredLater : Entered earlier inner.state.stopped := inside.entered.same rfl rfl rfl
    have calm : Calm inner.state inner.schedule (4 + 3) := by
      rcases calm with interrupted | quietLater
      · exact .inl (inside.entered.deaf interrupted)
      · right
        intro signals member
        exact quietLater signals (List.mem_of_mem_take member)
    have ran : result = { leave.run inner.state inner.schedule with
        outcome := (leave.run inner.state inner.schedule).outcome.after inner.outcome } :=
      run_scope enters ends
    rw [ran, leave_of_calm calm.early]
    have clears := clearing_of_calm enteredLater (calm.late Iff.rfl)
    generalize clearing.run inner.state.stopped (inner.schedule.drop 4) = cleared at clears
    -- The last part is finished, or ends when both handlers or only the first one is back.
    cases clears with
    | cleared harmless returns =>
        refine ⟨rfl, inside.stopped_not_running, inside.alone, rfl, rfl, ?_, ?_⟩
        · intro failure raises
          cases raises.symm.trans harmless
        · intro _
          rw [returns]
          exact ⟨⟨rfl, fun _ => rfl⟩, rfl⟩
    | raisedAfter harmless raises =>
        refine ⟨rfl, inside.stopped_not_running, inside.alone, rfl, rfl, ?_, ?_⟩
        · intro failure raised
          cases raised.symm.trans harmless
        · intro _
          rw [raises]
          exact ⟨⟨rfl, fun _ => rfl⟩, rfl⟩
    | raisedBetween raises =>
        refine ⟨rfl, inside.stopped_not_running, inside.alone, rfl, rfl, ?_, ?_⟩
        · intro failure raised
          cases raised.symm.trans raises
          exact ⟨enteredLater.trapped .terminate, rfl⟩
        · intro harmless
          cases raises.symm.trans harmless
  · intro refused
    obtain ⟨reason, refuses⟩ := node.exists_refusal path refused
    obtain ⟨same, fails⟩ := enter_of_refusal refuses earlier schedule
    have ran : result = entered := run_andThen_of_failed fails
    rw [ran]
    refine ⟨same, ?_⟩
    intro first second
    refine ⟨reason, fails.trans ?_⟩
    rw [first, second]
    simp

/-- A stale file makes way for the pipe, and the analyzer is stopped by a first signal; further ones
come while it is being stopped and before the handlers are restored. -/
theorem scope_cleans_up_staleFile :
    let result := (scope (acting 0.5 [.collect (.script []) "app.js"])).run
      (.start "a.pipe" .file fun _ => ⟨1, some .cancelled⟩)
      [[], [], [], [], [], [.terminate], [.interrupt], [.terminate, .interrupt]]
    Cleaned (fun _ => ⟨1, some .cancelled⟩) result.state ∧ result.state.child ≠ .running ∧
      result.state.strays = 0 ∧ result.outcome = .failed (.interrupted 15) ∧
      result.state.catalogs = [] := by
  have cleans := scope_cleans_up "a.pipe" .file (fun _ => ⟨1, some .cancelled⟩) 0.5
    [.collect (.script []) "app.js"]
    [[], [], [], [], [], [.terminate], [.interrupt], [.terminate, .interrupt]]
  have left := (cleans.1 rfl (by decide)).2 nofun (.inl rfl)
  have passedOn := left.2.2.2.2.2.2 rfl
  exact ⟨passedOn.1, left.2.1, left.2.2.1, passedOn.2, left.2.2.2.1⟩

/-- A second interrupt between the two handlers meets its earlier handler again: what that raises
keeps the other handler from being restored and takes the place of the first interrupt. -/
theorem scope_secondInterrupt_stays_trapped :
    let result := (scope (acting 0.5 [.collect (.script []) "app.js"])).run
      (.start "a.pipe" .absent fun
        | .interrupt => ⟨0, some .cancelled⟩
        | .terminate => ⟨1, none⟩)
      ([[], [], [], [], [], [.interrupt]] ++ .replicate 6 [] ++ [[.interrupt]])
    result.state.node = .absent ∧ result.state.interrupted = true ∧
      result.state.handlers .terminate = .scope ∧ result.outcome = .failed .cancelled :=
  ⟨rfl, rfl, rfl, rfl⟩

/-- The cleanup is finished exactly if the first signal comes before the analyzer has been stopped,
or if none of those that come later is trapped, and if an interrupt that comes between the two
handlers raises nothing. -/
theorem cleaned_scope_iff (path : Text) (node : PipeNode) (earlier : Signal → EarlierHandler)
    (interval : Float) (acts : List Act) (schedule : Schedule)
    (replaceable : node.isReplaceable = true)
    (quiet : ∀ signals ∈ schedule.take 4, signals = []) :
    let entered := enter.run (.start path node earlier) schedule
    let inner := (acting interval acts).run entered.state entered.schedule
    inner.outcome ≠ .waiting →
      (Cleaned earlier
          ((scope (acting interval acts)).run (.start path node earlier) schedule).state ↔
        (inner.state.interrupted = true ∨ (∃ signals ∈ inner.schedule.take 4, signals ≠ []) ∨
          (inner.schedule.before 4 = [] ∧ inner.schedule.before 5 = [] ∧
            .terminate ∉ inner.schedule.before 6)) ∧
        betweenHandlers? earlier (stop.run inner.state inner.schedule).schedule = none) := by
  intro entered inner ends
  have enters : entered.outcome = .completed :=
    congrArg Result.outcome (enter_of_quiet replaceable quiet)
  have inside : Inside earlier inner.state := inside_body replaceable quiet interval acts
  rw [run_scope enters ends]
  exact cleaned_leave_iff inside.entered

/-- Between the two handlers, the signal whose handler is back is harmless if that returns, and the
other one is not. -/
theorem cleaned_scope_betweenHandlers :
    Cleaned (fun _ => ⟨1, none⟩) ((scope (acting 0.5 [])).run
        (.start "a.pipe" .fifo fun _ => ⟨1, none⟩) (.replicate 10 [] ++ [[.interrupt]])).state ∧
      ¬Cleaned (fun _ => ⟨1, none⟩) ((scope (acting 0.5 [])).run
        (.start "a.pipe" .fifo fun _ => ⟨1, none⟩)
        (.replicate 10 [] ++ [[.interrupt, .terminate]])).state ∧
      ¬Cleaned (fun _ => ⟨0, some .cancelled⟩) ((scope (acting 0.5 [])).run
        (.start "a.pipe" .fifo fun _ => ⟨0, some .cancelled⟩)
        (.replicate 10 [] ++ [[.interrupt]])).state := by
  refine ⟨?_, ?_, ?_⟩
  · apply (cleaned_scope_iff "a.pipe" .fifo _ 0.5 [] _ rfl (by decide) nofun).mpr
    exact ⟨by decide, rfl⟩
  · intro cleaned
    have late := (cleaned_scope_iff "a.pipe" .fifo _ 0.5 [] _ rfl (by decide) nofun).mp cleaned
    exact absurd late.1 (by decide)
  · intro cleaned
    have late := (cleaned_scope_iff "a.pipe" .fifo _ 0.5 [] _ rfl (by decide) nofun).mp cleaned
    cases late.2

/-- A signal that comes when the pipe is about to be removed leaves the pipe and both traps. -/
theorem scope_lateSignal_leaves_pipe :
    let result := (scope (acting 0.5 [])).run (.start "a.pipe" .absent fun _ => ⟨1, none⟩)
      [[], [], [], [], [], [], [], [], [.terminate]]
    result.state.node = .fifo ∧ result.state.handlers .interrupt = .scope ∧
      result.state.handlers .terminate = .scope ∧ result.outcome = .failed (.interrupted 15) :=
  ⟨rfl, rfl, rfl, rfl⟩

end ChangeImpact.Channel
