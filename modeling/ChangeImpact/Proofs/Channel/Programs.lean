import ChangeImpact.Channel.Scope
/-!
# How the programs of a channel run

A signal before a step ends the program there or changes nothing. From that follow rules for what
holds after a program, one for each way to build one, and the run of a program that no signal can
end.
-/
set_option autoImplicit false

namespace ChangeImpact.Channel

/-! ## Signals -/

namespace State

variable {state : State} {signal : Signal}

/-- The state after the first signal that was trapped. -/
def interrupt (state : State) : State :=
  { state with interrupted := true }

theorem raised?_of_earlier {handler : EarlierHandler}
    (isEarlier : state.handlers signal = .earlier handler) :
    state.raised? signal = handler.raised := by
  rw [raised?, isEarlier]

theorem raised?_of_scope (trapped : state.handlers signal = .scope)
    (uninterrupted : state.interrupted = false) :
    state.raised? signal = some (.interrupted signal.number) := by
  rw [raised?, trapped, uninterrupted]
  rfl

theorem raised?_of_interrupted (trapped : state.handlers signal = .scope)
    (interrupted : state.interrupted = true) : state.raised? signal = none := by
  rw [raised?, trapped, interrupted]
  rfl

theorem noting_of_scope (trapped : state.handlers signal = .scope) :
    state.noting signal = state.interrupt := by
  simp [noting, interrupt, trapped]

/-- A signal was trapped before and all still are, so that none counts. -/
def Deaf (state : State) : Prop :=
  state.interrupted = true ∧ ∀ signal, state.handlers signal = .scope

theorem Deaf.raised? (deaf : state.Deaf) (signal : Signal) : state.raised? signal = none :=
  raised?_of_interrupted (deaf.2 signal) deaf.1

theorem not_deaf (uninterrupted : state.interrupted = false) : ¬state.Deaf := by
  intro deaf
  cases uninterrupted.symm.trans deaf.1

/-- What signals raise is what the first of them raises that raises something. -/
theorem deliver_snd (state : State) (signals : List Signal) :
    (state.deliver signals).2 = signals.findSome? state.raised? := by
  induction signals with
  | nil => rfl
  | cons signal rest ih =>
      rw [deliver, List.findSome?_cons]
      cases state.raised? signal with
      | none => exact ih
      | some failure => rfl

theorem deliver_of_ignored {signals : List Signal}
    (ignored : ∀ signal ∈ signals, state.raised? signal = none) :
    state.deliver signals = (state, none) := by
  induction signals with
  | nil => rfl
  | cons signal rest ih =>
      rw [deliver, ignored signal List.mem_cons_self]
      apply ih
      intro other member
      exact ignored other (List.mem_cons_of_mem signal member)

/-- Signals change nothing, or something is raised for one of them. -/
theorem deliver_cases (state : State) (signals : List Signal) :
    ((∀ signal ∈ signals, state.raised? signal = none) ∧ state.deliver signals = (state, none)) ∨
      ∃ signal ∈ signals, ∃ failure, state.raised? signal = some failure ∧
        state.deliver signals = (state.noting signal, some failure) := by
  induction signals with
  | nil => exact .inl ⟨nofun, rfl⟩
  | cons signal rest ih =>
      rw [deliver]
      cases isRaised : state.raised? signal with
      | some failure => exact .inr ⟨signal, List.mem_cons_self, failure, isRaised, rfl⟩
      | none =>
          rcases ih with ⟨ignored, delivered⟩ | ⟨other, member, failure, raises, delivered⟩
          · exact .inl ⟨List.forall_mem_cons.mpr ⟨isRaised, ignored⟩, delivered⟩
          · exact .inr ⟨other, List.mem_cons_of_mem signal member, failure, raises, delivered⟩

end State

/-! ## Steps and programs by their parts -/

namespace Step

variable (signal : Signal) (state : State)

theorem perform_receive : (receive signal).perform state = state.deliver [signal] := rfl

theorem perform_openPipe :
    openPipe.perform state =
      if state.node = .fifo then (state, none)
      else
        (state, some (.pipe state.path ("error opening named pipe: " ++ noSuchFile state.path))) :=
  rfl

theorem perform_removePipe :
    removePipe.perform state =
      match state.node with
      | .file | .fifo => ({ state with node := .absent }, none)
      | _ => (state, none) :=
  rfl

theorem perform_restore :
    (restore signal).perform state =
      match state.saved? signal with
      | some handler => (state.handle signal handler, none)
      | none => (state, none) :=
  rfl

end Step

namespace Program

section

variable (first second : Program) (step : Step) (state : State) (schedule : Schedule)

theorem run_single : (single step).run state schedule = runStep state schedule step := rfl

theorem run_pause : pause.run state schedule = runPause state schedule := rfl

theorem run_andThen :
    (andThen first second).run state schedule =
      match (first.run state schedule).outcome with
      | .completed => second.run (first.run state schedule).state
        (first.run state schedule).schedule
      | _ => first.run state schedule :=
  rfl

theorem run_ensuring :
    (ensuring first second).run state schedule =
      match (first.run state schedule).outcome with
      | .waiting => first.run state schedule
      | outcome =>
          let last := second.run (first.run state schedule).state
            (first.run state schedule).schedule
          { last with outcome := last.outcome.after outcome } :=
  rfl

theorem run_onFailure :
    (onFailure first second).run state schedule =
      match (first.run state schedule).outcome with
      | .failed failure =>
          let last := second.run (first.run state schedule).state
            (first.run state schedule).schedule
          { last with outcome := last.outcome.after (.failed failure) }
      | _ => first.run state schedule :=
  rfl

end

/-! ## One step -/

/-- The signals that arrive before the next step. -/
def Schedule.next (schedule : Schedule) : List Signal :=
  schedule.head?.getD []

/-- The signals that arrive before the step with this number, counted from zero. -/
def Schedule.before (schedule : Schedule) (index : Nat) : List Signal :=
  Schedule.next (schedule.drop index)

theorem Schedule.next_tail (schedule : Schedule) :
    Schedule.next schedule.tail = schedule.before 1 := by
  rw [before, List.drop_one]

theorem Schedule.before_tail (schedule : Schedule) (index : Nat) :
    Schedule.before schedule.tail index = schedule.before (index + 1) := by
  rw [before, before, List.drop_tail]

theorem runStep_of_ignored {state : State} {schedule : Schedule}
    (ignored : ∀ signal ∈ schedule.next, state.raised? signal = none) (step : Step) :
    runStep state schedule step =
      ⟨(step.perform state).1, schedule.tail, .ofFailure? (step.perform state).2⟩ := by
  have delivered : state.deliver (schedule.head?.getD []) = (state, none) :=
    State.deliver_of_ignored ignored
  unfold runStep
  rw [delivered]

theorem runStep_cases (state : State) (schedule : Schedule) (step : Step) :
    ((∀ signal ∈ schedule.next, state.raised? signal = none) ∧
        runStep state schedule step =
          ⟨(step.perform state).1, schedule.tail, .ofFailure? (step.perform state).2⟩) ∨
      ∃ signal ∈ schedule.next, ∃ failure, state.raised? signal = some failure ∧
        schedule.next.findSome? state.raised? = some failure ∧
        runStep state schedule step =
          ⟨state.noting signal, schedule.tail, .failed failure⟩ := by
  rcases State.deliver_cases state schedule.next with
    ⟨ignored, -⟩ | ⟨signal, member, failure, raises, delivered⟩
  · exact .inl ⟨ignored, runStep_of_ignored ignored step⟩
  · have isFirst : schedule.next.findSome? state.raised? = some failure := by
      rw [← State.deliver_snd, delivered]
    refine .inr ⟨signal, member, failure, raises, isFirst, ?_⟩
    have delivered : state.deliver (schedule.head?.getD []) = (state.noting signal, some failure) :=
      delivered
    unfold runStep
    rw [delivered]

theorem runPause_cases (state : State) (schedule : Schedule) :
    ((runPause state schedule).state = state ∧ (runPause state schedule).outcome = .waiting) ∨
      ∃ signal failure, state.raised? signal = some failure ∧
        (runPause state schedule).state = state.noting signal ∧
        (runPause state schedule).outcome = .failed failure := by
  induction schedule with
  | nil => exact .inl ⟨rfl, rfl⟩
  | cons signals rest ih =>
      unfold runPause
      rcases State.deliver_cases state signals with
        ⟨-, delivered⟩ | ⟨signal, -, failure, raises, delivered⟩
      · rw [delivered]
        exact ih
      · rw [delivered]
        exact .inr ⟨signal, failure, raises, rfl, rfl⟩

/-! ## What holds after a program -/

/-- Whatever signals arrive, a program that starts with `before` ends with `after`. -/
def Meets (program : Program) (before : State → Prop) (after : Outcome → State → Prop) : Prop :=
  ∀ state schedule, before state →
    after (program.run state schedule).outcome (program.run state schedule).state

section

variable {before : State → Prop} {after : Outcome → State → Prop}

theorem meets_done (ends : ∀ state, before state → after .completed state) :
    Meets done before after := by
  intro state schedule holds
  exact ends state holds

theorem meets_single {step : Step}
    (raises : ∀ state signal failure, before state → state.raised? signal = some failure →
      after (.failed failure) (state.noting signal))
    (performs : ∀ state, before state →
      after (.ofFailure? (step.perform state).2) (step.perform state).1) :
    Meets (single step) before after := by
  intro state schedule holds
  rw [run_single]
  rcases runStep_cases state schedule step with
    ⟨-, same⟩ | ⟨signal, -, failure, isRaised, -, same⟩
  · rw [same]
    exact performs state holds
  · rw [same]
    exact raises state signal failure holds isRaised

theorem meets_pause
    (raises : ∀ state signal failure, before state → state.raised? signal = some failure →
      after (.failed failure) (state.noting signal))
    (waits : ∀ state, before state → after .waiting state) : Meets pause before after := by
  intro state schedule holds
  rw [run_pause]
  rcases runPause_cases state schedule with
    ⟨sameState, sameOutcome⟩ | ⟨signal, failure, isRaised, sameState, sameOutcome⟩
  · rw [sameState, sameOutcome]
    exact waits state holds
  · rw [sameState, sameOutcome]
    exact raises state signal failure holds isRaised

/-- The second part starts where the first completed. -/
theorem meets_andThen {first second : Program} (middle : State → Prop)
    (meetsFirst : Meets first before fun outcome state =>
      if outcome = .completed then middle state else after outcome state)
    (meetsSecond : Meets second middle after) : Meets (andThen first second) before after := by
  intro state schedule holds
  have ended := meetsFirst state schedule holds
  rw [run_andThen]
  cases isOutcome : (first.run state schedule).outcome with
  | completed =>
      rw [isOutcome, if_pos rfl] at ended
      exact meetsSecond _ _ ended
  | failed failure =>
      rw [isOutcome, if_neg (by simp)] at ended
      simp only [isOutcome]
      exact ended
  | waiting =>
      rw [isOutcome, if_neg (by simp)] at ended
      simp only [isOutcome]
      exact ended

/-- A step, and then the rest of the program if the step succeeds. -/
theorem meets_step {step : Step} {rest : Program} (middle : State → Prop)
    (raises : ∀ state signal failure, before state → state.raised? signal = some failure →
      after (.failed failure) (state.noting signal))
    (fails : ∀ state failure, before state → (step.perform state).2 = some failure →
      after (.failed failure) (step.perform state).1)
    (succeeds : ∀ state, before state → (step.perform state).2 = none →
      middle (step.perform state).1)
    (meets : Meets rest middle after) : Meets (andThen (single step) rest) before after := by
  refine meets_andThen middle (meets_single ?_ ?_) meets
  · intro state signal failure holds isRaised
    rw [if_neg (by simp)]
    exact raises state signal failure holds isRaised
  · intro state holds
    cases performed : (step.perform state).2 with
    | none => exact succeeds state holds performed
    | some failure => exact fails state failure holds performed

/-- The cleanup starts where the body ended, unless the body waits. -/
theorem meets_ensuring {body cleanup : Program} (middle : Outcome → State → Prop)
    (meetsBody : Meets body before middle)
    (waits : ∀ state, middle .waiting state → after .waiting state)
    (meetsCleanup : ∀ first, first ≠ .waiting →
      Meets cleanup (middle first) fun last state => after (last.after first) state) :
    Meets (ensuring body cleanup) before after := by
  intro state schedule holds
  have ended := meetsBody state schedule holds
  rw [run_ensuring]
  cases isOutcome : (body.run state schedule).outcome with
  | completed | failed failure =>
      rw [isOutcome] at ended
      exact meetsCleanup _ (by simp) _ _ ended
  | waiting =>
      rw [isOutcome] at ended
      simp only [isOutcome]
      exact waits _ ended

/-- The second part starts where the first failed. -/
theorem meets_onFailure {body cleanup : Program} (middle : Outcome → State → Prop)
    (meetsBody : Meets body before middle)
    (goesOn : ∀ outcome state, (∀ failure, outcome ≠ .failed failure) → middle outcome state →
      after outcome state)
    (meetsCleanup : ∀ failure, Meets cleanup (middle (.failed failure)) fun last state =>
      after (last.after (.failed failure)) state) :
    Meets (onFailure body cleanup) before after := by
  intro state schedule holds
  have ended := meetsBody state schedule holds
  rw [run_onFailure]
  cases isOutcome : (body.run state schedule).outcome with
  | failed failure =>
      rw [isOutcome] at ended
      exact meetsCleanup failure _ _ ended
  | completed | waiting =>
      rw [isOutcome] at ended
      simp only [isOutcome]
      exact goesOn _ _ (by simp) ended

theorem Meets.weaken {program : Program} {other : State → Prop} {last : Outcome → State → Prop}
    (meets : Meets program before after) (stronger : ∀ state, other state → before state)
    (weaker : ∀ outcome state, after outcome state → last outcome state) :
    Meets program other last := by
  intro state schedule holds
  exact weaker _ _ (meets state schedule (stronger state holds))

end

/-! ## Programs that only a signal can end -/

/-- A program of steps that cannot fail and keep what holds of the state. -/
def Tame (holds : State → Prop) : Program → Prop
  | done => True
  | single step =>
      ∀ state, holds state → (step.perform state).2 = none ∧ holds (step.perform state).1
  | pause => False
  | andThen first second | ensuring first second | onFailure first second =>
      first.Tame holds ∧ second.Tame holds

/-- Completed, or ended by one of these failures. -/
def Only (failures : Failure → Prop) (outcome : Outcome) : Prop :=
  outcome = .completed ∨ ∃ failure, failures failure ∧ outcome = .failed failure

theorem Only.after {failures : Failure → Prop} {last first : Outcome}
    (lastOnly : Only failures last) (firstOnly : Only failures first) :
    Only failures (last.after first) := by
  rcases lastOnly with rfl | ⟨failure, among, rfl⟩
  · exact firstOnly
  · exact .inr ⟨failure, among, rfl⟩

theorem Tame.meets {holds : State → Prop} {failures : Failure → Prop}
    (raises : ∀ state signal failure, holds state → state.raised? signal = some failure →
      failures failure ∧ holds (state.noting signal))
    {program : Program} (tame : program.Tame holds) :
    Meets program holds fun outcome state => holds state ∧ Only failures outcome := by
  induction program with
  | done =>
      apply meets_done
      intro state held
      exact ⟨held, .inl rfl⟩
  | single step =>
      apply meets_single
      · intro state signal failure held isRaised
        obtain ⟨among, keeps⟩ := raises state signal failure held isRaised
        exact ⟨keeps, .inr ⟨failure, among, rfl⟩⟩
      · intro state held
        rw [(tame state held).1]
        exact ⟨(tame state held).2, .inl rfl⟩
  | pause => cases tame
  | andThen first second ihFirst ihSecond =>
      refine meets_andThen holds ?_ (ihSecond tame.2)
      refine (ihFirst tame.1).weaken (fun _ held => held) ?_
      intro outcome state ended
      split
      · exact ended.1
      · exact ended
  | ensuring first second ihFirst ihSecond =>
      -- The cleanup starts with what the body kept.
      refine meets_ensuring _ (ihFirst tame.1) (fun _ ended => ended) ?_
      intro outcome _ state schedule ended
      obtain ⟨held, only⟩ := ihSecond tame.2 state schedule ended.1
      exact ⟨held, only.after ended.2⟩
  | onFailure first second ihFirst ihSecond =>
      refine meets_onFailure _ (ihFirst tame.1) (fun _ _ _ ended => ended) ?_
      intro failure state schedule ended
      obtain ⟨held, only⟩ := ihSecond tame.2 state schedule ended.1
      exact ⟨held, only.after ended.2⟩

/-! ## Runs of steps that succeed -/

/-- A step that no signal ends hands over to the rest of the program. -/
theorem run_step_of_ignored {step : Step} {rest : Program} {state : State} {schedule : Schedule}
    (ignored : ∀ signal ∈ schedule.next, state.raised? signal = none)
    (succeeds : (step.perform state).2 = none) :
    (andThen (single step) rest).run state schedule =
      rest.run (step.perform state).1 schedule.tail := by
  rw [run_andThen, run_single, runStep_of_ignored ignored, succeeds]
  rfl

theorem run_step_of_performed {step : Step} {rest : Program} {state next : State}
    {schedule : Schedule} (ignored : ∀ signal ∈ schedule.next, state.raised? signal = none)
    (performed : step.perform state = (next, none)) :
    (andThen (single step) rest).run state schedule = rest.run next schedule.tail := by
  rw [run_step_of_ignored ignored (by rw [performed]), performed]

theorem run_step_of_fails {step : Step} {rest : Program} {state : State} {schedule : Schedule}
    {failure : Failure} (ignored : ∀ signal ∈ schedule.next, state.raised? signal = none)
    (fails : (step.perform state).2 = some failure) :
    (andThen (single step) rest).run state schedule =
      ⟨(step.perform state).1, schedule.tail, .failed failure⟩ := by
  rw [run_andThen, run_single, runStep_of_ignored ignored, fails]
  rfl

/-- What a signal raises ends the program before the step. -/
theorem run_step_of_raised (step : Step) (rest : Program) {state : State} {schedule : Schedule}
    {failure : Failure} (raises : schedule.next.findSome? state.raised? = some failure) :
    ∃ signal, (andThen (single step) rest).run state schedule =
      ⟨state.noting signal, schedule.tail, .failed failure⟩ := by
  rcases runStep_cases state schedule step with ⟨ignored, -⟩ | ⟨signal, -, first, -, isFirst, same⟩
  · rw [List.findSome?_eq_none_iff.mpr ignored] at raises
    cases raises
  · cases isFirst.symm.trans raises
    refine ⟨signal, ?_⟩
    rw [run_andThen, run_single, same]

/-- No signal ends any of the next steps, because none counts any more or none comes. -/
def Calm (state : State) (schedule : Schedule) (count : Nat) : Prop :=
  state.Deaf ∨ ∀ signals ∈ schedule.take count, signals = []

section

variable {state : State} {schedule : Schedule} {count : Nat}

theorem before_eq_nil_of_take {index : Nat} (soon : index < count)
    (quiet : ∀ signals ∈ schedule.take count, signals = []) : schedule.before index = [] := by
  unfold Schedule.before Schedule.next
  rw [List.head?_drop]
  cases isEntry : schedule[index]? with
  | none => rfl
  | some signals =>
      have member : signals ∈ schedule.take count := by
        apply List.mem_of_getElem? (i := index)
        rw [List.getElem?_take_of_lt soon, isEntry]
      exact quiet signals member

theorem Calm.ignored (calm : Calm state schedule (count + 1)) :
    ∀ signal ∈ schedule.next, state.raised? signal = none := by
  intro signal arrives
  rcases calm with deaf | quiet
  · exact deaf.raised? signal
  · have none : schedule.next = [] := before_eq_nil_of_take (Nat.succ_pos count) quiet
    rw [none] at arrives
    cases arrives

theorem Calm.early {other : Nat} (calm : Calm state schedule (count + other)) :
    Calm state schedule count := by
  rcases calm with deaf | quiet
  · exact .inl deaf
  · right
    intro signals member
    apply quiet
    rw [List.take_add]
    exact List.mem_append_left _ member

theorem Calm.late {other : Nat} (calm : Calm state schedule (count + other)) {next : State}
    (same : next.Deaf ↔ state.Deaf) : Calm next (schedule.drop count) other := by
  rcases calm with deaf | quiet
  · exact .inl (same.mpr deaf)
  · right
    intro signals member
    apply quiet
    rw [List.take_add]
    exact List.mem_append_right _ member

theorem Calm.append {other : Nat} (early : Calm state schedule count) {next : State}
    (same : next.Deaf ↔ state.Deaf) (late : Calm next (schedule.drop count) other) :
    Calm state schedule (count + other) := by
  rcases early with deaf | quiet
  · exact .inl deaf
  rcases late with deaf | quietLater
  · exact .inl (same.mp deaf)
  · right
    intro signals member
    rw [List.take_add] at member
    exact (List.mem_append.mp member).elim (quiet signals) (quietLater signals)

theorem Calm.tail (calm : Calm state schedule (count + 1)) {next : State}
    (same : next.Deaf ↔ state.Deaf) : Calm next schedule.tail count := by
  rw [Nat.add_comm] at calm
  rw [← List.drop_one]
  exact calm.late same

end

/-- Steps that succeed one after the other from a state on. -/
def Smooth : List Step → State → Prop
  | [], _ => True
  | step :: rest, state => (step.perform state).2 = none ∧
      ((step.perform state).1.Deaf ↔ state.Deaf) ∧ Smooth rest (step.perform state).1

theorem run_ofSteps_of_calm (steps : List Step) {state : State} {schedule : Schedule}
    (smooth : Smooth steps state) (calm : Calm state schedule steps.length) :
    (ofSteps steps).run state schedule =
      ⟨steps.foldl (fun state step => (step.perform state).1) state, schedule.drop steps.length,
        .completed⟩ := by
  induction steps generalizing state schedule with
  | nil => rfl
  | cons step rest ih =>
      obtain ⟨succeeds, keeps, later⟩ := smooth
      have split : ofSteps (step :: rest) = andThen (single step) (ofSteps rest) := rfl
      rw [split, run_step_of_ignored calm.ignored succeeds, ih later (calm.tail keeps),
        List.drop_tail]
      rfl

/-! ## Composed runs -/

section

variable {first second : Program} {state next : State} {schedule later : Schedule}

theorem run_andThen_of_completed (ran : first.run state schedule = ⟨next, later, .completed⟩) :
    (andThen first second).run state schedule = second.run next later := by
  rw [run_andThen, ran]

theorem run_andThen_of_failed {failure : Failure}
    (fails : (first.run state schedule).outcome = .failed failure) :
    (andThen first second).run state schedule = first.run state schedule := by
  rw [run_andThen]
  simp only [fails]

theorem run_onFailure_of_completed (ran : first.run state schedule = ⟨next, later, .completed⟩) :
    (onFailure first second).run state schedule = ⟨next, later, .completed⟩ := by
  rw [run_onFailure, ran]

theorem run_ensuring_of_ended (ends : (first.run state schedule).outcome ≠ .waiting) :
    (ensuring first second).run state schedule =
      let last := second.run (first.run state schedule).state (first.run state schedule).schedule
      { last with outcome := last.outcome.after (first.run state schedule).outcome } := by
  rw [run_ensuring]
  cases isOutcome : (first.run state schedule).outcome with
  | completed => rfl
  | failed failure => rfl
  | waiting => exact absurd isOutcome ends

end

end Program

end ChangeImpact.Channel
