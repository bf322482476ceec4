import ChangeImpact.Proofs.Channel.Programs
/-!
# How a collection ends

A collection gives a catalog, is interrupted, fails for a reason that its command, its interval or
its analyzer gives, or waits for an analyzer that neither ends nor signals. Meanwhile the scope
around it stays as it was entered.
-/
set_option autoImplicit false

namespace ChangeImpact.Channel

open Program

/-! ## Inside a scope -/

/-- Both signals are trapped and their earlier handlers kept, and the pipe is there or gone. -/
structure Entered (earlier : Signal → EarlierHandler) (state : State) : Prop where
  trapped : ∀ signal, state.handlers signal = .scope
  saved : ∀ signal, state.saved? signal = some (.earlier (earlier signal))
  pipe : state.node = .fifo ∨ state.node = .absent

/-- What holds between the steps of a body: the only analyzer that may run is the one that the
channel knows. -/
structure Inside (earlier : Signal → EarlierHandler) (state : State) : Prop where
  entered : Entered earlier state
  held : state.child = .running → state.held = true
  alone : state.strays = 0

structure Working (earlier : Signal → EarlierHandler) (before state : State) : Prop where
  inside : Inside earlier state
  sameNode : state.node = before.node
  sameCatalogs : state.catalogs = before.catalogs
  sameSignals : state.interrupted = before.interrupted

variable {earlier : Signal → EarlierHandler} {before state : State}

theorem Entered.same {next : State} (entered : Entered earlier state)
    (handlers : next.handlers = state.handlers) (saved : next.saved = state.saved)
    (node : next.node = state.node) : Entered earlier next := by
  refine ⟨?_, ?_, ?_⟩
  · rw [handlers]
    exact entered.trapped
  · unfold State.saved?
    rw [saved]
    exact entered.saved
  · rw [node]
    exact entered.pipe

/-- In a scope only the first signal raises something. -/
theorem Entered.raised (entered : Entered earlier state) {signal : Signal} {failure : Failure}
    (isRaised : state.raised? signal = some failure) :
    state.interrupted = false ∧ failure = .interrupted signal.number ∧
      state.noting signal = state.interrupt := by
  have trapped := entered.trapped signal
  cases interrupted : state.interrupted with
  | true => cases (State.raised?_of_interrupted trapped interrupted).symm.trans isRaised
  | false =>
      cases (State.raised?_of_scope trapped interrupted).symm.trans isRaised
      exact ⟨rfl, rfl, State.noting_of_scope trapped⟩

theorem Inside.interrupt (inside : Inside earlier state) : Inside earlier state.interrupt :=
  ⟨inside.entered.same rfl rfl rfl, inside.held, inside.alone⟩

theorem Inside.endChild (inside : Inside earlier state) :
    Inside earlier { state with child := .ended } :=
  ⟨inside.entered.same rfl rfl rfl, nofun, inside.alone⟩

theorem Inside.startChild (inside : Inside earlier state) (idle : state.child ≠ .running) :
    Inside earlier state.startChild := by
  refine ⟨inside.entered.same rfl rfl rfl, fun _ => rfl, ?_⟩
  have same : state.startChild.strays = state.strays := if_neg idle
  exact same.trans inside.alone

theorem Inside.vanish (inside : Inside earlier state) :
    Inside earlier { state with node := .absent } :=
  ⟨⟨inside.entered.trapped, inside.entered.saved, .inr rfl⟩, inside.held, inside.alone⟩

/-! ## Starting the analyzer -/

theorem eq_script_of_withArgument {launch : Launch} {argument : Text} {steps : List ScriptStep}
    (isScript : launch.withArgument argument = .script steps) : launch = .script steps := by
  unfold Launch.withArgument at isScript
  split at isScript
  · cases isScript
  · split at isScript
    · cases isScript
    · exact isScript

/-- A start that succeeds is that of a script. One that fails opens a place for error output and
nothing else. -/
theorem perform_spawn_cases (state : State) (launch : Launch) :
    (∃ steps, launch = .script steps ∧
      (Step.spawn launch).perform state = (state.startChild, none)) ∨
      ∃ failure,
        (Step.spawn launch).perform state = ({ state with errorsOpen := true }, some failure) := by
  cases launch with
  | script steps => exact .inl ⟨steps, rfl, rfl⟩
  | missing program => exact .inr ⟨_, rfl⟩
  | notExecutable program => exact .inr ⟨_, rfl⟩
  | underFile program => exact .inr ⟨_, rfl⟩
  | nameTooLong program => exact .inr ⟨_, rfl⟩
  | refused failure => exact .inr ⟨_, rfl⟩

/-- The failure of a start, which does not depend on the state of the channel. -/
def startFailure? (launch : Launch) : Option Failure :=
  ((Step.spawn launch).perform (.start [] .absent fun _ => ⟨0, none⟩)).2

theorem startFailure?_eq (state : State) (launch : Launch) :
    ((Step.spawn launch).perform state).2 = startFailure? launch := by
  cases launch <;> rfl

/-! ## The end of a collection -/

inductive CollectionEnd (launch : Launch) (interval : Float) (entry : Text) (before : State) :
    Outcome → State → Prop
  | collects {steps : List ScriptStep} {status : Int} {catalog : Catalog} {state : State}
      (starts : launch = .script steps)
      (exits : (Behaviour.ofSteps steps).ending = .exited status)
      (isRead :
        collect (Behaviour.ofSteps steps).pieces status (Behaviour.ofSteps steps).errorOutput =
        .ok catalog)
      (ended : state.child = .ended) (kept : state.catalogs = before.catalogs ++ [catalog]) :
      CollectionEnd launch interval entry before .completed state
  | interrupted (signal : Signal) (state : State) :
      CollectionEnd launch interval entry before (.failed (.interrupted signal.number)) state
  | notStarted {failure : Failure} {state : State}
      (fails : startFailure? (launch.withArgument entry) = some failure) :
      CollectionEnd launch interval entry before (.failed failure) state
  | noPipe {state : State} (gone : before.node ≠ .fifo) :
      CollectionEnd launch interval entry before
        (.failed (.pipe state.path ("error opening named pipe: " ++ noSuchFile state.path))) state
  | cannotWait {error : WaitError} {state : State} (refuses : waitError? interval = some error) :
      CollectionEnd launch interval entry before (.failed (.badWait error)) state
  | exitsBadly {steps : List ScriptStep} {status : Int} {failure : Failure} {state : State}
      (starts : launch = .script steps)
      (exits : (Behaviour.ofSteps steps).ending = .exited status)
      (isRead :
        collect (Behaviour.ofSteps steps).pieces status (Behaviour.ofSteps steps).errorOutput =
        .error failure) :
      CollectionEnd launch interval entry before (.failed failure) state
  | sendsBadly {steps : List ScriptStep} {failure : Failure} {state : State}
      (starts : launch = .script steps)
      (isBad : earlyFailure? (Behaviour.ofSteps steps).pieces = some failure) :
      CollectionEnd launch interval entry before (.failed failure) state
  | hangs {steps : List ScriptStep} {state : State} (starts : launch = .script steps)
      (goesOn : (Behaviour.ofSteps steps).ending = .hanging ∨ before.interrupted = true) :
      CollectionEnd launch interval entry before .waiting state

section

variable {launch : Launch} {interval : Float} {entry : Text}

theorem CollectionEnd.isEnded (ends : CollectionEnd launch interval entry before .completed state) :
    state.child = .ended := by
  cases ends with
  | collects _ _ _ isEnded _ => exact isEnded

def Concludes (earlier : Signal → EarlierHandler) (launch : Launch) (interval : Float)
    (entry : Text) (before : State) (outcome : Outcome) (state : State) : Prop :=
  Inside earlier state ∧ state.node = before.node ∧
    CollectionEnd launch interval entry before outcome state

theorem Working.concludes_raised (working : Working earlier before state) {signal : Signal}
    {failure : Failure} (isRaised : state.raised? signal = some failure) :
    Concludes earlier launch interval entry before (.failed failure) (state.noting signal) := by
  obtain ⟨-, rfl, same⟩ := working.inside.entered.raised isRaised
  rw [same]
  exact ⟨working.inside.interrupt, working.sameNode, .interrupted signal _⟩

theorem Working.concludes (working : Working earlier before state) {outcome : Outcome}
    (ends : CollectionEnd launch interval entry before outcome state) :
    Concludes earlier launch interval entry before outcome state :=
  ⟨working.inside, working.sameNode, ends⟩

theorem meets_workStep {step : Step} {rest : Program} {first : State → Prop} (middle : State → Prop)
    (works : ∀ state, first state → Working earlier before state)
    (fails : ∀ state failure, first state → (step.perform state).2 = some failure →
      Concludes earlier launch interval entry before (.failed failure) (step.perform state).1)
    (succeeds : ∀ state, first state → (step.perform state).2 = none →
      middle (step.perform state).1)
    (meets : Meets rest middle (Concludes earlier launch interval entry before)) :
    Meets (andThen (single step) rest) first (Concludes earlier launch interval entry before) := by
  refine meets_step middle ?_ fails succeeds meets
  intro state signal failure holds isRaised
  exact (works state holds).concludes_raised isRaised

theorem meets_fail {failure : Failure}
    (ends : ∀ state, CollectionEnd launch interval entry before (.failed failure) state) :
    Meets (single (.fail failure)) (Working earlier before)
      (Concludes earlier launch interval entry before) := by
  apply meets_single
  · intro state signal failure working isRaised
    exact working.concludes_raised isRaised
  · intro state working
    exact working.concludes (ends state)

theorem meets_pause_of_hangs
    (ends : ∀ state, CollectionEnd launch interval entry before .waiting state) :
    Meets pause (Working earlier before) (Concludes earlier launch interval entry before) := by
  apply meets_pause
  · intro state signal failure working isRaised
    exact working.concludes_raised isRaised
  · intro state working
    exact working.concludes (ends state)

section

variable {steps : List ScriptStep}

theorem meets_unlessBad (starts : launch = .script steps) {program : Program}
    (meets : Meets program (Working earlier before)
      (Concludes earlier launch interval entry before)) :
    Meets (unlessBad (Behaviour.ofSteps steps).pieces program) (Working earlier before)
      (Concludes earlier launch interval entry before) := by
  unfold unlessBad
  split
  · rename_i failure isBad
    exact meets_fail fun _ => .sendsBadly starts isBad
  · exact meets

theorem meets_keep {status : Int} {catalog : Catalog} (starts : launch = .script steps)
    (exits : (Behaviour.ofSteps steps).ending = .exited status)
    (isRead :
      collect (Behaviour.ofSteps steps).pieces status (Behaviour.ofSteps steps).errorOutput =
      .ok catalog) :
    Meets (ofSteps [.childEnds, .keep catalog]) (Working earlier before)
      (Concludes earlier launch interval entry before) := by
  refine meets_workStep (fun state => Working earlier before state ∧ state.child = .ended)
    (fun _ working => working) ?_ ?_ ?_
  · intro state failure _ failed
    cases failed
  · intro state working _
    exact ⟨⟨working.inside.endChild, working.sameNode, working.sameCatalogs, working.sameSignals⟩,
      rfl⟩
  · refine meets_workStep (Concludes earlier launch interval entry before .completed)
      (fun _ ended => ended.1) ?_ ?_ ?_
    · intro state failure _ failed
      cases failed
    · intro state ended _
      obtain ⟨⟨inside, sameNode, sameCatalogs, -⟩, isEnded⟩ := ended
      refine ⟨⟨inside.entered.same rfl rfl rfl, inside.held, inside.alone⟩, sameNode, ?_⟩
      exact .collects starts exits isRead isEnded (congrArg (· ++ [catalog]) sameCatalogs)
    · apply meets_done
      intro state concludes
      exact concludes

/-- An analyzer that signals interrupts the collection, unless a signal came before. -/
theorem meets_receive (starts : launch = .script steps) (signal : Signal) :
    Meets (andThen (single (.receive signal)) pause) (Working earlier before)
      (Concludes earlier launch interval entry before) := by
  refine meets_workStep (fun state => Working earlier before state ∧ before.interrupted = true)
    (fun _ working => working) ?_ ?_ ?_
  · intro state failure working failed
    rcases State.deliver_cases state [signal] with
      ⟨-, delivered⟩ | ⟨other, -, raised, isRaised, delivered⟩
    · simp only [Step.perform_receive, delivered] at failed
      cases failed
    · simp only [Step.perform_receive, delivered] at failed ⊢
      cases failed
      exact working.concludes_raised isRaised
  · intro state working succeeded
    -- In a scope a signal is ignored only after another one.
    rcases State.deliver_cases state [signal] with
      ⟨ignored, delivered⟩ | ⟨other, -, raised, -, delivered⟩
    · have isInterrupted : state.interrupted = true := by
        cases interrupted : state.interrupted with
        | true => rfl
        | false =>
            have raises :=
              State.raised?_of_scope (working.inside.entered.trapped signal) interrupted
            cases raises.symm.trans (ignored signal (List.mem_singleton_self signal))
      simp only [Step.perform_receive, delivered]
      exact ⟨working, working.sameSignals.symm.trans isInterrupted⟩
    · simp only [Step.perform_receive, delivered] at succeeded
      cases succeeded
  · intro state schedule holds
    exact meets_pause_of_hangs (fun _ => .hangs starts (.inr holds.2)) state schedule holds.1

theorem meets_launched (starts : launch = .script steps) :
    Meets (launched launch) (Working earlier before)
      (Concludes earlier launch interval entry before) := by
  have isLaunched : launched launch = exchange (.ofSteps steps) := by rw [starts, launched]
  rw [isLaunched]
  unfold exchange
  split
  · rename_i status exits
    split
    · rename_i catalog isRead
      exact meets_keep starts exits isRead
    · rename_i failure isRead
      exact meets_fail fun _ => .exitsBadly starts exits isRead
  · rename_i hanging
    apply meets_unlessBad starts
    apply meets_pause_of_hangs
    intro state
    exact .hangs starts (.inl hanging)
  · rename_i signal _
    apply meets_unlessBad starts
    exact meets_receive starts signal

end

/-- After the start: the pipe is opened, and then the system waits or cannot. -/
theorem meets_afterStart {steps : List ScriptStep} (starts : launch = .script steps) :
    Meets (andThen (single .openPipe)
        (match waitError? interval with
        | some error => single (.fail (.badWait error))
        | none => andThen (single (.begin entry)) (launched launch)))
      (Working earlier before) (Concludes earlier launch interval entry before) := by
  refine meets_workStep (Working earlier before) (fun _ working => working) ?_ ?_ ?_
  · intro state failure working failed
    by_cases isPipe : state.node = .fifo
    · simp only [Step.perform_openPipe, if_pos isPipe] at failed
      cases failed
    · simp only [Step.perform_openPipe, if_neg isPipe] at failed ⊢
      cases failed
      exact working.concludes (.noPipe fun same => isPipe (working.sameNode.trans same))
  · intro state working succeeded
    by_cases isPipe : state.node = .fifo
    · simp only [Step.perform_openPipe, if_pos isPipe]
      exact working
    · simp only [Step.perform_openPipe, if_neg isPipe] at succeeded
      cases succeeded
  · split
    · rename_i error refuses
      exact meets_fail fun _ => .cannotWait refuses
    · refine meets_workStep (Working earlier before) (fun _ working => working) ?_ ?_
        (meets_launched starts)
      · intro state failure _ failed
        cases failed
      · intro state working _
        obtain ⟨inside, sameNode, sameCatalogs, sameSignals⟩ := working
        exact ⟨⟨inside.entered.same rfl rfl rfl, inside.held, inside.alone⟩,
          sameNode, sameCatalogs, sameSignals⟩

theorem meets_collecting :
    Meets (collecting launch interval entry)
      (fun state => Working earlier before state ∧ state.child ≠ .running)
      (Concludes earlier launch interval entry before) := by
  refine meets_workStep (fun state => Working earlier before state ∧
    ∃ steps, launch = .script steps)
    (fun _ holds => holds.1) ?_ ?_ ?_
  · intro state failure holds failed
    obtain ⟨⟨inside, sameNode, -, -⟩, -⟩ := holds
    rcases perform_spawn_cases state (launch.withArgument entry) with
      ⟨_, -, performed⟩ | ⟨other, performed⟩
    · rw [performed] at failed
      cases failed
    · have fails : startFailure? (launch.withArgument entry) = some failure := by
        rw [← startFailure?_eq state, failed]
      rw [performed]
      exact ⟨⟨inside.entered.same rfl rfl rfl, inside.held, inside.alone⟩, sameNode,
        .notStarted fails⟩
  · intro state holds succeeded
    obtain ⟨⟨inside, sameNode, sameCatalogs, sameSignals⟩, idle⟩ := holds
    rcases perform_spawn_cases state (launch.withArgument entry) with
      ⟨steps, isScript, performed⟩ | ⟨other, performed⟩
    · rw [performed]
      exact ⟨⟨inside.startChild idle, sameNode, sameCatalogs, sameSignals⟩, steps,
        eq_script_of_withArgument isScript⟩
    · rw [performed] at succeeded
      cases succeeded
  · intro state schedule holds
    obtain ⟨working, steps, starts⟩ := holds
    exact meets_afterStart starts state schedule working

/-- How a collection in a scope ends, whatever signals arrive. -/
theorem collecting_concludes (inside : Inside earlier state) (idle : state.child ≠ .running)
    (launch : Launch) (interval : Float) (entry : Text) (schedule : Schedule) :
    Concludes earlier launch interval entry state
      ((collecting launch interval entry).run state schedule).outcome
      ((collecting launch interval entry).run state schedule).state :=
  meets_collecting state schedule ⟨⟨inside, rfl, rfl, rfl⟩, idle⟩

end

end ChangeImpact.Channel
