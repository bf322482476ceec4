import ChangeImpact.Proofs.Channel.Cleanup
/-!
# How a collection in a scope ends

Whatever signals arrive, a collection in a scope of its own ends because its command is empty,
because no pipe can be made, because of what a signal raises, or as the collection itself does; then
its catalog is that of the collection.
-/
set_option autoImplicit false

namespace ChangeImpact.Channel

open Program

/-- What a signal can raise in a scope, which has one of the handlers from before or its own. -/
inductive RaisedBy (earlier : Signal → EarlierHandler) : Failure → Prop
  | scope (signal : Signal) : RaisedBy earlier (.interrupted signal.number)
  | earlier {signal : Signal} {failure : Failure}
      (raises : (earlier signal).raised = some failure) : RaisedBy earlier failure

inductive ScopeEnd (command : List Text) (path : Text) (node : PipeNode)
    (earlier : Signal → EarlierHandler) (launch : Launch) (interval : Float) (entry : Text) :
    Outcome → State → Prop
  | emptyCommand {state : State} (isEmpty : command = []) :
      ScopeEnd command path node earlier launch interval entry (.failed .emptyCommand) state
  | notEntered {failure : Failure} {state : State} (refuses : node.refusal? path = some failure) :
      ScopeEnd command path node earlier launch interval entry (.failed failure) state
  | interrupted {failure : Failure} {state : State} (raised : RaisedBy earlier failure) :
      ScopeEnd command path node earlier launch interval entry (.failed failure) state
  | collection {outcome : Outcome} {inner state : State}
      (ends : CollectionEnd launch interval entry (State.start path node earlier).entered outcome
        inner)
      (same : state.catalogs = inner.catalogs) :
      ScopeEnd command path node earlier launch interval entry outcome state

variable {command : List Text} {path : Text} {node : PipeNode} {earlier : Signal → EarlierHandler}
  {launch : Launch} {interval : Float} {entry : Text} {state : State}

/-! ## Handlers -/

/-- Every signal goes to the scope or to its handler from before, and no other handler is kept. -/
structure Known (earlier : Signal → EarlierHandler) (state : State) : Prop where
  handled : ∀ signal, state.handlers signal = .scope ∨
    state.handlers signal = .earlier (earlier signal)
  kept : ∀ signal handler, state.saved? signal = some handler → handler = .earlier (earlier signal)

theorem known_start (path : Text) (node : PipeNode) (earlier : Signal → EarlierHandler) :
    Known earlier (.start path node earlier) :=
  ⟨fun _ => .inr rfl, nofun⟩

theorem Entered.known (entered : Entered earlier state) : Known earlier state := by
  refine ⟨fun signal => .inl (entered.trapped signal), ?_⟩
  intro signal handler isSaved
  exact Option.some.inj (isSaved.symm.trans (entered.saved signal))

theorem Known.raised {signal : Signal} {failure : Failure} (known : Known earlier state)
    (isRaised : state.raised? signal = some failure) : RaisedBy earlier failure := by
  rcases known.handled signal with trapped | isEarlier
  · cases interrupted : state.interrupted with
    | true => cases isRaised.symm.trans (State.raised?_of_interrupted trapped interrupted)
    | false =>
        cases isRaised.symm.trans (State.raised?_of_scope trapped interrupted)
        exact .scope signal
  · exact .earlier ((State.raised?_of_earlier isEarlier).symm.trans isRaised)

theorem Known.same {next : State} (known : Known earlier state)
    (handlers : next.handlers = state.handlers) (saved : next.saved = state.saved) :
    Known earlier next := by
  obtain ⟨handled, kept⟩ := known
  refine ⟨by rwa [handlers], ?_⟩
  unfold State.saved?
  rw [saved]
  exact kept

theorem Known.noting (known : Known earlier state) (signal : Signal) :
    Known earlier (state.noting signal) :=
  known.same rfl rfl

theorem Known.trap_interrupt (path : Text) (earlier : Signal → EarlierHandler) :
    Known earlier ((Step.trap .interrupt).perform (.start path .fifo earlier)).1 := by
  constructor
  · intro signal
    cases signal with
    | interrupt => exact .inl rfl
    | terminate => exact .inr rfl
  · intro signal handler isSaved
    cases signal <;> cases isSaved
    rfl

theorem Known.restore {signal : Signal} {handler : Handler} (known : Known earlier state)
    (isSaved : state.saved? signal = some handler) :
    Known earlier (state.handle signal handler) := by
  refine ⟨?_, known.kept⟩
  intro other
  by_cases isSame : other = signal
  · right
    rw [isSame, ← known.kept signal handler isSaved]
    exact if_pos rfl
  · have same : (state.handle signal handler).handlers other = state.handlers other :=
      if_neg isSame
    rw [same]
    exact known.handled other

/-! ## Entering -/

/-- A scope is entered, or refused, or a signal raises something before both are trapped. -/
def EnterEnd (path : Text) (node : PipeNode) (earlier : Signal → EarlierHandler) :
    Outcome → State → Prop
  | .completed, state => state = (State.start path node earlier).entered
  | .failed failure, state =>
      (node.refusal? path = some failure ∨ RaisedBy earlier failure) ∧ Known earlier state
  | .waiting, _ => False

theorem EnterEnd.raised {signal : Signal} {failure : Failure} (known : Known earlier state)
    (isRaised : state.raised? signal = some failure) :
    EnterEnd path node earlier (.failed failure) (state.noting signal) :=
  ⟨.inr (known.raised isRaised), known.noting signal⟩

theorem meets_trapping :
    Meets (onFailure (ofSteps [.trap .interrupt, .trap .terminate]) (single .removePipe))
      (· = State.start path .fifo earlier) (EnterEnd path node earlier) := by
  refine meets_onFailure (EnterEnd path node earlier) ?_ (fun _ _ _ ended => ended) ?_
  · refine meets_step (· = ((Step.trap .interrupt).perform (.start path .fifo earlier)).1)
      ?_ ?_ ?_ ?_
    · intro state signal failure same isRaised
      rw [same] at isRaised ⊢
      exact .raised (known_start path .fifo earlier) isRaised
    · intro state failure _ failed
      cases failed
    · intro state same _
      rw [same]
    · refine meets_step (· = (State.start path node earlier).entered) ?_ ?_ ?_ ?_
      · intro state signal failure same isRaised
        rw [same] at isRaised ⊢
        exact .raised (.trap_interrupt path earlier) isRaised
      · intro state failure _ failed
        cases failed
      · intro state same _
        rw [same, trapped_eq_entered]
      · apply meets_done
        intro state same
        exact same
  · intro failure
    apply meets_single
    · intro state signal raised ended isRaised
      exact .raised ended.2 isRaised
    · intro state ended
      rw [Step.perform_removePipe]
      split <;> exact ⟨ended.1, ended.2.same rfl rfl⟩

theorem meets_making (makes : node.refusal? path = none) :
    Meets (ofSteps [.removeStale, .makePipe]) (· = State.start path node earlier)
      fun outcome state => if outcome = .completed then state = .start path .fifo earlier
        else EnterEnd path node earlier outcome state := by
  have raised (node other : PipeNode) (state : State) (signal : Signal) (failure : Failure)
      (same : state = .start path other earlier) (isRaised : state.raised? signal = some failure) :
      EnterEnd path node earlier (.failed failure) (state.noting signal) := by
    rw [same] at isRaised ⊢
    exact .raised (known_start path other earlier) isRaised
  refine meets_step (· = State.start path .absent earlier) (raised node node) ?_ ?_ ?_
  · intro state failure same failed
    rw [same] at failed
    cases node with
    | absent | file | fifo => cases failed
    | directory | underFile | nameTooLong | noParent => cases makes
  · intro state same _
    rw [same]
    cases node with
    | absent | file | fifo => rfl
    | directory | underFile | nameTooLong | noParent => cases makes
  · refine meets_step (· = State.start path .fifo earlier) (raised node .absent) ?_ ?_ ?_
    · intro state failure same failed
      rw [same] at failed
      cases failed
    · intro state same _
      rw [same]
      rfl
    · apply meets_done
      intro state same
      exact same

theorem meets_enter :
    Meets enter (· = State.start path node earlier) (EnterEnd path node earlier) := by
  cases refuses : node.refusal? path with
  | none => exact meets_andThen _ (meets_making refuses) meets_trapping
  | some failure =>
      intro state schedule same
      rw [same, (enter_of_refusal refuses earlier schedule).1,
        (enter_of_refusal refuses earlier schedule).2]
      refine ⟨?_, known_start path node earlier⟩
      -- What comes first is a failure of an earlier handler or the refusal.
      have raisedBy {signals : List Signal} {raised : Failure}
          (raises : earlierRaise? earlier signals = some raised) : RaisedBy earlier raised := by
        obtain ⟨signal, -, isRaised⟩ := List.exists_of_findSome?_eq_some raises
        exact .earlier isRaised
      cases first : earlierRaise? earlier schedule.next with
      | some raised => exact .inr (raisedBy first)
      | none =>
          rw [Option.getD_none]
          split
          · cases second : earlierRaise? earlier (schedule.before 1) with
            | some raised => exact .inr (raisedBy second)
            | none => exact .inl refuses
          · exact .inl refuses

/-! ## Leaving -/

def Leaving (earlier : Signal → EarlierHandler) (catalogs : List Catalog) (state : State) : Prop :=
  state.catalogs = catalogs ∧ Known earlier state

theorem tame_leave (catalogs : List Catalog) : leave.Tame (Leaving earlier catalogs) := by
  have removes (state : State) (leaving : Leaving earlier catalogs state) :
      (Step.removePipe.perform state).2 = none ∧
        Leaving earlier catalogs (Step.removePipe.perform state).1 := by
    rw [Step.perform_removePipe]
    split <;> exact ⟨rfl, leaving.1, leaving.2.same rfl rfl⟩
  have restores (signal : Signal) (state : State) (leaving : Leaving earlier catalogs state) :
      ((Step.restore signal).perform state).2 = none ∧
        Leaving earlier catalogs ((Step.restore signal).perform state).1 := by
    rw [Step.perform_restore]
    cases isSaved : state.saved? signal with
    | none => exact ⟨rfl, leaving⟩
    | some handler => exact ⟨rfl, leaving.1, leaving.2.restore isSaved⟩
  refine ⟨⟨?_, ⟨?_, ?_, trivial⟩, ?_⟩, removes, restores .interrupt, restores .terminate, ?_,
    trivial⟩
  · intro state leaving
    exact ⟨rfl, leaving.1, leaving.2.same rfl rfl⟩
  · intro state leaving
    exact ⟨rfl, leaving.1, leaving.2.same rfl rfl⟩
  · intro state leaving
    exact ⟨rfl, leaving.1, leaving.2.same rfl rfl⟩
  · intro state leaving
    exact ⟨rfl, leaving.1, leaving.2.same rfl rfl⟩
  · intro state leaving
    exact ⟨rfl, leaving.1, leaving.2.handled, nofun⟩

/-- Only what a signal raises can end the leaving, and the catalogs stay. -/
theorem meets_leave (catalogs : List Catalog) :
    Meets leave (Leaving earlier catalogs) fun outcome state =>
      Leaving earlier catalogs state ∧ Only (RaisedBy earlier) outcome := by
  apply Tame.meets _ (tame_leave catalogs)
  intro state signal failure leaving isRaised
  exact ⟨leaving.2.raised isRaised, leaving.1, leaving.2.noting signal⟩

/-! ## Scopes -/

theorem meets_body : Meets (acting interval [.collect launch entry])
    (· = (State.start path node earlier).entered)
    (Concludes earlier launch interval entry (State.start path node earlier).entered) := by
  refine meets_andThen (Concludes earlier launch interval entry
    (State.start path node earlier).entered .completed) ?_ ?_
  · intro state schedule same
    rw [same]
    have concludes := collecting_concludes (inside_entered path node earlier) nofun launch interval
      entry schedule
    split
    · rename_i isCompleted
      exact isCompleted ▸ concludes
    · exact concludes
  · apply meets_done
    intro state concludes
    exact concludes

/-- The body concludes, and then the scope is left without a failure of its own. -/
theorem meets_scope : Meets (scope (acting interval [.collect launch entry]))
    (· = State.start path node earlier)
    (ScopeEnd command path node earlier launch interval entry) := by
  refine meets_andThen (· = (State.start path node earlier).entered) ?_ ?_
  · refine meets_enter.weaken (fun _ same => same) ?_
    intro outcome state ended
    cases outcome with
    | completed => exact ended
    | failed failure =>
        rcases ended.1 with refuses | raised
        · exact .notEntered refuses
        · exact .interrupted raised
    | waiting => cases ended
  · refine meets_ensuring _ meets_body (fun _ concludes => .collection concludes.2.2 rfl) ?_
    intro first _ state schedule concludes
    obtain ⟨⟨same, -⟩, only⟩ := meets_leave state.catalogs state schedule
      ⟨rfl, concludes.1.entered.known⟩
    rcases only with isCompleted | ⟨failure, raised, isFailed⟩
    · rw [isCompleted]
      exact .collection concludes.2.2 same
    · rw [isFailed]
      exact .interrupted raised

theorem withChannel_ends (command : List Text) (path : Text) (node : PipeNode)
    (earlier : Signal → EarlierHandler) (launch : Launch) (interval : Float) (entry : Text)
    (schedule : Schedule) :
    let result := withChannel command (.start path node earlier) schedule
      (acting interval [.collect launch entry])
    ScopeEnd command path node earlier launch interval entry result.outcome result.state := by
  intro result
  by_cases isEmpty : command = []
  · have same : result = ⟨.start path node earlier, schedule, .failed .emptyCommand⟩ := by
      simp [result, withChannel, isEmpty]
    rw [same]
    exact .emptyCommand isEmpty
  · have same : result = (scope (acting interval [.collect launch entry])).run
        (.start path node earlier) schedule := by
      simp [result, withChannel, isEmpty]
    rw [same]
    exact meets_scope _ schedule rfl

end ChangeImpact.Channel
