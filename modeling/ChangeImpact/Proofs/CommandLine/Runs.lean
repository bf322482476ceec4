import ChangeImpact.CommandLine.Run
import ChangeImpact.Proofs.Channel.AllOrNothing
import ChangeImpact.Proofs.Channel.Delivery
import ChangeImpact.Proofs.Channel.Scopes
import ChangeImpact.Proofs.Console.Printing
/-!
# How a run ends

A run ends at one of seven places. It touches the pipe and starts the analyzer only after it has
opened the project, announced it and resolved both ends of the range; it prints the report only when
it has the whole catalog and the impact of the patch.
-/
set_option autoImplicit false

namespace ChangeImpact

namespace Channel

open Wire (Carries)

/-! ## Complete catalogs -/

theorem finish_mem_of_exited {steps : List ScriptStep} {status : Int}
    (exits : (Behaviour.ofSteps steps).ending = .exited status) :
    .finish ∈ (Behaviour.ofSteps steps).moves := by
  induction steps with
  | nil => exact List.mem_singleton_self _
  | cons step rest ih =>
      cases step with
      | openPipe | put bytes | closePipe | write bytes =>
          exact List.mem_append_right _ (ih exits)
      | writeError bytes => exact ih exits
      | exit status | die signal => exact List.mem_singleton_self _
      | hang | signalReader signal => cases exits

/-- A catalog of all that was written by an analyzer which then ended with status 0. -/
def Complete (steps : List ScriptStep) (catalog : Catalog) : Prop :=
  (Behaviour.ofSteps steps).ending = .exited 0 ∧
    ∃ batches, Carries (AnalyzerMove.bytes (Behaviour.ofSteps steps).moves) batches ∧
      catalog.functions = batches.flatten ∧ catalog.batches = batches.length

theorem CollectionEnd.complete {launch : Launch} {interval : Float} {entry : Text}
    {before state : State} (ends : CollectionEnd launch interval entry before .completed state) :
    ∃ steps catalog, launch = .script steps ∧ Complete steps catalog ∧
      state.catalogs = before.catalogs ++ [catalog] := by
  cases ends with
  | @collects steps status catalog _ starts exits isRead _ kept =>
      obtain ⟨isZero, batches, carries, functions, count⟩ := (collect_eq_ok_iff ..).mp isRead
      have isWritten : (Behaviour.ofSteps steps).pieces.flatten = _ :=
        Exchange.flatten_pieces_ofMoves (finish_mem_of_exited exits)
      rw [isWritten] at carries
      rw [isZero] at exits
      exact ⟨steps, catalog, starts, ⟨exits, batches, carries, functions, count⟩, kept⟩

end Channel

namespace Run

open Channel (Complete)

/-- What has to hold before a run touches anything. -/
structure Checks (world : World) (target : Target) (project : Project) (header base head : Text) :
    Prop where
  opened : openProject world target.path = .ok project
  announced : world.terminal.printAll (project.announcement world target) = (header, none)
  headResolved : project.repository.resolve target.head.ref.text = .ok head
  baseResolved : project.repository.resolve target.base.ref.text = .ok base

structure Collected (world : World) (settings : Settings) (project : Project)
    (catalog : Catalog) : Prop where
  completed : (collectCatalog world settings (project.entry world)).outcome = .completed
  kept : (collectCatalog world settings (project.entry world)).state.catalogs = [catalog]
  complete : ∃ steps, world.launch settings.command.program = .script steps ∧
    Complete steps catalog

/-- A run has what it reports: the impact on the whole catalog of the patch that the repository gave
from the base to the head. -/
structure Computed (world : World) (settings : Settings) (target : Target) (project : Project)
    (header base head : Text) (catalog : Catalog) (impact : Impact) : Prop where
  checks : Checks world target project header base head
  collected : Collected world settings project catalog
  isImpact : ∃ output, project.repository.diff = .bytes output ∧
    Impact.ofText world.room catalog settings.pathPolicy
      (DiffRequest.endLine (Utf8.decodeLossy output)) = .ok impact

def question (settings : Settings) (base head : Text) : DiffRequest :=
  ⟨base, head, settings.contextLines⟩

def printed (world : World) (target : Target) (impact : Impact) : Text × Option Failure :=
  world.terminal.printAll (Console.reportItems impact target.range)

/-- The seven ways in which a run ends. -/
inductive RunEnd (world : World) (settings : Settings) (target : Target) : Run → Prop
  | notOpened {failure : Failure} (fails : openProject world target.path = .error failure) :
      RunEnd world settings target ⟨[], none, [], .failed failure⟩
  | notAnnounced {project : Project} {header : Text} {failure : Failure}
      (opened : openProject world target.path = .ok project)
      (fails : world.terminal.printAll (project.announcement world target) =
        (header, some failure)) :
      RunEnd world settings target ⟨header, none, [], .failed failure⟩
  | headUnresolved {project : Project} {header : Text} {failure : Failure}
      (opened : openProject world target.path = .ok project)
      (announced : world.terminal.printAll (project.announcement world target) = (header, none))
      (fails : project.repository.resolve target.head.ref.text = .error failure) :
      RunEnd world settings target ⟨header, none, [], .failed failure⟩
  | baseUnresolved {project : Project} {header head : Text} {failure : Failure}
      (opened : openProject world target.path = .ok project)
      (announced : world.terminal.printAll (project.announcement world target) = (header, none))
      (headResolved : project.repository.resolve target.head.ref.text = .ok head)
      (fails : project.repository.resolve target.base.ref.text = .error failure) :
      RunEnd world settings target ⟨header, none, [], .failed failure⟩
  | notCollected {project : Project} {header base head : Text}
      (checks : Checks world target project header base head)
      (fails : (collectCatalog world settings (project.entry world)).outcome ≠ .completed) :
      RunEnd world settings target
        ⟨header, some (collectCatalog world settings (project.entry world)).state, [],
          (collectCatalog world settings (project.entry world)).outcome⟩
  | notComputed {project : Project} {header base head : Text} {catalog : Catalog}
      {failure : Failure} (checks : Checks world target project header base head)
      (collected : Collected world settings project catalog)
      (fails : (question settings base head).impact project.repository.diff world.room catalog
        settings.pathPolicy = .error failure) :
      RunEnd world settings target
        ⟨header, some (collectCatalog world settings (project.entry world)).state,
          [question settings base head], .failed failure⟩
  | computed {project : Project} {header base head : Text} {catalog : Catalog} {impact : Impact}
      (computed : Computed world settings target project header base head catalog impact) :
      RunEnd world settings target
        ⟨header ++ (printed world target impact).1,
          some (collectCatalog world settings (project.entry world)).state,
          [question settings base head], .ofFailure? (printed world target impact).2⟩

def pipePath (settings : Settings) : Text :=
  Path.tidy settings.pipePath.text

theorem collectCatalog_ends (world : World) (settings : Settings) (entry : Text) :
    Channel.ScopeEnd settings.command.words (pipePath settings)
      (world.pipeNode (pipePath settings)) firstHandlers (world.launch settings.command.program)
      settings.pollInterval entry (collectCatalog world settings entry).outcome
      (collectCatalog world settings entry).state := by
  unfold collectCatalog channelBefore pipePath
  apply Channel.withChannel_ends

theorem exists_collected {world : World} {settings : Settings} {project : Project}
    (completed : (collectCatalog world settings (project.entry world)).outcome = .completed) :
    ∃ catalog, Collected world settings project catalog := by
  have ends := collectCatalog_ends world settings (project.entry world)
  rw [completed] at ends
  cases ends with
  | collection ends same =>
      obtain ⟨steps, catalog, starts, complete, kept⟩ := ends.complete
      exact ⟨catalog, completed, same.trans kept, steps, starts, complete⟩

theorem impact_eq_ok_iff {request : DiffRequest} {reply : DiffReply} {room : Nat}
    {catalog : Catalog} {policy : PathPolicy} {impact : Impact} :
    request.impact reply room catalog policy = .ok impact ↔
      ∃ output, reply = .bytes output ∧
        Impact.ofText room catalog policy (DiffRequest.endLine (Utf8.decodeLossy output)) =
          .ok impact := by
  unfold DiffRequest.impact
  cases reply with
  | bytes output => simp [DiffRequest.text]
  | failed status errorText => simp [DiffRequest.text]
  | interrupted => simp [DiffRequest.text]

section

variable {world : World} {settings : Settings} {target : Target} {project : Project}
  {header base head : Text} {catalog : Catalog} {impact : Impact} {result : Run}

theorem afterHeader_ends (opened : openProject world target.path = .ok project)
    (announced : world.terminal.printAll (project.announcement world target) = (header, none)) :
    RunEnd world settings target (afterHeader world settings target project header) := by
  unfold afterHeader resolveRange
  cases headResolved : project.repository.resolve target.head.ref.text with
  | error failure =>
      simp only
      exact .headUnresolved opened announced headResolved
  | ok head =>
      cases baseResolved : project.repository.resolve target.base.ref.text with
      | error failure =>
          simp only
          exact .baseUnresolved opened announced headResolved baseResolved
      | ok base =>
          have checks : Checks world target project header base head :=
            ⟨opened, announced, headResolved, baseResolved⟩
          simp only
          -- A collection that completed has left a catalog, so the run never stops for want of one.
          by_cases completed :
              (collectCatalog world settings (project.entry world)).outcome = .completed
          · obtain ⟨catalog, collected⟩ := exists_collected completed
            simp only [completed, collected.kept]
            cases isImpact : DiffRequest.impact ⟨base, head, settings.contextLines⟩
                project.repository.diff world.room catalog settings.pathPolicy with
            | error failure => exact .notComputed checks collected isImpact
            | ok impact => exact .computed ⟨checks, collected, impact_eq_ok_iff.mp isImpact⟩
          · split
            · rename_i isCompleted _
              exact absurd isCompleted completed
            · exact .notCollected checks completed

theorem run_ends (world : World) (settings : Settings) (target : Target) :
    RunEnd world settings target (run world settings target) := by
  unfold run
  split
  · rename_i failure fails
    exact .notOpened fails
  · rename_i project opened
    split
    · rename_i header failure fails
      exact .notAnnounced opened fails
    · rename_i header announced
      exact afterHeader_ends opened announced

/-! ## The order of a run -/

def channelAfter (result : Run) (world : World) (settings : Settings) : Channel.State :=
  result.channel.getD (channelBefore world settings)

/-- A run that leaves the channel and the repository alone: what is at the path of the pipe stays,
and no analyzer is started. -/
def Untouched (result : Run) (world : World) (settings : Settings) : Prop :=
  result.channelAfter world settings = channelBefore world settings ∧ result.requests = []

theorem RunEnd.untouched_or_checks (ends : RunEnd world settings target result) :
    result.Untouched world settings ∨
      ∃ project header base head, Checks world target project header base head := by
  cases ends with
  | notOpened _ => exact .inl ⟨rfl, rfl⟩
  | notAnnounced _ _ => exact .inl ⟨rfl, rfl⟩
  | headUnresolved _ _ _ => exact .inl ⟨rfl, rfl⟩
  | baseUnresolved _ _ _ _ => exact .inl ⟨rfl, rfl⟩
  | notCollected checks _ => exact .inr ⟨_, _, _, _, checks⟩
  | notComputed checks _ _ => exact .inr ⟨_, _, _, _, checks⟩
  | computed computed => exact .inr ⟨_, _, _, _, computed.checks⟩

theorem Checks.passed {other : Project} (checks : Checks world target other header base head)
    (opened : openProject world target.path = .ok project) :
    world.terminal.printAll (project.announcement world target) = (header, none) ∧
      project.repository.resolve target.head.ref.text = .ok head ∧
      project.repository.resolve target.base.ref.text = .ok base := by
  cases checks.opened.symm.trans opened
  exact ⟨checks.announced, checks.headResolved, checks.baseResolved⟩

theorem RunEnd.output_of_not_computed (ends : RunEnd world settings target result)
    (opened : openProject world target.path = .ok project)
    (notComputed : ∀ header base head catalog impact,
      ¬Computed world settings target project header base head catalog impact) :
    result.output = (world.terminal.printAll (project.announcement world target)).1 := by
  cases ends with
  | notOpened fails => cases fails.symm.trans opened
  | notAnnounced isOpened fails =>
      cases isOpened.symm.trans opened
      rw [fails]
  | headUnresolved isOpened announced _ =>
      cases isOpened.symm.trans opened
      rw [announced]
  | baseUnresolved isOpened announced _ _ =>
      cases isOpened.symm.trans opened
      rw [announced]
  | notCollected checks _ => rw [(checks.passed opened).1]
  | notComputed checks _ _ => rw [(checks.passed opened).1]
  | computed computed =>
      cases computed.checks.opened.symm.trans opened
      exact absurd computed (notComputed _ _ _ _ _)

theorem RunEnd.untouched_of_fails (ends : RunEnd world settings target result)
    (opened : openProject world target.path = .ok project) {failure : Failure}
    (fails : (world.terminal.printAll (project.announcement world target)).2 = some failure ∨
      project.repository.resolve target.head.ref.text = .error failure ∨
      project.repository.resolve target.base.ref.text = .error failure) :
    result.Untouched world settings := by
  rcases ends.untouched_or_checks with untouched | ⟨_, _, _, _, checks⟩
  · exact untouched
  · obtain ⟨announced, headResolved, baseResolved⟩ := checks.passed opened
    simp [announced, headResolved, baseResolved] at fails

theorem run_of_notOpened {failure : Failure}
    (fails : openProject world target.path = .error failure) :
    run world settings target = ⟨[], none, [], .failed failure⟩ := by
  unfold run
  simp only [fails]

theorem run_of_announced (opened : openProject world target.path = .ok project)
    (announced : (world.terminal.printAll (project.announcement world target)).2 = none) :
    run world settings target =
      afterHeader world settings target project
        (world.terminal.printAll (project.announcement world target)).1 := by
  have same : world.terminal.printAll (project.announcement world target) =
      ((world.terminal.printAll (project.announcement world target)).1, none) := by
    rw [← announced]
  unfold run
  simp only [opened]
  rw [same]

theorem outcome_of_headUnresolved {failure : Failure}
    (opened : openProject world target.path = .ok project)
    (announced : (world.terminal.printAll (project.announcement world target)).2 = none)
    (fails : project.repository.resolve target.head.ref.text = .error failure) :
    (run world settings target).outcome = .failed failure := by
  rw [run_of_announced opened announced]
  unfold afterHeader resolveRange
  simp only [fails]

theorem outcome_of_baseUnresolved {failure : Failure}
    (opened : openProject world target.path = .ok project)
    (announced : (world.terminal.printAll (project.announcement world target)).2 = none)
    (resolved : project.repository.resolve target.head.ref.text = .ok head)
    (fails : project.repository.resolve target.base.ref.text = .error failure) :
    (run world settings target).outcome = .failed failure := by
  rw [run_of_announced opened announced]
  unfold afterHeader resolveRange
  simp only [resolved, fails]

theorem run_of_computed
    (computed : Computed world settings target project header base head catalog impact) :
    run world settings target =
      ⟨header ++ (printed world target impact).1,
        some (collectCatalog world settings (project.entry world)).state,
        [question settings base head], .ofFailure? (printed world target impact).2⟩ := by
  obtain ⟨checks, collected, isImpact⟩ := computed
  have isAnswer : DiffRequest.impact ⟨base, head, settings.contextLines⟩ project.repository.diff
      world.room catalog settings.pathPolicy = .ok impact := impact_eq_ok_iff.mpr isImpact
  rw [run_of_announced checks.opened (congrArg Prod.snd checks.announced)]
  unfold afterHeader resolveRange
  simp only [checks.headResolved, checks.baseResolved, collected.completed, collected.kept,
    isAnswer, checks.announced]
  rfl

theorem outcome_ofFailure?_eq_completed_iff {failure : Option Failure} :
    Outcome.ofFailure? failure = .completed ↔ failure = none := by
  cases failure <;> simp [Outcome.ofFailure?]

theorem printed_eq_none_iff {text : Text} :
    printed world target impact = (text, none) ↔
      world.terminal.console.printReport impact target.range = .ok text ∧
        world.terminal.refusal? text = none :=
  Terminal.printAll_eq_none_iff

theorem RunEnd.exists_report (ends : RunEnd world settings target result)
    (completed : result.outcome = .completed) :
    ∃ project header base head catalog impact text,
      Computed world settings target project header base head catalog impact ∧
      result.requests = [question settings base head] ∧
      world.terminal.console.printReport impact target.range = .ok text ∧
      world.terminal.refusal? text = none ∧ result.output = header ++ text := by
  cases ends with
  | notOpened _ | notAnnounced _ _ | headUnresolved _ _ _ | baseUnresolved _ _ _ _ =>
      cases completed
  | notCollected _ fails => exact absurd completed fails
  | notComputed _ _ _ => cases completed
  | @computed project header base head catalog impact computed =>
      have isNone := outcome_ofFailure?_eq_completed_iff.mp completed
      obtain ⟨isText, taken⟩ := printed_eq_none_iff.mp (Prod.ext rfl isNone)
      exact ⟨_, _, _, _, _, _, _, computed, rfl, isText, taken, rfl⟩

theorem outcome_of_reports
    (computed : Computed world settings target project header base head catalog impact)
    {text : Text} (isText : world.terminal.console.printReport impact target.range = .ok text)
    (taken : world.terminal.refusal? text = none) :
    (run world settings target).outcome = .completed := by
  rw [run_of_computed computed, printed_eq_none_iff.mpr ⟨isText, taken⟩]
  rfl

end

/-- A run touches the pipe and the analyzer only after its checks; of two references that cannot be
resolved it names the head; a run that has no whole catalog or no impact of the patch prints no line
of a report, and one that has both prints the report and ends as the printing does. It completes if
and only if all of the report of the whole catalog and of the patch from the base to the head is
printed. -/
theorem run_order (world : World) (settings : Settings) (target : Target) :
    let result := run world settings target
    (∀ failure, openProject world target.path = .error failure →
      result.Untouched world settings ∧ result.output = [] ∧ result.outcome = .failed failure) ∧
    (∀ project, openProject world target.path = .ok project →
      let header := world.terminal.printAll (project.announcement world target)
      let head := project.repository.resolve target.head.ref.text
      let base := project.repository.resolve target.base.ref.text
      (∀ failure, header.2 = some failure ∨ head = .error failure ∨ base = .error failure →
        result.Untouched world settings) ∧
      (∀ failure, header.2 = none → head = .error failure → result.outcome = .failed failure) ∧
      (∀ name failure, header.2 = none → head = .ok name → base = .error failure →
        result.outcome = .failed failure) ∧
      ((∀ text baseName headName catalog impact,
          ¬Computed world settings target project text baseName headName catalog impact) →
        result.output = header.1) ∧
      (∀ text baseName headName catalog impact,
        Computed world settings target project text baseName headName catalog impact →
          result.output = header.1 ++ (printed world target impact).1 ∧
          result.outcome = .ofFailure? (printed world target impact).2)) ∧
    (result.outcome = .completed ↔
      ∃ project header base head catalog impact text,
        Computed world settings target project header base head catalog impact ∧
        result.requests = [question settings base head] ∧
        world.terminal.console.printReport impact target.range = .ok text ∧
        world.terminal.refusal? text = none ∧ result.output = header ++ text) := by
  intro result
  have ends : RunEnd world settings target result := run_ends world settings target
  refine ⟨?_, ?_, ends.exists_report, ?_⟩
  · intro failure fails
    have same : result = ⟨[], none, [], .failed failure⟩ := run_of_notOpened fails
    rw [same]
    exact ⟨⟨rfl, rfl⟩, rfl, rfl⟩
  · intro project opened header head base
    refine ⟨?_, ?_, ?_, ends.output_of_not_computed opened, ?_⟩
    · intro failure fails
      exact ends.untouched_of_fails opened fails
    · intro failure announced fails
      exact outcome_of_headUnresolved opened announced fails
    · intro name failure announced resolved fails
      exact outcome_of_baseUnresolved opened announced resolved fails
    · intro text _ _ catalog impact computed
      have isHeader : header.1 = text := congrArg Prod.fst computed.checks.announced
      have same : result = _ := run_of_computed computed
      rw [same, isHeader]
      exact ⟨rfl, rfl⟩
  · intro reported
    obtain ⟨project, header, base, head, catalog, impact, text, computed, -, isText, taken, -⟩ :=
      reported
    exact outcome_of_reports computed isText taken

def usualSettings : Settings :=
  ⟨Settings.defaultCommand, Settings.defaultPipePath, .substring, Settings.defaultPollInterval,
    Settings.defaultContextLines⟩

def lastCommit : Target :=
  ⟨"/w", ⟨⟨"HEAD^", by decide⟩, .base⟩, ⟨⟨"HEAD", by decide⟩, .head⟩⟩

/-- A bare repository, with a stale file at the path of the pipe. -/
def bareWorld : World where
  workspace := ⟨"/w", [], [], [(["tmp", "pip_pipe"], .file [])]⟩
  environment := []
  terminal := ⟨⟨80, false⟩, true⟩
  repositories := fun _ => .ok ({ Repository.empty with bare := true }, none)
  programs := [("npx", [])]
  signals := []
  room := 100

/-- Two commits, of which the second adds a line to a file. -/
def lineAdded : Repository :=
  { Repository.empty with
    objects := [("h", .commit ["b"]), ("b", .commit [])]
    refs := [("HEAD", .object "h")]
    diff := .bytes (Utf8.encodeChars "--- /dev/null\n+++ b/x.ts\n@@ -0,0 +1 @@\n+f\n".toList) }

def batchText : String :=
  "[\x7b\"name\":\"f\",\"file\":\"x.ts\",\"start_line\":1,\"end_line\":2\x7d]"

/-- A project whose analyzer finds a function. -/
def shopWorld : World where
  workspace :=
    ⟨"/w", [], [(["package.json"], .file [0x7b, 0x7d]), ([".meteor"], .directory)],
      [(["tmp"], .directory)]⟩
  environment := []
  terminal := ⟨⟨80, false⟩, true⟩
  repositories := fun _ => .ok (lineAdded, some "/w")
  programs := [("npx", [.write (Utf8.encodeChars batchText.toList), .exit 0])]
  signals := []
  room := 100

theorem run_shopWorld_completes :
    (run shopWorld usualSettings lastCommit).outcome = .completed := by
  decide +kernel

theorem run_order_bareWorld_and_shopWorld :
    let result := run bareWorld usualSettings lastCommit
    ((result.channelAfter bareWorld usualSettings).node = .file ∧ result.requests = [] ∧
      result.output = [] ∧
      result.outcome = .failed (.notOpened "/w" "bare repository has no work tree")) ∧
    ∃ project header base head catalog impact text,
      Computed shopWorld usualSettings lastCommit project header base head catalog impact ∧
      shopWorld.terminal.console.printReport impact lastCommit.range = .ok text ∧
      (run shopWorld usualSettings lastCommit).output = header ++ text := by
  constructor
  · have ended := (run_order bareWorld usualSettings lastCommit).1 _ rfl
    obtain ⟨⟨same, asksNothing⟩, prints, fails⟩ := ended
    have stale : (channelBefore bareWorld usualSettings).node = .file := by decide +kernel
    exact ⟨(congrArg Channel.State.node same).trans stale, asksNothing, prints, fails⟩
  · have completes := (run_order shopWorld usualSettings lastCommit).2.2.mp run_shopWorld_completes
    obtain ⟨project, header, base, head, catalog, impact, text, computed, -, isText, -, isOutput⟩ :=
      completes
    exact ⟨project, header, base, head, catalog, impact, text, computed, isText, isOutput⟩

end Run

end ChangeImpact
