import Bastet.Daemon.RunLifecycle

/-! What a shutdown promises: a daemon that is stopping has no run at work, and begins none
until it serves again. -/

set_option autoImplicit false

namespace Bastet.Daemon

open Fallible Bastet.Core Lookup

/-- No provider is at work on a run of the catalog. -/
def Idle (catalog : IdentityCatalog) : Prop :=
  ∀ run ∈ catalog.runs, runMayBeActive run = false

section Idle

variable {catalog : IdentityCatalog}

theorem runMayBeActive_terminal {run : Run} (ended : run.state.isTerminal = true) : runMayBeActive run = false := by
  unfold runMayBeActive
  cases state : run.state <;> simp_all [NormalizedRunState.isTerminal]

theorem Idle.updateRun (idle : Idle catalog) {runId : RunId} {change : Run → Run}
    (ended : ∀ run, runMayBeActive (change run) = false) : Idle (catalog.updateRun runId change) := by
  intro run member
  rcases mem_modifyFirst member with kept | ⟨old, _, _, rfl⟩
  · exact idle run kept
  · exact ended old

/-- A client adds no run that is at work. -/
theorem Idle.replaced {next : IdentityCatalog} (idle : Idle catalog) (distinct : next.validate = .ok ())
    (kept : ∀ run ∈ catalog.runs, keepsRun catalog next run = .ok ())
    (fresh : ∀ run ∈ next.runs, introducesIdle catalog run = .ok ()) : Idle next := by
  intro run member
  have introduced := fresh run member
  simp only [introducesIdle, reject_ok, Bool.and_eq_false_iff, Bool.or_eq_false_iff, decide_eq_false_iff_not,
    not_not, ne_eq, Bool.not_eq_false', List.any_eq_true, decide_eq_true_eq] at introduced
  rcases introduced with ⟨old, inside, same⟩ | ⟨starting, unstarted⟩
  · have found := keepsRun_ok (kept old inside)
    have again := find_of_mem (IdentityCatalog.validate_runs_distinct distinct) member
    rw [← same] at again
    obtain rfl := Option.some.inj (found.symm.trans again)
    exact idle old inside
  · simp only [runMayBeActive, starting]
    exact unstarted

theorem Idle.finished {next : IdentityCatalog} (idle : Idle catalog) {now : Nat} {run : Run} {session : Session}
    {state : NormalizedRunState} {node : GraphNodeState} {name : Option String} (terminal : graphState state = .ok node)
    (made : finishedCatalog catalog now run session state name = .ok next) : Idle next := by
  have ended : state.isTerminal = true := by
    cases state <;> first | rfl | cases terminal
  have settled : Idle (catalog.updateRun run.metadata.id (endRun state (timestamp now))) :=
    idle.updateRun fun _ => runMayBeActive_terminal ended
  simp only [finishedCatalog, bind_ok] at made
  obtain ⟨_, _, made⟩ := made
  cases name with
  | none => exact pure_ok.mp made ▸ settled
  | some name =>
    simp only [bind_ok, exists_unit, pure_ok] at made
    obtain ⟨_, _, _, rfl⟩ := made
    exact settled

end Idle

variable [Sha256] [SerdeJson] {db after : Database}

section Attempts

omit [Sha256] [SerdeJson] in
/-- Every recorded attempt is a run of the catalog, and one that starts has a start time. -/
def Attempted (db : Database) : Prop :=
  ∀ runId ∈ db.nodeRuns.rows.map (·.runId), ∃ run, db.identity.content.run? runId = some run ∧
    (run.state = .starting → run.startedAt.isSome = true)

omit [Sha256] [SerdeJson] in
theorem Attempted.evolve (attempted : Attempted db) (evolves : db.identity.content.Evolves after.identity.content)
    {runId : RunId} (recorded : runId ∈ db.nodeRuns.rows.map (·.runId)) :
    ∃ run, after.identity.content.run? runId = some run ∧ (run.state = .starting → run.startedAt.isSome = true) := by
  obtain ⟨run, found, started⟩ := attempted runId recorded
  obtain ⟨later, reached, advances⟩ := evolves.kept runId run found
  refine ⟨later, reached, ?_⟩
  rcases advances.moved with rfl | moved
  · exact started
  · exact moved.started

omit [Sha256] [SerdeJson] in
/-- A run is begun through the route that does not look at the lifecycle. -/
def beginsUnchecked (db : Database) : Action → Bool
  | .command (.beginGraphNodeRun _ _ _ command none) => decide (db.identity.revision = command.expectedCatalogRevision)
  | _ => false

/-- The attempt of a run is recorded: the run starts with a start time, unless its launch is staged, and
the daemon serves unless its route does not ask. -/
structure BeginsRun (db : Database) (action : Action) (after : Database) (runId : RunId) : Prop where
  serving : beginsUnchecked db action = false → db.daemon.lifecycle = .ready
  attempts : after.nodeRuns.rows.map (·.runId) = db.nodeRuns.rows.map (·.runId) ++ [runId]
  started : ∃ run, after.identity.content.run? runId = some run ∧ (run.state = .starting → run.startedAt.isSome = true)

theorem Beginning.begins {now : Nat} {ids : RunIds} {id : GraphRunId} {command : BeginGraphNodeRunCommand}
    (begun : Beginning db now ids id command) {expected : Option ProviderRunBinding}
    (serving : expected.isSome = true → db.daemon.lifecycle = .ready)
    (current : db.identity.revision = command.expectedCatalogRevision) (attempts : after.nodeRuns = begun.nodeRuns)
    (identity : after.identity.content = withAttempt db.identity.content now ids begun.binding begun.staged) :
    BeginsRun db (.command (.beginGraphNodeRun now ids id command expected)) after ids.runId where
  serving checked := by
    cases expected with
    | some binding => exact serving rfl
    | none =>
      simp only [beginsUnchecked, current, decide_true] at checked
      cases checked
  attempts := by
    rw [attempts, Table.rows_insert begun.attempted, List.map_append, List.map_singleton]
    rfl
  started := by
    have distinct := IdentityCatalog.validate_runs_distinct begun.catalogValid
    have last : ⟨entityMetadata now ids.runId "graph_node_run", ids.sessionId, begun.binding.modelId,
        if begun.staged then .awaitingApproval else .starting,
        if begun.staged then none else some (timestamp now), none⟩ ∈
          (withAttempt db.identity.content now ids begun.binding begun.staged).runs :=
      List.mem_append_right _ (List.mem_singleton_self _)
    refine ⟨_, identity ▸ find_of_mem distinct last, fun starting => ?_⟩
    cases staged : begun.staged <;> simp_all

/-- A change records an attempt only when it begins a run. -/
theorem Change.attempts {action : Action} (change : Change db action after) :
    after.nodeRuns.rows.map (·.runId) = db.nodeRuns.rows.map (·.runId) ∨
      ∃ runId, BeginsRun db action after runId := by
  cases change with
  | begun events begun serving attended current left =>
    have stages := Beginning.stages left
    exact .inr ⟨_, begun.begins serving current stages.nodeRuns (congrArg Versioned.content stages.identity)⟩
  | storedM3 stored =>
    obtain ⟨_, _, _, rfl⟩ := stored
    exact .inl rfl
  | worked stored =>
    obtain ⟨_, _, _, _, _, rfl⟩ := stored
    exact .inl rfl
  | finished => exact .inl (Table.keys_update NodeRunRow.finish_runId)
  | decided issued events deciding informed =>
    have spares := onDecision_spares informed
    exact .inl spares.attempts
  | cancelled events some => exact .inl some.spares.attempts
  | revoked events spent cancels => exact .inl cancels.spares.attempts
  | recovered events middle proved catalogValid recoverable revised expired => exact .inl expired.spares.attempts
  | _ => exact .inl rfl

theorem Change.attempted {action : Action} (change : Change db action after) (attempted : Attempted db) :
    Attempted after := by
  intro runId recorded
  rcases change.attempts with same | ⟨_, begins⟩
  · exact attempted.evolve change.evolves (same ▸ recorded)
  · rw [begins.attempts] at recorded
    rcases List.mem_append.mp recorded with before | new
    · exact attempted.evolve change.evolves before
    · obtain rfl := List.mem_singleton.mp new
      exact begins.started

/-- A launch is claimed only while the daemon serves. -/
theorem Change.claims {action : Action} (change : Change db action after) :
    after.claims = db.claims ∨ db.daemon.lifecycle = .ready := by
  cases change with
  | begun events begun serving attended current left =>
    have stages := Beginning.stages left
    exact .inl stages.claims
  | storedM3 stored =>
    obtain ⟨_, _, _, rfl⟩ := stored
    exact .inl rfl
  | worked stored =>
    obtain ⟨_, _, _, _, _, rfl⟩ := stored
    exact .inl rfl
  | decided issued events deciding informed =>
    have spares := onDecision_spares informed
    exact .inl spares.claims
  | cancelled events some => exact .inl some.spares.claims
  | revoked events spent cancels => exact .inl cancels.spares.claims
  | claimed events claiming => exact .inr claiming.serving
  | recovered events middle proved catalogValid recoverable revised expired => exact .inl expired.spares.claims
  | _ => exact .inl rfl

end Attempts

section Lifecycle

/-- The lifecycle is kept, or moved by a command on it, or by a restart. -/
theorem Change.lifecycle {action : Action} (change : Change db action after) :
    after.daemon.lifecycle = db.daemon.lifecycle ∨
      (∃ command, action = .command command ∧ Shifts db command after.daemon.lifecycle ∧
        after.identity = db.identity) ∨
      (∃ now, action = .restart now ∧ after.daemon.lifecycle = .recovering) := by
  cases change with
  | shifted events shifts => exact .inr (.inl ⟨_, rfl, shifts, rfl⟩)
  | begun events begun serving attended current left =>
    have stages := Beginning.stages left
    exact .inl (congrArg DaemonState.lifecycle stages.daemon)
  | storedM3 stored =>
    obtain ⟨_, _, _, rfl⟩ := stored
    exact .inl rfl
  | worked stored =>
    obtain ⟨_, _, _, _, _, rfl⟩ := stored
    exact .inl rfl
  | decided issued events deciding informed =>
    have spares := onDecision_spares informed
    exact .inl (congrArg DaemonState.lifecycle spares.daemon)
  | cancelled events some => exact .inl (congrArg DaemonState.lifecycle some.spares.daemon)
  | revoked events spent cancels => exact .inl (congrArg DaemonState.lifecycle cancels.spares.daemon)
  | recovered events middle proved catalogValid recoverable revised expired =>
    exact .inr (.inr ⟨_, rfl, congrArg DaemonState.lifecycle expired.spares.daemon⟩)
  | _ => exact .inl rfl

omit [Sha256] [SerdeJson] in
/-- The cancellation of a run that has not started is reported. -/
def cancelsUnstarted (db : Database) : Action → Bool
  | .command command => command.cancels.any fun runId =>
    (db.identity.content.run? runId).any fun run => run.state = .starting && run.startedAt.isNone
  | _ => false

omit [Sha256] [SerdeJson] in
/-- A run gets to work although the daemon is stopping. -/
def startsLate (db : Database) (action : Action) : Bool :=
  decide (db.daemon.lifecycle = .stopping) && (beginsUnchecked db action || cancelsUnstarted db action)

omit [Sha256] [SerdeJson] in
/-- A run that a provider may report about is at work, when its attempt is recorded. -/
theorem Attempted.mayBeActive (attempted : Attempted db) {run : Run}
    (current : isCurrentAttempt db run.metadata.id = true)
    (found : db.identity.content.run? run.metadata.id = some run) (active : run.state.isActive = true) :
    runMayBeActive run = true := by
  simp only [isCurrentAttempt, Option.any_eq_true] at current
  obtain ⟨row, recorded, _⟩ := current
  have member : run.metadata.id ∈ db.nodeRuns.rows.map (·.runId) :=
    List.mem_map.mpr ⟨row, Table.mem_of_find? recorded, Table.find?_key recorded⟩
  obtain ⟨other, again, started⟩ := attempted _ member
  obtain rfl := Option.some.inj (found.symm.trans again)
  unfold runMayBeActive
  cases state : run.state <;> simp_all [NormalizedRunState.isActive]

omit [Sha256] [SerdeJson] in
/-- Nothing is reported about a run while the daemon is stopping. -/
theorem Reports.late {updatedAt : String} {command : Command} {catalog : IdentityCatalog}
    (reports : Reports db updatedAt command catalog) (attempted : Attempted db) (idle : Idle db.identity.content) :
    cancelsUnstarted db (.command command) = true := by
  cases reports with
  | running current found active =>
    have working := attempted.mayBeActive current found active
    rw [idle _ (find_some found).1] at working
    cases working
  | @cancelling run asked found open_ =>
    have resting := idle _ (find_some found).1
    unfold runMayBeActive at resting
    simp only [cancelsUnstarted, asked, Option.any_some, found]
    cases state : run.state <;> simp_all [NormalizedRunState.isCancellable]

theorem Cancels.idle {now : Nat} {row : StagedRow} {reason : String} {run : Run} {plan : ProviderLaunchPlan}
    {graphRow : GraphRow} {execution : GraphExecution}
    (cancels : Cancels db now row reason run plan graphRow execution after) (idle : Idle db.identity.content) :
    Idle after.identity.content := by
  obtain ⟨grants, events, _, rfl⟩ := cancels.left
  exact idle.updateRun fun _ => runMayBeActive_terminal rfl

theorem MayCancel.idle {now : Nat} {requestId : ApprovalRequestId} {reason : String}
    (cancels : MayCancel db now requestId reason after) (idle : Idle db.identity.content) :
    Idle after.identity.content := by
  rcases cancels with ⟨rfl, _⟩ | ⟨_, _, _, _, _, _, cancels⟩
  · exact idle
  · exact cancels.idle idle

theorem CancelsSome.idle {now : Nat} (cancels : CancelsSome now db after) (idle : Idle db.identity.content) :
    Idle after.identity.content := by
  induction cancels with
  | refl => exact idle
  | tail _ last ih =>
    obtain ⟨_, _, cancels⟩ := last
    exact cancels.idle ih

/-- While the daemon is stopping, no change puts a run to work. -/
theorem Change.idle {action : Action} (change : Change db action after) (attempted : Attempted db)
    (stopping : db.daemon.lifecycle = .stopping) (punctual : startsLate db action = false)
    (idle : Idle db.identity.content) : Idle after.identity.content := by
  simp only [startsLate, stopping, decide_true, Bool.true_and, Bool.or_eq_false_iff] at punctual
  cases change with
  | quiet | shifted | replacedM3 | accepted | createdGraph | restartedGraph | requested | consumed => exact idle
  | replacedCatalog events valid kept fresh => exact idle.replaced valid kept fresh
  | prepared events made =>
    simp only [MvpDraft.prepare, bind_ok, exists_unit, pure_ok] at made
    obtain ⟨_, _, rfl⟩ := made
    intro run member
    cases member
  | storedM3 stored =>
    obtain ⟨_, _, _, rfl⟩ := stored
    exact idle
  | reported events valid reports =>
    have late := reports.late attempted idle
    rw [punctual.2] at late
    cases late
  | worked stored =>
    obtain ⟨_, _, _, _, _, rfl⟩ := stored
    exact idle
  | @begun _ _ _ _ expected _ events begun serving attended current left =>
    cases expected with
    | some binding =>
      rw [stopping] at serving
      cases serving rfl
    | none =>
      simp only [beginsUnchecked, current, decide_true] at punctual
      cases punctual.1
  | finished events trusted finishing => exact idle.finished finishing.terminal finishing.catalogMade
  | decided issued events deciding informed =>
    rcases onDecision_ok informed with ⟨_, rfl⟩ | ⟨_, _, _, _, _, _, _, _, _, _, _, rfl⟩ | ⟨_, cancels⟩
    · exact idle
    · exact idle
    · have cancelled := cancels.idle idle
      exact cancelled
  | cancelled events some => exact some.idle idle
  | revoked events spent cancels =>
    have cancelled := cancels.idle idle
    exact cancelled
  | claimed events claiming =>
    have serving := claiming.serving
    rw [stopping] at serving
    cases serving
  | abandoned events abandoning => exact idle.updateRun fun _ => runMayBeActive_terminal rfl
  | recovered events middle proved catalogValid recoverable revised expired =>
    refine expired.idle fun run member => ?_
    obtain ⟨old, inside, rfl⟩ := List.mem_map.mp member
    unfold Run.recovered
    split
    · exact idle old inside
    · split
      · exact runMayBeActive_terminal rfl
      · exact idle old inside

end Lifecycle

section Runs

/-- The runs of a daemon that is stopping are idle. -/
structure StopsIdle (process : DaemonProcess) : Prop where
  attempted : Attempted process.db
  idle : process.db.daemon.lifecycle = .stopping → Idle process.db.identity.content

omit [Sha256] [SerdeJson] in
theorem StopsIdle.fresh : StopsIdle .fresh where
  attempted _ recorded := by cases recorded
  idle stopping := by cases stopping

theorem StopsIdle.next (process : DaemonProcess) (action : Action) (punctual : startsLate process.db action = false)
    (sound : StopsIdle process) : StopsIdle (process.next action) := by
  rcases process.next_change action with same | change
  · exact ⟨same ▸ sound.attempted, same ▸ sound.idle⟩
  · refine ⟨change.attempted sound.attempted, fun stopping => ?_⟩
    rcases change.lifecycle with same | ⟨_, _, shifts, identity⟩ | ⟨_, _, recovering⟩
    · rw [same] at stopping
      exact change.idle sound.attempted stopping punctual (sound.idle stopping)
    · rw [stopping] at shifts
      rw [identity]
      cases shifts with
      | stopped idle => exact idle
    · rw [recovering] at stopping
      cases stopping

/-- After a shutdown the daemon is stopping, or its store was opened again. -/
def ShutDown (process : DaemonProcess) : Prop :=
  process.db.daemon.lifecycle = .stopping ∨ process.db.daemon.lifecycle = .recovering

/-- Nothing begins: no attempt is recorded and no launch is claimed. -/
structure BeginsNothing (before after : DaemonProcess) : Prop where
  attempts : after.db.nodeRuns.rows.map (·.runId) = before.db.nodeRuns.rows.map (·.runId)
  claims : after.db.claims = before.db.claims

theorem ShutDown.next {process : DaemonProcess} (down : ShutDown process) {action : Action}
    (waits : action ≠ .command .enterReady) (checked : beginsUnchecked process.db action = false) :
    ShutDown (process.next action) ∧ BeginsNothing process (process.next action) := by
  have closed : process.db.daemon.lifecycle ≠ .ready ∧ process.db.daemon.lifecycle ≠ .suspended := by
    rcases down with lifecycle | lifecycle <;> simp [lifecycle]
  rcases process.next_change action with same | change
  · exact ⟨by unfold ShutDown; rw [same]; exact down, by rw [same], by rw [same]⟩
  · refine ⟨?_, ?_, change.claims.resolve_right closed.1⟩
    · rcases change.lifecycle with same | ⟨command, rfl, shifts, _⟩ | ⟨_, _, recovering⟩
      · unfold ShutDown
        rw [same]
        exact down
      · generalize lifecycle : (process.next (.command command)).db.daemon.lifecycle = reached at shifts
        cases shifts with
        | entered => exact absurd rfl waits
        | checkpointed ready | suspended ready => exact absurd ready closed.1
        | stopped => exact .inl lifecycle
        | resumed suspended => exact absurd suspended closed.2
      · exact .inr recovering
    · rcases change.attempts with same | ⟨_, begins⟩
      · exact same
      · exact absurd (begins.serving checked) closed.1

theorem ShutDown.run {process : DaemonProcess} (down : ShutDown process) {actions : List Action}
    (permitted : Machine.Allowed DaemonProcess.next (fun process action =>
      action ≠ .command .enterReady ∧ beginsUnchecked process.db action = false) process actions) :
    BeginsNothing process (process.run actions) := by
  have preserved : ∀ (reached : DaemonProcess) action,
      (action ≠ .command .enterReady ∧ beginsUnchecked reached.db action = false) →
      (ShutDown reached ∧ BeginsNothing process reached) →
      ShutDown (reached.next action) ∧ BeginsNothing process (reached.next action) := by
    rintro reached action ⟨waits, checked⟩ ⟨before, nothing⟩
    obtain ⟨after, more⟩ := before.next waits checked
    exact ⟨after, more.attempts.trans nothing.attempts, more.claims.trans nothing.claims⟩
  exact (Machine.allowed_run_preserves preserved ⟨down, rfl, rfl⟩ permitted).2

/-- The runs of a stopping daemon are idle, if no run was begun past the launch check and no cancellation of
an unstarted run was reported while it was stopping. From a shutdown until the daemon serves again, no run is
begun and no launch claimed, if none was begun past the check. -/
theorem shutdown_safety (first rest : List Action) :
    let process := DaemonProcess.fresh.run first
    (Machine.Allowed DaemonProcess.next (fun process action => startsLate process.db action = false) .fresh first →
      process.db.daemon.lifecycle = .stopping →
      ∀ run ∈ process.db.identity.content.runs, runMayBeActive run = false) ∧
    (∀ checkpointId expected,
      process.service = .serving ∧ isOk (execute process.db (.shutdown checkpointId expected)) = true →
      let stopping := process.next (.command (.shutdown checkpointId expected))
      Machine.Allowed DaemonProcess.next (fun process action =>
        action ≠ .command .enterReady ∧ beginsUnchecked process.db action = false) stopping rest →
      BeginsNothing stopping (stopping.run rest)) := by
  intro process
  constructor
  · intro permitted stopping
    have sound := Machine.allowed_run_preserves StopsIdle.next StopsIdle.fresh permitted
    exact sound.idle stopping
  · rintro checkpointId expected ⟨serving, accepted⟩ stopping permitted
    refine ShutDown.run (.inl ?_) permitted
    obtain ⟨stopped, committed⟩ := isOk_iff.mp accepted
    have moved : stopping.db = stopped := by
      simp only [stopping, DaemonProcess.next, DaemonProcess.commit, serving, committed]
    rw [moved]
    simp only [execute, bind_ok, pure_ok] at committed
    obtain ⟨_, committed, rfl⟩ := committed
    obtain ⟨_, _, _, same⟩ := persistCheckpoint_ok committed
    rw [same]

omit [Sha256] [SerdeJson] in
/-- The shutdown of a daemon whose mission has been accepted, and a run that is begun after it through the unchecked
route. -/
theorem shutdown_begun :
    (fun begun : DaemonProcess =>
      begun.service = .serving ∧ isOk (@execute (.table []) SerdeJson.compact begun.db (.shutdown 0 0)) = true)
      (@DaemonProcess.run (.table []) SerdeJson.compact .fresh (firstRun.take 2)) ∧
    (fun stopping : DaemonProcess =>
      stopping.db.daemon.lifecycle = .stopping ∧ stopping.db.nodeRuns.rows.map (·.runId) = [] ∧
      (fun later : DaemonProcess => later.db.daemon.lifecycle = .stopping ∧
        startedRun ∈ later.db.identity.content.runs ∧ later.db.nodeRuns.rows.map (·.runId) = [nth 31])
        (@DaemonProcess.run (.table []) SerdeJson.compact stopping (firstRun.drop 2)))
      (@DaemonProcess.run (.table []) SerdeJson.compact .fresh (firstRun.take 2 ++ [.command (.shutdown 0 0)])) := by
  decide +kernel

omit [Sha256] [SerdeJson] in
theorem shutdown_safety_restarted :
    let begun := @DaemonProcess.run (.table []) SerdeJson.compact .fresh (firstRun.take 2)
    let stopping := @DaemonProcess.next (.table []) SerdeJson.compact begun (.command (.shutdown 0 0))
    let stopped := @DaemonProcess.run (.table []) SerdeJson.compact .fresh
      (firstRun.take 2 ++ [.command (.shutdown 0 0)])
    BeginsNothing stopping (@DaemonProcess.run (.table []) SerdeJson.compact stopping [.restart 9]) ∧
      ∀ run ∈ stopped.db.identity.content.runs, runMayBeActive run = false := by
  obtain ⟨accepted, lifecycle, _⟩ := shutdown_begun
  -- The states stay unevaluated: each is compared as the run it is written as.
  dsimp only
  constructor
  · exact (@shutdown_safety (.table []) SerdeJson.compact (firstRun.take 2) [.restart 9]).2 0 0 accepted
      ⟨⟨by simp, rfl⟩, trivial⟩
  · have safety := @shutdown_safety (.table []) SerdeJson.compact (firstRun.take 2 ++ [.command (.shutdown 0 0)]) []
    have idle := safety.1
    apply idle _ lifecycle
    simp [firstRun, Machine.Allowed, startsLate, beginsUnchecked, cancelsUnstarted, Command.cancels]

omit [Sha256] [SerdeJson] in
/-- A run that is begun through the unchecked route is at work while the daemon is stopping. -/
theorem shutdown_safety_fails :
    let stopping := @DaemonProcess.run (.table []) SerdeJson.compact .fresh
      (firstRun.take 2 ++ [.command (.shutdown 0 0)])
    let later := @DaemonProcess.run (.table []) SerdeJson.compact stopping (firstRun.drop 2)
    stopping.db.daemon.lifecycle = .stopping ∧ later.db.daemon.lifecycle = .stopping ∧
      startedRun ∈ later.db.identity.content.runs ∧ runMayBeActive startedRun = true ∧
      stopping.db.nodeRuns.rows.map (·.runId) = [] ∧ later.db.nodeRuns.rows.map (·.runId) = [nth 31] := by
  obtain ⟨_, lifecycle, unattempted, still, begun, attempted⟩ := shutdown_begun
  exact ⟨lifecycle, still, begun, rfl, unattempted, attempted⟩

end Runs

end Bastet.Daemon
