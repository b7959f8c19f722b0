import Bastet.Daemon.ExpiryProgress
import Bastet.Daemon.SingleAttempt

/-! A launch that waits keeps the whole context it was staged with, whatever else the daemon does meanwhile: its plan,
its session, its request, its attempt and its row of the ledger. -/

set_option autoImplicit false

namespace Bastet.Daemon

open Fallible Bastet.Core

section Sessions

variable {db after last : Database}

/-- The session of a run stays with its agent and its project. -/
def KeepsSessions (db after : Database) : Prop :=
  ∀ id run session, db.identity.content.run? id = some run → db.identity.content.session? run.sessionId = some session →
    ∃ later, after.identity.content.session? run.sessionId = some later ∧
      later.agentInstanceId = session.agentInstanceId ∧ later.projectId = session.projectId

theorem KeepsSessions.of_sessions (same : after.identity.content.sessions = db.identity.content.sessions) :
    KeepsSessions db after := by
  intro id run session _ found
  refine ⟨session, ?_, rfl, rfl⟩
  unfold IdentityCatalog.session? at found ⊢
  rw [same, found]

/-- A session that gets its name from the provider is the same session. -/
theorem KeepsSessions.named {catalog : IdentityCatalog} {sessionId : SessionId} {name updatedAt : String}
    (sessions : catalog.sessions = db.identity.content.sessions)
    (same : after.identity.content = catalog.updateSession sessionId (Session.name name updatedAt)) :
    KeepsSessions db after := by
  intro id run session _ found
  have kept : ∀ session : Session, (session.name name updatedAt).metadata.id = session.metadata.id := fun _ => rfl
  rw [same]
  simp only [IdentityCatalog.session?, IdentityCatalog.updateSession, sessions] at found ⊢
  rw [Lookup.find_modifyFirst kept, found]
  split
  · exact ⟨_, rfl, rfl, rfl⟩
  · exact ⟨_, rfl, rfl, rfl⟩

variable [Sha256] [SerdeJson]

theorem MayCancel.sessions {now : Nat} {requestId : ApprovalRequestId} {reason : String}
    (cancels : MayCancel db now requestId reason after) :
    after.identity.content.sessions = db.identity.content.sessions := by
  rcases cancels with ⟨rfl, _⟩ | ⟨_, _, _, _, _, _, cancels⟩
  · rfl
  · obtain ⟨_, _, _, rfl⟩ := cancels.left
    rfl

theorem CancelsSome.sessions {now : Nat} (cancels : CancelsSome now db after) :
    after.identity.content.sessions = db.identity.content.sessions := by
  induction cancels with
  | refl => rfl
  | tail _ last ih =>
    obtain ⟨_, _, cancels⟩ := last
    exact cancels.sessions.trans ih

theorem onDecision_sessions {now : Nat} {request : ApprovalRequest} {kind : ApprovalDecisionKind}
    (informed : onDecision db now request kind = .ok after) :
    after.identity.content.sessions = db.identity.content.sessions := by
  rcases onDecision_ok informed with ⟨_, rfl⟩ | ⟨_, _, _, _, _, _, _, _, _, _, _, rfl⟩ | ⟨_, cancels⟩
  · rfl
  · rfl
  · exact cancels.sessions

/-- Every change keeps the sessions of the runs. -/
theorem Change.keepsSessions {action : Action} (change : Change db action after) : KeepsSessions db after := by
  cases change with
  | quiet | shifted | replacedM3 | accepted | createdGraph | restartedGraph | requested | consumed | claimed | abandoned =>
    exact .of_sessions rfl
  | replacedCatalog events valid kept =>
    intro id run session found located
    obtain ⟨member, _⟩ := Lookup.find_some found
    obtain ⟨_, named⟩ := Lookup.find_some located
    have checked := kept run member
    simp only [keepsRun, bind_ok, required_ok, reject_ok, Bool.or_eq_false_iff, decide_eq_false_iff_not, not_not,
      ne_eq] at checked
    obtain ⟨other, again, _, same⟩ := checked
    obtain rfl := Option.some.inj (located.symm.trans again)
    exact ⟨session, named ▸ same, rfl, rfl⟩
  | prepared events made initial =>
    intro id run session found
    rw [initial] at found
    cases found
  | storedM3 stored =>
    obtain ⟨_, _, _, rfl⟩ := stored
    exact .of_sessions rfl
  | reported events valid reports =>
    cases reports with
    | running current found active mark named =>
      have marked := markRunning_ok mark
      rcases nameSession_ok named with rfl | ⟨_, rfl⟩
      · refine .of_sessions ?_
        dsimp only
        rw [marked]
        split <;> rfl
      · refine .named ?_ rfl
        rw [marked]
        split <;> rfl
    | cancelling => exact .of_sessions rfl
  | worked stored =>
    obtain ⟨_, _, _, _, _, rfl⟩ := stored
    exact .of_sessions rfl
  | begun events begun serving attended current left =>
    intro id run session _ found
    refine ⟨session, ?_, rfl, rfl⟩
    simp only [(Beginning.stages left).identity, Beginning.database, withAttempt, IdentityCatalog.session?] at found ⊢
    rw [List.find?_append, found, Option.some_or]
  | finished events trusted finishing =>
    have made := finishing.catalogMade
    simp only [finishedCatalog, bind_ok] at made
    obtain ⟨_, _, made⟩ := made
    split at made
    · simp only [bind_ok, exists_unit, pure_ok] at made
      obtain ⟨_, _, _, made⟩ := made
      refine .named ?_ made.symm
      rfl
    · refine .of_sessions ?_
      show finishing.finished.identity.sessions = _
      rw [← pure_ok.mp made]
      rfl
  | decided issued events deciding informed =>
    have same := onDecision_sessions informed
    exact .of_sessions same
  | cancelled events some => exact .of_sessions some.sessions
  | revoked events spent cancels => exact .of_sessions cancels.sessions
  | recovered events middle proved catalogValid recoverable revised expired => exact .of_sessions expired.sessions

end Sessions

section Ledgers

variable {db after last : Database}

/-- Nothing is removed from the ledger of plans. -/
def KeepsPlans (db after : Database) : Prop :=
  ∀ id row, db.plans.find? id = some row → after.plans.find? id = some row

/-- A request stays as it was made. -/
def KeepsRequests (db after : Database) : Prop :=
  ∀ id row, db.approvals.find? id = some row →
    ∃ later, after.approvals.find? id = some later ∧ later.request = row.request

theorem KeepsPlans.of_same (same : after.plans = db.plans) : KeepsPlans db after :=
  fun _ _ found => same ▸ found

theorem KeepsRequests.of_same (same : after.approvals = db.approvals) : KeepsRequests db after :=
  fun _ row found => ⟨row, same ▸ found, rfl⟩

theorem KeepsRequests.of_insert {fresh : ApprovalRow} (inserted : db.approvals.insert fresh = some after.approvals) :
    KeepsRequests db after :=
  fun _ row found => ⟨row, Table.find?_insert_of_some inserted found, rfl⟩

variable [Sha256] [SerdeJson]

theorem Deciding.keepsRequests {now : Nat} {command : DecideApprovalCommand} (deciding : Deciding db now command)
    (issued : List String) : KeepsRequests db (deciding.database issued) := by
  intro id row found
  simp only [Deciding.database, Table.find?_update, found, Option.map_some]
  split
  · exact ⟨_, rfl, rfl⟩
  · exact ⟨row, rfl, rfl⟩

/-- Every change keeps the plans. -/
theorem Change.keepsPlans {action : Action} (change : Change db action after) : KeepsPlans db after := by
  cases change with
  | quiet | shifted | replacedCatalog | replacedM3 | prepared | accepted | reported | createdGraph | restartedGraph
  | finished | requested | consumed | claimed | abandoned => exact .of_same rfl
  | storedM3 stored =>
    obtain ⟨_, _, _, rfl⟩ := stored
    exact .of_same rfl
  | worked stored =>
    obtain ⟨_, _, _, _, _, rfl⟩ := stored
    exact .of_same rfl
  | begun events begun serving attended current left =>
    intro id row found
    simp only [(Beginning.stages left).plans, Beginning.database]
    exact Table.find?_insert_of_some begun.planned found
  | decided issued events deciding informed =>
    have spares := onDecision_spares informed
    exact .of_same spares.plans
  | cancelled events some => exact .of_same some.spares.plans
  | revoked events spent cancels => exact .of_same cancels.spares.plans
  | recovered events middle proved catalogValid recoverable revised expired => exact .of_same expired.spares.plans

/-- Every change keeps the requests. -/
theorem Change.keepsRequests {action : Action} (change : Change db action after) : KeepsRequests db after := by
  cases change with
  | quiet | shifted | replacedCatalog | replacedM3 | prepared | accepted | reported | createdGraph | restartedGraph
  | finished | consumed | claimed | abandoned => exact .of_same rfl
  | storedM3 stored =>
    obtain ⟨_, _, _, rfl⟩ := stored
    exact .of_same rfl
  | worked stored =>
    obtain ⟨_, _, _, _, _, rfl⟩ := stored
    exact .of_same rfl
  | begun events begun serving attended current left =>
    split at left
    · obtain ⟨staging, _, rfl⟩ := stage_ok left
      exact .of_insert staging.requested
    · subst left
      exact .of_same rfl
  | requested events inserted => exact .of_insert inserted
  | decided issued events deciding informed =>
    have spares := onDecision_spares informed
    have kept := deciding.keepsRequests issued
    intro id row found
    dsimp only
    rw [spares.approvals]
    exact kept id row found
  | cancelled events some => exact .of_same some.spares.approvals
  | revoked events spent cancels => exact .of_same cancels.spares.approvals
  | recovered events middle proved catalogValid recoverable revised expired => exact .of_same expired.spares.approvals

end Ledgers

section Launches

variable {db after last : Database} {row : StagedRow}

/-- A row of the ledger of launches goes on: for the same run and request, and waiting only if it waited. -/
structure StagedRow.Continues (row later : StagedRow) : Prop where
  runId : later.runId = row.runId
  requestId : later.requestId = row.requestId
  stagedAtMs : later.stagedAtMs = row.stagedAtMs
  waits : later.state.isWaiting = true →
    row.state.isWaiting = true ∧ later.finishedAtMs = row.finishedAtMs ∧ later.cancelReason = row.cancelReason

theorem StagedRow.Continues.refl (row : StagedRow) : row.Continues row :=
  ⟨rfl, rfl, rfl, fun waits => ⟨waits, rfl, rfl⟩⟩

theorem StagedRow.Continues.trans {later last : StagedRow} (first : row.Continues later) (second : later.Continues last) :
    row.Continues last where
  runId := second.runId.trans first.runId
  requestId := second.requestId.trans first.requestId
  stagedAtMs := second.stagedAtMs.trans first.stagedAtMs
  waits waits := by
    obtain ⟨waited, finished, reason⟩ := second.waits waits
    obtain ⟨before, finishedBefore, reasonBefore⟩ := first.waits waited
    exact ⟨before, finished.trans finishedBefore, reason.trans reasonBefore⟩

/-- The ledger has the same launches, each of which goes on. -/
def KeepsLaunches (db after : Database) : Prop :=
  ∀ later ∈ after.staged.rows, ∃ row ∈ db.staged.rows, row.Continues later

theorem KeepsLaunches.of_same (same : after.staged = db.staged) : KeepsLaunches db after :=
  fun later member => ⟨later, same ▸ member, .refl later⟩

theorem KeepsLaunches.trans (first : KeepsLaunches db after) (second : KeepsLaunches after last) :
    KeepsLaunches db last := by
  intro later member
  obtain ⟨middle, inside, further⟩ := second later member
  obtain ⟨row, before, forward⟩ := first middle inside
  exact ⟨row, before, forward.trans further⟩

theorem KeepsLaunches.of_update {runId : RunId} {change : StagedRow → StagedRow}
    (kept : ∀ row, (change row).runId = row.runId) (same : after.staged = db.staged.update runId change kept)
    (continues : ∀ row, db.staged.find? runId = some row → row.Continues (change row)) : KeepsLaunches db after := by
  intro later member
  rw [same, Table.mem_update] at member
  rcases member with ⟨inside, _⟩ | ⟨row, inside, rfl, rfl⟩
  · exact ⟨later, inside, .refl later⟩
  · exact ⟨row, inside, continues row (Table.find?_mem inside)⟩

theorem StagedRow.continues_cancel (finishedAtMs : Nat) (reason : String) (row : StagedRow) :
    row.Continues (row.cancel finishedAtMs reason) :=
  ⟨rfl, rfl, rfl, fun waits => by cases waits⟩

/-- A launch moves on from waiting, or stays. -/
theorem StagedRow.continues_move {state : StagedLaunchState} (waits : state.isWaiting = true → row.state.isWaiting = true) :
    row.Continues (row.move state) :=
  ⟨rfl, rfl, rfl, fun later => ⟨waits later, rfl, rfl⟩⟩

variable [Sha256] [SerdeJson]

theorem MayCancel.keepsLaunches {now : Nat} {requestId : ApprovalRequestId} {reason : String}
    (cancels : MayCancel db now requestId reason after) : KeepsLaunches db after := by
  rcases cancels with ⟨rfl, _⟩ | ⟨_, _, _, _, _, _, cancels⟩
  · exact .of_same rfl
  · obtain ⟨_, _, _, rfl⟩ := cancels.left
    exact .of_update StagedRow.cancel_runId rfl fun row _ => row.continues_cancel _ _

theorem CancelsSome.keepsLaunches {now : Nat} (cancels : CancelsSome now db after) : KeepsLaunches db after := by
  induction cancels with
  | refl => exact .of_same rfl
  | tail _ last ih =>
    obtain ⟨_, _, cancels⟩ := last
    exact ih.trans cancels.keepsLaunches

theorem onDecision_keepsLaunches {now : Nat} {request : ApprovalRequest} {kind : ApprovalDecisionKind}
    (informed : onDecision db now request kind = .ok after) : KeepsLaunches db after := by
  rcases onDecision_ok informed with ⟨_, rfl⟩ | ⟨_, row, _, _, found, awaiting, _, _, _, _, _, rfl⟩ | ⟨_, cancels⟩
  · exact .of_same rfl
  · refine .of_update StagedRow.move_runId rfl fun other located => StagedRow.continues_move fun _ => ?_
    rw [Table.find?_mem (stagedFor?_some found).1] at located
    obtain rfl := Option.some.inj located
    rw [awaiting]
    rfl
  · exact cancels.keepsLaunches

omit [Sha256] [SerdeJson] in
theorem recovered_keepsLaunches (db : Database) (now : Nat) (daemon : DaemonState) (revision : Nat)
    (events : List String) : KeepsLaunches db (db.recovered now daemon revision events) := by
  intro later member
  obtain ⟨row, inside, rfl⟩ := List.mem_map.mp member
  refine ⟨row, inside, ?_⟩
  unfold abandonDispatch
  split
  · exact StagedRow.continues_move fun waits => by cases waits
  · exact .refl row

/-- The new row of a launch that is staged, with everything its context needs. -/
def Launched (db : Database) (row : StagedRow) : Prop :=
  row.stagedAtMs < sqlLimit ∧
    ∃ run, db.identity.content.run? row.runId = some run ∧ Nonempty (Waiting db run)

/-- A change carries every launch on, or stages a new one. -/
theorem Change.launches {action : Action} (change : Change db action after) :
    ∀ later ∈ after.staged.rows, (∃ row ∈ db.staged.rows, row.Continues later) ∨ Launched after later := by
  have carried : KeepsLaunches db after → ∀ later ∈ after.staged.rows,
      (∃ row ∈ db.staged.rows, row.Continues later) ∨ Launched after later :=
    fun kept later member => .inl (kept later member)
  cases change with
  | quiet | shifted | replacedCatalog | replacedM3 | prepared | accepted | reported | createdGraph | restartedGraph
  | finished | requested | consumed => exact carried (.of_same rfl)
  | storedM3 stored =>
    obtain ⟨_, _, _, rfl⟩ := stored
    exact carried (.of_same rfl)
  | worked stored =>
    obtain ⟨_, _, _, _, _, rfl⟩ := stored
    exact carried (.of_same rfl)
  | begun events begun serving attended current left =>
    split at left
    · obtain ⟨staging, _, rfl⟩ := stage_ok left
      intro later member
      have rows := Table.rows_insert staging.launched
      simp only [Staging.database, rows, List.mem_append, List.mem_singleton] at member
      rcases member with inside | rfl
      · exact .inl ⟨later, inside, .refl later⟩
      · have context : validateStagedContext { staging.database events with events } staging.run false true = .ok () :=
          staging.context
        obtain ⟨waiting, _⟩ := validateStagedContext_ok.mp context
        have bounded := staging.bounded
        exact .inr ⟨Nat.lt_of_le_of_lt (Nat.le_add_right _ _) bounded, staging.run, staging.runFound, ⟨waiting⟩⟩
    · subst left
      exact carried (.of_same rfl)
  | decided issued events deciding informed =>
    have kept := onDecision_keepsLaunches informed
    exact carried kept
  | cancelled events some =>
    have kept := some.keepsLaunches
    exact carried kept
  | revoked events spent cancels =>
    have kept := cancels.keepsLaunches
    exact carried kept
  | claimed events claiming =>
    refine carried (.of_update StagedRow.move_runId rfl fun row found => StagedRow.continues_move fun waits => ?_)
    cases waits
  | abandoned events abandoning =>
    refine carried (.of_update StagedRow.move_runId rfl fun row found => StagedRow.continues_move fun waits => ?_)
    cases waits
  | @recovered now _ revision events middle proved catalogValid recoverable revised expired =>
    exact carried ((recovered_keepsLaunches db now ⟨bump db.daemon.revision, .recovering⟩ revision middle).trans
      expired.keepsLaunches)

end Launches

section Attempts

variable {db after last : Database} {runId other : RunId} {id executionId : GraphRunId} {nodeId : GraphNodeId}

/-- Where an attempt of the run is the latest, it stays the latest, as it is. -/
def KeepsAttempt (runId : RunId) (db after : Database) : Prop :=
  ∀ executionId nodeId attempt, db.latestAttempt executionId nodeId = some attempt → attempt.runId = runId →
    after.latestAttempt executionId nodeId = some attempt

theorem KeepsAttempt.of_same (same : after.nodeRuns = db.nodeRuns) : KeepsAttempt runId db after := by
  intro executionId nodeId attempt latest _
  simp only [Database.latestAttempt, Database.maxAttempt, Database.attempts, same] at latest ⊢
  exact latest

theorem KeepsAttempt.trans (first : KeepsAttempt runId db after) (second : KeepsAttempt runId after last) :
    KeepsAttempt runId db last :=
  fun executionId nodeId attempt latest own =>
    second executionId nodeId attempt (first executionId nodeId attempt latest own) own

/-- The attempt of another run ends. -/
theorem KeepsAttempt.of_finish {finishedAt : String} {terminalState : NormalizedRunState} {failure : Option AdapterFailure}
    (apart : runId ≠ other) (same : after.nodeRuns =
      db.nodeRuns.update other (NodeRunRow.finish finishedAt terminalState failure) NodeRunRow.finish_runId) :
    KeepsAttempt runId db after := by
  intro executionId nodeId attempt latest own
  have rows := congrArg Table.rows same
  rw [Table.rows_update] at rows
  rw [latestAttempt_map rows, latest, Option.map_some, if_neg (own ▸ apart)]
  intro row
  split <;> exact ⟨rfl, rfl, rfl⟩

/-- An attempt at another node begins. -/
theorem latestAttempt_insert {fresh : NodeRunRow} (rows : after.nodeRuns.rows = db.nodeRuns.rows ++ [fresh])
    (apart : ¬(fresh.executionId = executionId ∧ fresh.nodeId = nodeId)) :
    after.latestAttempt executionId nodeId = db.latestAttempt executionId nodeId := by
  have attempts : after.attempts executionId nodeId = db.attempts executionId nodeId := by
    have elsewhere : (decide (fresh.executionId = executionId) && decide (fresh.nodeId = nodeId)) = false := by
      rw [← Bool.decide_and, decide_eq_false apart]
    simp only [Database.attempts, rows, List.filter_append, List.filter_cons, elsewhere, List.filter_nil,
      Bool.false_eq_true, if_false, List.append_nil]
  unfold Database.latestAttempt Database.maxAttempt
  rw [attempts]

variable [Sha256] [SerdeJson] {run : Run}

/-- A launch that still waits was not the one that was cancelled. -/
theorem Cancels.apart {now : Nat} {row later : StagedRow} {reason : String} {plan : ProviderLaunchPlan}
    {graphRow : GraphRow} {execution : GraphExecution}
    (cancels : Cancels db now row reason run plan graphRow execution after) (member : later ∈ after.staged.rows)
    (waits : later.state.isWaiting = true) : later.runId ≠ row.runId := by
  obtain ⟨_, _, _, rfl⟩ := cancels.left
  dsimp only at member
  rcases Table.mem_update.mp member with ⟨_, apart⟩ | ⟨_, _, _, rfl⟩
  · exact apart
  · cases waits

theorem MayCancel.keepsAttempt {now : Nat} {requestId : ApprovalRequestId} {reason : String} {later : StagedRow}
    (cancels : MayCancel db now requestId reason after) (member : later ∈ after.staged.rows)
    (waits : later.state.isWaiting = true) : KeepsAttempt later.runId db after := by
  rcases cancels with ⟨rfl, _⟩ | ⟨_, _, _, _, _, _, cancels⟩
  · exact .of_same rfl
  · have apart := cancels.apart member waits
    obtain ⟨_, _, _, rfl⟩ := cancels.left
    exact .of_finish apart rfl

theorem CancelsSome.keepsAttempt {now : Nat} {later : StagedRow} (cancels : CancelsSome now db after)
    (member : later ∈ after.staged.rows) (waits : later.state.isWaiting = true) : KeepsAttempt later.runId db after := by
  induction cancels generalizing later with
  | refl => exact .of_same rfl
  | tail _ last ih =>
    obtain ⟨_, _, cancels⟩ := last
    obtain ⟨row, inside, continues⟩ := cancels.keepsLaunches later member
    have before := ih inside (continues.waits waits).1
    rw [← continues.runId] at before
    exact before.trans (cancels.keepsAttempt member waits)

theorem onDecision_keepsAttempt {now : Nat} {request : ApprovalRequest} {kind : ApprovalDecisionKind} {later : StagedRow}
    (informed : onDecision db now request kind = .ok after) (member : later ∈ after.staged.rows)
    (waits : later.state.isWaiting = true) : KeepsAttempt later.runId db after := by
  rcases onDecision_ok informed with ⟨_, rfl⟩ | ⟨_, _, _, _, _, _, _, _, _, _, _, rfl⟩ | ⟨_, cancels⟩
  · exact .of_same rfl
  · exact .of_same rfl
  · exact cancels.keepsAttempt member waits

omit [SerdeJson] [Sha256] in
/-- A node that is occupied was pending. -/
theorem occupyNode_pending {before execution : GraphExecution} {owner : String} {staged : Bool}
    (done : occupyNode before nodeId owner runId staged = .ok execution) :
    ∃ node, before.node? nodeId = some node ∧ node.state = .pending := by
  rcases occupyNode_ok done with ⟨_, staged⟩ | ⟨_, _, claim, _⟩
  · obtain ⟨_, node, _, _, _, _, found, pending, _⟩ := GraphExecution.stageNode_ok staged
    exact ⟨node, found, pending⟩
  · obtain ⟨_, node, _, _, found, pending, _⟩ := GraphExecution.claimNode_ok claim
    exact ⟨node, found, pending⟩

/-- The node that a run begins at is not the one of a launch that waits. -/
theorem Beginning.apart {now : Nat} {ids : RunIds} {command : BeginGraphNodeRunCommand}
    (begun : Beginning db now ids id command) (waiting : Waiting db run) :
    ¬(id = waiting.plan.executionId ∧ command.nodeId = waiting.plan.nodeId) := by
  rintro ⟨rfl, same⟩
  obtain ⟨node, found, pending⟩ := occupyNode_pending begun.occupied
  have stored := Option.some.inj (begun.found.symm.trans waiting.rowFound)
  rw [stored, same, waiting.nodeFound] at found
  rw [← Option.some.inj found, waiting.nodeAwaits] at pending
  cases pending

theorem Beginning.keepsAttempt {now : Nat} {ids : RunIds} {command : BeginGraphNodeRunCommand}
    (begun : Beginning db now ids id command) (waiting : Waiting db run) (same : after.nodeRuns = begun.nodeRuns) :
    after.latestAttempt waiting.plan.executionId waiting.plan.nodeId = some waiting.attempt := by
  have rows := Table.rows_insert begun.attempted
  rw [← same] at rows
  rw [latestAttempt_insert rows (begun.apart waiting), waiting.latest]

/-- The attempt of a launch that waits on is still the latest at its node, and open. -/
theorem Change.keepsAttempt {action : Action} {later : StagedRow} (change : Change db action after)
    (waiting : Waiting db run) (member : later ∈ after.staged.rows) (same : later.runId = run.metadata.id)
    (waits : later.state.isWaiting = true) :
    after.latestAttempt waiting.plan.executionId waiting.plan.nodeId = some waiting.attempt := by
  have own : waiting.attempt.runId = later.runId := by
    have opened := waiting.attemptOpen
    simp only [isOpenAttempt, Bool.and_eq_true, decide_eq_true_eq] at opened
    rw [opened.1.1.1.1, waiting.planRun, same]
  have kept : KeepsAttempt later.runId db after →
      after.latestAttempt waiting.plan.executionId waiting.plan.nodeId = some waiting.attempt :=
    fun kept => kept _ _ _ waiting.latest own
  cases change with
  | quiet | shifted | replacedCatalog | replacedM3 | prepared | accepted | reported | createdGraph | restartedGraph
  | requested | consumed | claimed | abandoned => exact kept (.of_same rfl)
  | storedM3 stored =>
    obtain ⟨_, _, _, rfl⟩ := stored
    exact kept (.of_same rfl)
  | worked stored =>
    obtain ⟨_, _, _, _, _, rfl⟩ := stored
    exact kept (.of_same rfl)
  | begun events begun serving attended current left =>
    exact begun.keepsAttempt waiting (Beginning.stages left).nodeRuns
  | finished events trusted finishing =>
    have named := (Lookup.find_some finishing.runFound).2
    have apart : run.metadata.id ≠ finishing.run.metadata.id := by
      refine Undisturbed.apart_of_state waiting.runFound waiting.awaiting (named.symm ▸ finishing.runFound) fun state => ?_
      have active := finishing.active
      rw [state] at active
      cases active
    refine kept (.of_finish ?_ rfl)
    rw [same, ← named]
    exact apart
  | decided issued events deciding informed =>
    have kept' := onDecision_keepsAttempt informed member waits
    exact kept kept'
  | cancelled events some =>
    have kept' := some.keepsAttempt member waits
    exact kept kept'
  | revoked events spent cancels =>
    have kept' := cancels.keepsAttempt member waits
    exact kept kept'
  | recovered events middle proved catalogValid recoverable revised expired =>
    have kept' := expired.keepsAttempt member waits
    exact kept kept'

end Attempts

section Waiting

variable [Sha256] [SerdeJson] {db after : Database} {run : Run} {row : StagedRow}

omit [SerdeJson] in
/-- An execution keeps its graph. -/
theorem GraphsFollow.frame (follow : GraphsFollow db after) (sound : SoundGraphs db) {id : GraphRunId} {graph : GraphRow}
    (found : db.graphs.find? id = some graph) : ∃ later, after.graphs.find? id = some later ∧
      GraphExecution.Frame graph.execution later.execution := by
  obtain ⟨later, reached, leads⟩ := follow.kept id graph found
  refine ⟨later, reached, leads.relates (sound id graph found) GraphExecution.Frame.refl (fun _ _ _ => .trans) ?_⟩
  exact fun _ _ valid written => (written.kept valid).1

omit [Sha256] [SerdeJson] in
theorem Coherent.undispatched (coherent : Coherent db row) (waits : row.state.isWaiting = true) :
    ∃ run plan node, Undispatched db row run plan node := by
  cases coherent with
  | awaiting _ held => exact ⟨_, _, _, held⟩
  | ready _ held => exact ⟨_, _, _, held⟩
  | cancelled state =>
    rw [state] at waits
    cases waits
  | claimed state => rcases state with state | state <;> rw [state] at waits <;> cases waits

/-- A plan that is still there, with its attempt, is loaded as before. -/
theorem Waiting.stillPlanned (waiting : Waiting db run) (plans : KeepsPlans db after)
    (latest : after.latestAttempt waiting.plan.executionId waiting.plan.nodeId = some waiting.attempt) :
    ProviderLaunchPlan.load after run.metadata.id = .ok waiting.plan := by
  have opened := waiting.attemptOpen
  simp only [isOpenAttempt, Bool.and_eq_true, decide_eq_true_eq] at opened
  have own : waiting.attempt.runId = run.metadata.id := opened.1.1.1.1.trans waiting.planRun
  have member : waiting.attempt ∈ after.nodeRuns.rows :=
    (List.mem_filter.mp (List.mem_of_find?_eq_some latest)).1
  have attempted : after.nodeRuns.find? run.metadata.id = db.nodeRuns.find? run.metadata.id := by
    rw [waiting.attemptStored.1, ← own, Table.find?_mem member]
  obtain ⟨⟨stored, found, _⟩, _⟩ := loadedPlan waiting.planned
  have planned := waiting.planned
  unfold ProviderLaunchPlan.load loadLaunchIdentity at planned ⊢
  rw [attempted, plans _ stored found]
  rw [found] at planned
  exact planned

/-- A launch that waits on after a change has the whole context it had before it. -/
theorem Waiting.follow {action : Action} (waiting : Waiting db run) (change : Change db action after)
    (graphs : SoundGraphs db) (launches : LaunchesSound after) (member : row ∈ after.staged.rows)
    (waits : row.state.isWaiting = true) (continues : waiting.launch.Continues row) : Nonempty (Waiting after run) := by
  have named : row.runId = run.metadata.id := continues.runId.trans (Table.find?_key waiting.launchFound)
  have follow := change.graphsFollow graphs
  have soundAfter := follow.sound graphs
  obtain ⟨later, plan, node, held⟩ := (launches.coherent row member).undispatched waits
  -- the run of a launch that waits has not moved
  have same : later = run := by
    obtain ⟨other, reached, advances⟩ := change.evolves.kept _ run waiting.runFound
    obtain rfl := Option.some.inj ((named ▸ held.runFound).symm.trans reached)
    rcases advances.moved with same | moved
    · exact same
    · exact absurd held.runState moved.dispatched
  subst same
  have samePlan : plan = waiting.plan := by
    obtain ⟨⟨stored, found, planSame⟩, _⟩ := loadedPlan waiting.planned
    obtain ⟨other, planned, rfl⟩ := held.planned
    rw [named, change.keepsPlans _ stored found] at planned
    rw [← Option.some.inj planned, planSame]
  subst samePlan
  obtain ⟨graph, graphFound, nodeFound⟩ := held.located
  obtain ⟨_, reached, frame⟩ := follow.frame graphs waiting.rowFound
  obtain rfl := Option.some.inj (graphFound.symm.trans reached)
  have latest := change.keepsAttempt waiting member named waits
  obtain ⟨session, sessionFound, agent, project⟩ :=
    change.keepsSessions _ _ _ waiting.runFound waiting.sessionFound
  obtain ⟨approval, approvalFound, request⟩ := change.keepsRequests _ _ waiting.approvalFound
  have sound := soundAfter _ _ graphFound
  have defined := waiting.defined
  have open_ := (continues.waits waits).2
  exact ⟨{ waiting with
    launch := row
    session
    row := graph
    node
    approval
    launchFound := named ▸ Table.find?_mem member
    launchWaits := waits
    launchUnfinished := open_.1.trans waiting.launchUnfinished
    launchUncancelled := open_.2.trans waiting.launchUncancelled
    planned := waiting.stillPlanned change.keepsPlans latest
    catalogValid := change.catalogValid waiting.catalogValid
    runFound := named ▸ held.runFound
    sessionFound
    sessionAgent := agent.trans waiting.sessionAgent
    sessionProject := project.trans waiting.sessionProject
    rowFound := graphFound
    graphValid := GraphExecution.validate_iff.mpr sound.valid
    rowRevision := sound.revision
    defined := by
      unfold GraphExecution.definition? at defined ⊢
      rw [frame.graph]
      exact defined
    nodeFound
    nodeAwaits := held.nodeState
    nodeOwner := held.owner
    nodeRun := held.bound.trans (congrArg some (named.trans waiting.planRun.symm))
    latest
    approvalFound := continues.requestId ▸ approvalFound
    approvalId := by rw [request, waiting.approvalId, continues.requestId]
    requested := request ▸ waiting.requested }⟩

end Waiting

end Bastet.Daemon
