import Bastet.Core.ExecutionWaiting
import Bastet.Daemon.GraphWrites
import Bastet.Daemon.RunLifecycle

/-! What a change leaves of a launch that waits for an approval: its run, its plan and its
node, unless the change is the answer to the approval. -/

set_option autoImplicit false

namespace Bastet.Daemon

open Fallible Bastet.Core

/-- The undispatched run of a launch, its plan and its node are after the change what they were. -/
structure Undisturbed (db after : Database) (runId : RunId) : Prop where
  run : ∀ run, db.identity.content.run? runId = some run → run.state = .awaitingApproval → run.startedAt = none →
    after.identity.content.run? runId = some run
  plan : ∀ row, db.plans.find? runId = some row → after.plans.find? runId = some row
  node : ∀ id row, db.graphs.find? id = some row →
    ∃ later, after.graphs.find? id = some later ∧ StillAwaits runId row.execution later.execution

namespace Undisturbed

variable {db after last : Database} {runId : RunId}

theorem trans (first : Undisturbed db after runId) (second : Undisturbed after last runId) :
    Undisturbed db last runId where
  run run found awaiting unstarted := second.run run (first.run run found awaiting unstarted) awaiting unstarted
  plan row found := second.plan row (first.plan row found)
  node id row found := by
    obtain ⟨middle, reached, waits⟩ := first.node id row found
    obtain ⟨later, ended, again⟩ := second.node id middle reached
    exact ⟨later, ended, waits.trans again⟩

theorem node_same (graphs : after.graphs = db.graphs) (id : GraphRunId) (row : GraphRow)
    (found : db.graphs.find? id = some row) :
    ∃ later, after.graphs.find? id = some later ∧ StillAwaits runId row.execution later.execution :=
  ⟨row, graphs ▸ found, .refl _⟩

theorem node_insert {fresh : GraphRow} {graphs : Table GraphRow.executionId}
    (inserted : db.graphs.insert fresh = some graphs) (same : after.graphs = graphs) (id : GraphRunId) (row : GraphRow)
    (found : db.graphs.find? id = some row) :
    ∃ later, after.graphs.find? id = some later ∧ StillAwaits runId row.execution later.execution :=
  ⟨row, same ▸ Table.find?_insert_of_some inserted found, .refl _⟩

theorem node_update {id : GraphRunId} {row : GraphRow} {execution : GraphExecution} {updatedAt : String}
    (stored : db.graphs.find? id = some row) (waits : StillAwaits runId row.execution execution)
    (graphs : after.graphs = db.graphs.update id (GraphRow.store execution updatedAt) GraphRow.store_executionId)
    (other : GraphRunId) (old : GraphRow) (found : db.graphs.find? other = some old) :
    ∃ later, after.graphs.find? other = some later ∧ StillAwaits runId old.execution later.execution := by
  rw [graphs, Table.find?_update]
  by_cases same : other = id
  · subst same
    obtain rfl := Option.some.inj (stored.symm.trans found)
    exact ⟨_, by rw [if_pos rfl, stored, Option.map_some], waits⟩
  · exact ⟨old, by rw [if_neg same, found], .refl _⟩

theorem run_update {change : Run → Run} {other : RunId} {catalog : IdentityCatalog} {run : Run}
    (kept : ∀ run, (change run).metadata.id = run.metadata.id) (apart : runId ≠ other)
    (found : catalog.run? runId = some run) : (catalog.updateRun other change).run? runId = some run := by
  rw [IdentityCatalog.run?_updateRun kept, if_neg apart, found]

/-- A run that is at work, or asked to stop, does not wait for an approval. -/
theorem apart_of_state {run moved : Run} {other : RunId} (found : db.identity.content.run? runId = some run)
    (awaiting : run.state = .awaitingApproval) (located : db.identity.content.run? other = some moved)
    (state : moved.state ≠ .awaitingApproval) : runId ≠ other := by
  rintro rfl
  obtain rfl := Option.some.inj (found.symm.trans located)
  exact state awaiting

end Undisturbed

/-- The plan of a run is the stored one, and names the run. -/
theorem loadedPlan [Sha256] [SerdeJson] {db : Database} {runId : RunId} {plan : ProviderLaunchPlan}
    (loaded : ProviderLaunchPlan.load db runId = .ok plan) :
    (∃ row, db.plans.find? runId = some row ∧ row.plan = plan) ∧ plan.runId = runId := by
  simp only [ProviderLaunchPlan.load, bind_ok, exists_unit, required_ok, reject_ok, Bool.or_eq_false_iff,
    decide_eq_false_iff_not, not_not, ne_eq] at loaded
  obtain ⟨row, found, ⟨⟨_, same⟩, _⟩, loaded⟩ := loaded
  have kept : row.plan = plan := by
    split at loaded <;> simp only [bind_ok, exists_unit, pure_ok] at loaded <;> grind
  exact ⟨⟨row, found, kept⟩, kept ▸ same⟩

/-- A loaded plan is the plan of the attempt recorded for its run. -/
theorem loadedPlan_attempt [Sha256] [SerdeJson] {db : Database} {runId : RunId} {plan : ProviderLaunchPlan}
    (loaded : ProviderLaunchPlan.load db runId = .ok plan) :
    ∃ attempt, db.nodeRuns.find? runId = some attempt ∧ attempt.executionId = plan.executionId ∧
      attempt.nodeId = plan.nodeId := by
  obtain ⟨⟨row, found, rfl⟩, _⟩ := loadedPlan loaded
  simp only [ProviderLaunchPlan.load, bind_ok, exists_unit, required_ok, reject_ok, found, Option.some.injEq,
    exists_eq_left'] at loaded
  obtain ⟨_, loaded⟩ := loaded
  have matched : (db.nodeRuns.find? runId).any row.plan.matchesAttempt = true := by
    split at loaded <;> simp only [bind_ok, exists_unit, reject_ok, Bool.not_eq_false'] at loaded
    · exact loaded.2.1
    · exact loaded.2.1
  obtain ⟨attempt, recorded, matches_⟩ := (Option.any_eq_true _ _).mp matched
  simp only [ProviderLaunchPlan.matchesAttempt, Bool.and_eq_true, decide_eq_true_eq] at matches_
  exact ⟨attempt, recorded, matches_.1.1, matches_.1.2⟩

section Operations

variable {runId : RunId} {before after : GraphExecution}

theorem occupyNode_waits {nodeId : GraphNodeId} {owner : String} {other : RunId} {staged : Bool}
    (done : occupyNode before nodeId owner other staged = .ok after) : StillAwaits runId before after := by
  rcases occupyNode_ok done with ⟨_, staged⟩ | ⟨_, _, claim, bound⟩
  · exact .of_transitions (GraphExecution.stageNode_transitions staged) (by simp [Operation.answers])
  · have first : StillAwaits runId before _ :=
      .of_transitions (GraphExecution.claimNode_transitions claim) (by simp [Operation.answers])
    exact first.trans (.of_transitions (GraphExecution.bindRun_transitions bound) (by simp [Operation.answers]))

theorem finishTerminal_waits {nodeId : GraphNodeId} {owner : String} {state : GraphNodeState}
    {failure : Option AdapterFailure} (done : before.finishTerminal nodeId owner state failure = .ok after) :
    StillAwaits runId before after :=
  .of_transitions (GraphExecution.finishTerminal_transitions done) (by simp [Operation.answers])

theorem finishedGraph_waits [Sha256] {command : FinishGraphNodeRunCommand} {state : GraphNodeState}
    {failure : Option AdapterFailure} {output : Option GraphNodeOutput}
    (made : finishedGraph before command state failure output = .ok after) : StillAwaits runId before after := by
  simp only [finishedGraph, bind_ok] at made
  obtain ⟨finished, ended, made⟩ := made
  refine (finishTerminal_waits ended).trans ?_
  cases output with
  | none => exact pure_ok.mp made ▸ .refl _
  | some output =>
    obtain ⟨_, _, _, _, _, _, rfl⟩ := GraphExecution.recordOutput_ok made
    exact .of_nodes rfl

theorem Works.waits (aligned : before.Aligned) {command : Command} (works : Works before command after) :
    StillAwaits runId before after := by
  cases works with
  | retried done =>
    exact .of_transitions (GraphExecution.retryFailed_transitions aligned done) (by simp [Operation.answers])
  | @claimed _ _ _ owner limit _ _ done =>
    have moves := GraphExecution.claimReady_transitions aligned owner limit
    rw [done] at moves
    exact .of_transitions moves (by simp [Operation.answers])
  | completed done => exact .of_transitions (GraphExecution.complete_transitions done) (by simp [Operation.answers])

theorem reconciled_waits (now : Nat) (row : GraphRow) :
    StillAwaits runId row.execution (row.reconciled now).execution := by
  rw [GraphRow.reconciled_execution]
  exact .of_transitions (GraphExecution.reconcileAfterRestart_transitions row.execution) (by simp [Operation.answers])

end Operations

section Catalogs

variable {catalog next : IdentityCatalog} {runId : RunId} {run : Run}

theorem finishedCatalog_other {now : Nat} {ended : Run} {session : Session} {state : NormalizedRunState}
    {name : Option String} (made : finishedCatalog catalog now ended session state name = .ok next)
    (apart : runId ≠ ended.metadata.id) (found : catalog.run? runId = some run) : next.run? runId = some run := by
  have updated : (catalog.updateRun ended.metadata.id (endRun state (timestamp now))).run? runId = some run :=
    Undisturbed.run_update (fun _ => rfl) apart found
  simp only [finishedCatalog, bind_ok] at made
  obtain ⟨_, _, made⟩ := made
  cases name with
  | none => exact pure_ok.mp made ▸ updated
  | some name =>
    simp only [bind_ok, exists_unit, pure_ok] at made
    obtain ⟨_, _, _, rfl⟩ := made
    exact updated

/-- A report is about a run at work. -/
theorem Reports.awaiting {db : Database} {updatedAt : String} {command : Command}
    (reports : Reports db updatedAt command next) (found : db.identity.content.run? runId = some run)
    (awaiting : run.state = .awaitingApproval) : next.run? runId = some run := by
  cases reports with
  | @running reported session marked _ name current located active mark named =>
    have apart : runId ≠ reported.metadata.id := by
      refine Undisturbed.apart_of_state found awaiting located fun same => ?_
      rw [same] at active
      cases active
    have renamed : next.run? runId = marked.run? runId := by
      rcases nameSession_ok named with rfl | ⟨_, rfl⟩ <;> rfl
    rw [renamed, markRunning_ok mark]
    split
    · exact Undisturbed.run_update (fun _ => rfl) apart found
    · exact found
  | @cancelling reported asked located open_ =>
    have apart : runId ≠ reported.metadata.id := by
      refine Undisturbed.apart_of_state found awaiting located fun same => ?_
      rw [same] at open_
      rcases open_ with cancellable | cancelling
      · cases cancellable
      · cases cancelling
    exact Undisturbed.run_update (fun _ => rfl) apart found

theorem withAttempt_run? {now : Nat} {ids : RunIds} {binding : ProviderRunBinding} {staged : Bool}
    (found : catalog.run? runId = some run) : (withAttempt catalog now ids binding staged).run? runId = some run := by
  simp only [IdentityCatalog.run?, withAttempt, List.find?_append] at found ⊢
  rw [found, Option.some_or]

/-- A run that was never dispatched is not recovered. -/
theorem recovered_awaiting (updatedAt : String) (found : catalog.run? runId = some run)
    (awaiting : run.state = .awaitingApproval) (unstarted : run.startedAt = none) :
    (catalog.recovered updatedAt).run? runId = some run := by
  rw [recovered_run?, found, Option.map_some, Run.recovered, if_pos ⟨awaiting, unstarted⟩]

end Catalogs

section Changes

variable [Sha256] [SerdeJson] {db after : Database} {runId : RunId}

omit [Sha256] [SerdeJson] in
/-- The recovery of the documents leaves the launches that wait. -/
theorem recovered_undisturbed (db : Database) (now : Nat) (daemon : DaemonState) (revision : Nat)
    (events : List String) (runId : RunId) : Undisturbed db (db.recovered now daemon revision events) runId where
  run _ := recovered_awaiting (timestamp now)
  plan _ found := found
  node id row found := by
    refine ⟨row.reconciled now, ?_, reconciled_waits now row⟩
    simp only [Database.recovered, Table.find?_updateAll, found, Option.map_some]

/-- The cancellation of one launch leaves the others. -/
theorem Cancels.undisturbed {now : Nat} {row : StagedRow} {reason : String} {run : Run} {plan : ProviderLaunchPlan}
    {graphRow : GraphRow} {execution : GraphExecution}
    (cancels : Cancels db now row reason run plan graphRow execution after) (sound : SoundGraphs db)
    (apart : runId ≠ row.runId) : Undisturbed db after runId := by
  have stored := sound _ _ cancels.stored
  have same : execution.id = plan.executionId :=
    ((Written.cancelled cancels.cancelled).kept stored.valid).1.id.trans
      (stored.id.symm.trans (Table.find?_key cancels.stored))
  have planRun : plan.runId = row.runId := (loadedPlan cancels.planned).2
  have waits : StillAwaits runId graphRow.execution execution := by
    refine .of_transitions (GraphExecution.cancelStagedNode_transitions cancels.cancelled) fun answered => ?_
    exact apart (Option.some.inj answered ▸ planRun)
  obtain ⟨grants, events, _, rfl⟩ := cancels.left
  have kept : ∀ run, (endRun .cancelled (timestamp (row.finishTime now)) run).metadata.id = run.metadata.id :=
    fun _ => rfl
  exact ⟨fun run found _ _ => Undisturbed.run_update kept apart found, fun _ found => found,
    Undisturbed.node_update (same ▸ cancels.stored) waits rfl⟩

end Changes

end Bastet.Daemon
