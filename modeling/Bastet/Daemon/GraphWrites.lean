import Bastet.Core.ExecutionWrites
import Bastet.Daemon.Changes

/-! What the store does to the executions it holds: every write of a stored execution is a
few operations on it, and increases its revision. -/

set_option autoImplicit false

namespace Bastet.Daemon

open Fallible Bastet.Core Lookup

variable [Sha256]

/-- What one transaction makes of a stored execution. -/
inductive Written (before : GraphExecution) : GraphExecution → Prop
  | retried {nodeId : GraphNodeId} {after : GraphExecution} (done : before.retryFailed nodeId = .ok after) :
      Written before after
  | claimed {owner : String} {limit : Nat} {claimed : List GraphNodeId} {after : GraphExecution}
      (done : before.claimReady owner limit = (.ok claimed, after)) : Written before after
  | completed {nodeId : GraphNodeId} {owner : String} {succeeded : Bool} {after : GraphExecution}
      (done : before.complete nodeId owner succeeded = .ok after) : Written before after
  | staged {nodeId : GraphNodeId} {owner : String} {runId : RunId} {after : GraphExecution}
      (done : before.stageNode nodeId owner runId = .ok after) : Written before after
  | bound {nodeId : GraphNodeId} {owner : String} {runId : RunId} {claimed after : GraphExecution}
      (claim : before.claimNode nodeId owner = .ok claimed) (done : claimed.bindRun nodeId owner runId = .ok after) :
      Written before after
  | activated {nodeId : GraphNodeId} {owner : String} {runId : RunId} {after : GraphExecution}
      (done : before.activateStagedNode nodeId owner runId = .ok after) : Written before after
  | cancelled {nodeId : GraphNodeId} {owner : String} {runId : RunId} {after : GraphExecution}
      (done : before.cancelStagedNode nodeId owner runId = .ok after) : Written before after
  | finished {nodeId : GraphNodeId} {owner : String} {state : GraphNodeState} {failure : Option AdapterFailure}
      {after : GraphExecution} (done : before.finishTerminal nodeId owner state failure = .ok after) :
      Written before after
  | recorded {nodeId : GraphNodeId} {owner : String} {state : GraphNodeState} {failure : Option AdapterFailure}
      {output : GraphNodeOutput} {finished after : GraphExecution}
      (finish : before.finishTerminal nodeId owner state failure = .ok finished)
      (done : finished.recordOutput output = .ok after) : Written before after
  | reconciled : Written before before.reconcileAfterRestart.2

namespace Written

variable {before after : GraphExecution}

/-- A write is a run of the public operations. -/
theorem operations (written : Written before after) :
    ∃ operations, after = Machine.run Operation.apply before operations := by
  cases written with
  | @retried nodeId _ done =>
    exact ⟨[.retryFailed nodeId], by simp only [Machine.run_cons, Machine.run_nil, Operation.apply, done, orUnchanged]⟩
  | @claimed owner limit claimed _ done =>
    exact ⟨[.claimReady owner limit], by simp only [Machine.run_cons, Machine.run_nil, Operation.apply, done]⟩
  | @completed nodeId owner succeeded _ done =>
    exact ⟨[.complete nodeId owner succeeded],
      by simp only [Machine.run_cons, Machine.run_nil, Operation.apply, done, orUnchanged]⟩
  | @staged nodeId owner runId _ done =>
    exact ⟨[.stageNode nodeId owner runId],
      by simp only [Machine.run_cons, Machine.run_nil, Operation.apply, done, orUnchanged]⟩
  | @bound nodeId owner runId _ _ claim done =>
    exact ⟨[.claimNode nodeId owner, .bindRun nodeId owner runId],
      by simp only [Machine.run_cons, Machine.run_nil, Operation.apply, claim, done, orUnchanged]⟩
  | @activated nodeId owner runId _ done =>
    exact ⟨[.activateStagedNode nodeId owner runId],
      by simp only [Machine.run_cons, Machine.run_nil, Operation.apply, done, orUnchanged]⟩
  | @cancelled nodeId owner runId _ done =>
    exact ⟨[.cancelStagedNode nodeId owner runId],
      by simp only [Machine.run_cons, Machine.run_nil, Operation.apply, done, orUnchanged]⟩
  | @finished nodeId owner state failure _ done =>
    exact ⟨[.finishTerminal nodeId owner state failure],
      by simp only [Machine.run_cons, Machine.run_nil, Operation.apply, done, orUnchanged]⟩
  | @recorded nodeId owner state failure output _ _ finish done =>
    exact ⟨[.finishTerminal nodeId owner state failure, .recordOutput output],
      by simp only [Machine.run_cons, Machine.run_nil, Operation.apply, finish, done, orUnchanged]⟩
  | reconciled => exact ⟨[.reconcileAfterRestart], rfl⟩

theorem kept (written : Written before after) (valid : before.Valid) :
    GraphExecution.Frame before after ∧ after.Valid ∧ Remembers before after := by
  obtain ⟨operations, rfl⟩ := written.operations
  exact Operation.run_kept valid operations

omit [Sha256] in
theorem claimReady_revised (aligned : before.Aligned) {owner : String} {limit : Nat} {claimed : List GraphNodeId}
    (done : before.claimReady owner limit = (.ok claimed, after)) :
    after = before ∨ after.revision = bump before.revision := by
  unfold GraphExecution.claimReady at done
  split at done
  · cases done
  · obtain ⟨nodes, chosen, ran, spec, result⟩ := GraphExecution.claimLoop_spec before.graph
      (GraphExecution.snapshot before.nodes) owner limit aligned.distinct []
    split at done
    · cases done
    · rename_i ids nodes looped
      rw [looped] at ran result
      obtain rfl : nodes = _ := ran
      obtain ⟨rfl, rfl⟩ : ids = claimed ∧ _ = after := by simpa only [Prod.mk.injEq, Except.ok.injEq] using done
      cases empty : ids.isEmpty
      · exact .inr rfl
      · left
        have none : chosen = [] := by
          rcases result with same | ⟨failed, _⟩
          · obtain rfl : ids = chosen := by simpa using same
            exact List.isEmpty_iff.mp empty
          · cases failed
        have same : nodes = before.nodes := ext_find aligned.distinct spec.keys fun id => by
          rw [spec.lookup id, none, if_neg List.not_mem_nil]
        rw [same]
        rfl

/-- A write leaves the execution as it was, or increases its revision. -/
theorem revised (written : Written before after) (aligned : before.Aligned) :
    after = before ∨ after.revision = bump before.revision := by
  cases written with
  | retried done =>
    obtain ⟨_, _, _, _, _, rfl⟩ := GraphExecution.retryFailed_ok done
    exact .inr rfl
  | claimed done => exact claimReady_revised aligned done
  | completed done =>
    obtain ⟨_, _, _, _, rfl⟩ := GraphExecution.complete_ok done
    split <;> exact .inr rfl
  | staged done =>
    simp only [GraphExecution.stageNode, bind_ok, pure_ok] at done
    obtain ⟨_, _, _, _, _, _, _, _, _, _, rfl⟩ := done
    exact .inr rfl
  | bound claim done =>
    obtain ⟨_, _, _, _, _, _, rfl⟩ := GraphExecution.claimNode_ok claim
    obtain ⟨_, _, _, _, _, rfl⟩ := GraphExecution.bindRun_ok done
    exact .inr rfl
  | activated done =>
    obtain ⟨_, _, _, _, _, rfl⟩ := GraphExecution.activateStagedNode_ok done
    exact .inr rfl
  | cancelled done =>
    obtain ⟨_, _, _, _, _, rfl⟩ := GraphExecution.cancelStagedNode_ok done
    exact .inr rfl
  | finished done =>
    obtain ⟨_, _, _, _, _, rfl⟩ := GraphExecution.finishTerminal_ok done
    split <;> exact .inr rfl
  | recorded finish done =>
    obtain ⟨_, _, _, _, _, rfl⟩ := GraphExecution.finishTerminal_ok finish
    obtain ⟨_, _, _, _, _, _, rfl⟩ := GraphExecution.recordOutput_ok done
    split <;> exact .inr rfl
  | reconciled =>
    by_cases moved : before.reconcileAfterRestart.1 = 0
    · exact .inl (reconcile_none moved)
    · refine .inr ?_
      have positive : 0 < before.nodes.countP fun node => node.state = .running := Nat.pos_of_ne_zero moved
      simp only [GraphExecution.reconcileAfterRestart, positive, if_true]

end Written

section Rows

/-- A row holds a valid execution under its own id and revision. -/
structure GraphRow.Sound (row : GraphRow) : Prop where
  id : row.executionId = row.execution.id
  revision : row.revision = row.execution.revision
  bounded : row.revision < sqlLimit
  valid : row.execution.Valid

/-- The row after a write of its execution. -/
inductive GraphRow.Rewritten (row : GraphRow) : GraphRow → Prop
  | store {execution : GraphExecution} (updatedAt : String) (written : Written row.execution execution)
      (bounded : execution.revision < sqlLimit) : GraphRow.Rewritten row (row.store execution updatedAt)

/-- A row after any number of writes. -/
def GraphRow.Leads : GraphRow → GraphRow → Prop :=
  Relation.ReflTransGen GraphRow.Rewritten

theorem GraphRow.Rewritten.sound {row later : GraphRow} (rewritten : row.Rewritten later) (sound : row.Sound) :
    later.Sound := by
  obtain ⟨_, written, bounded⟩ := rewritten
  obtain ⟨frame, valid, _⟩ := written.kept sound.valid
  exact ⟨sound.id.trans frame.id.symm, rfl, bounded, valid⟩

theorem GraphRow.Leads.sound {row later : GraphRow} (leads : row.Leads later) (sound : row.Sound) : later.Sound := by
  induction leads with
  | refl => exact sound
  | tail _ rewritten before => exact rewritten.sound before

/-- Whatever is reflexive, transitive and true of every write is true of a row and what it leads to. -/
theorem GraphRow.Leads.relates {row later : GraphRow} (leads : row.Leads later) (sound : row.Sound)
    {related : GraphExecution → GraphExecution → Prop} (reflexive : ∀ execution, related execution execution)
    (transitive : ∀ first second third, related first second → related second third → related first third)
    (respected : ∀ before after, before.Valid → Written before after → related before after) :
    related row.execution later.execution := by
  induction leads with
  | refl => exact reflexive _
  | tail leads rewritten before =>
    obtain ⟨_, written, _⟩ := rewritten
    exact transitive _ _ _ before (respected _ _ (GraphRow.Leads.sound leads sound).valid written)

/-- What has ended in an execution, other than by a failure, is in every later one. -/
theorem GraphRow.Leads.remembers {row later : GraphRow} (leads : row.Leads later) (sound : row.Sound) :
    Remembers row.execution later.execution :=
  leads.relates sound Remembers.refl (fun _ _ _ => .trans) fun _ _ valid written => (written.kept valid).2.2

variable {db after last : Database}

/-- Every stored row is sound. -/
def SoundGraphs (db : Database) : Prop :=
  ∀ id row, db.graphs.find? id = some row → row.Sound

/-- What happens to the stored executions: each is written any number of times, and a new one is sound. -/
structure GraphsFollow (db after : Database) : Prop where
  kept : ∀ id row, db.graphs.find? id = some row → ∃ later, after.graphs.find? id = some later ∧ row.Leads later
  added : ∀ id later, db.graphs.find? id = none → after.graphs.find? id = some later → later.Sound

namespace GraphsFollow

theorem sound (follow : GraphsFollow db after) (initial : SoundGraphs db) : SoundGraphs after := by
  intro id later found
  cases before : db.graphs.find? id with
  | none => exact follow.added id later before found
  | some row =>
    obtain ⟨other, again, leads⟩ := follow.kept id row before
    obtain rfl := Option.some.inj (again.symm.trans found)
    exact leads.sound (initial id row before)

theorem of_same (same : after.graphs = db.graphs) : GraphsFollow db after where
  kept _ row found := ⟨row, same ▸ found, .refl⟩
  added id later none found := by
    rw [same, none] at found
    cases found

theorem trans (first : GraphsFollow db after) (second : GraphsFollow after last) : GraphsFollow db last where
  kept id row found := by
    obtain ⟨middle, reached, leads⟩ := first.kept id row found
    obtain ⟨later, ended, further⟩ := second.kept id middle reached
    exact ⟨later, ended, Relation.ReflTransGen.trans leads further⟩
  added id later absent found := by
    cases middle : after.graphs.find? id with
    | none => exact second.added id later middle found
    | some row =>
      obtain ⟨other, again, leads⟩ := second.kept id row middle
      obtain rfl := Option.some.inj (again.symm.trans found)
      exact leads.sound (first.added id row absent middle)

/-- One row is written. -/
theorem of_update {id : GraphRunId} {row : GraphRow} {execution : GraphExecution} {updatedAt : String}
    (stored : db.graphs.find? id = some row) (written : Written row.execution execution)
    (bounded : execution.revision < sqlLimit)
    (graphs : after.graphs = db.graphs.update id (GraphRow.store execution updatedAt) GraphRow.store_executionId) :
    GraphsFollow db after where
  kept other old found := by
    rw [graphs, Table.find?_update]
    by_cases same : other = id
    · subst same
      obtain rfl := Option.some.inj (stored.symm.trans found)
      exact ⟨_, by rw [if_pos rfl, stored, Option.map_some], .single (.store updatedAt written bounded)⟩
    · exact ⟨old, by rw [if_neg same, found], .refl⟩
  added other later absent found := by
    rw [graphs, Table.find?_update, absent] at found
    split at found <;> cases found

/-- A valid execution is stored under its own id. -/
theorem of_insert {execution : GraphExecution} {now : Nat} {graphs : Table GraphRow.executionId}
    (inserted : db.graphs.insert ⟨execution.id, execution.revision, execution, timestamp now⟩ = some graphs)
    (valid : execution.Valid) (bounded : execution.revision < sqlLimit) (same : after.graphs = graphs) :
    GraphsFollow db after where
  kept id row found := ⟨row, same ▸ Table.find?_insert_of_some inserted found, .refl⟩
  added id later absent found := by
    rw [same, Table.find?_insert inserted] at found
    split at found
    · obtain rfl := Option.some.inj found
      exact ⟨rfl, rfl, bounded, valid⟩
    · rw [absent] at found
      cases found

end GraphsFollow

variable [SerdeJson]

theorem Cancels.graphsFollow {now : Nat} {row : StagedRow} {reason : String} {run : Run} {plan : ProviderLaunchPlan}
    {graphRow : GraphRow} {execution : GraphExecution}
    (cancels : Cancels db now row reason run plan graphRow execution after) (sound : SoundGraphs db) :
    GraphsFollow db after := by
  have stored := sound _ _ cancels.stored
  have written : Written graphRow.execution execution := .cancelled cancels.cancelled
  -- the row is written by the id of its execution, which is the one it is stored under
  have same : execution.id = plan.executionId :=
    (written.kept stored.valid).1.id.trans (stored.id.symm.trans (Table.find?_key cancels.stored))
  have bounded := cancels.bounded
  obtain ⟨grants, events, _, rfl⟩ := cancels.left
  exact .of_update (same ▸ cancels.stored) written bounded rfl

theorem MayCancel.graphsFollow {now : Nat} {requestId : ApprovalRequestId} {reason : String}
    (cancels : MayCancel db now requestId reason after) (sound : SoundGraphs db) : GraphsFollow db after := by
  rcases cancels with ⟨rfl, _⟩ | ⟨_, _, _, _, _, _, cancels⟩
  · exact .of_same rfl
  · exact cancels.graphsFollow sound

theorem CancelsSome.graphsFollow {now : Nat} (cancels : CancelsSome now db after) (sound : SoundGraphs db) :
    GraphsFollow db after := by
  induction cancels with
  | refl => exact .of_same rfl
  | tail _ last ih =>
    obtain ⟨_, _, cancels⟩ := last
    exact ih.trans (cancels.graphsFollow (ih.sound sound))

theorem onDecision_graphsFollow {now : Nat} {request : ApprovalRequest} {kind : ApprovalDecisionKind}
    (informed : onDecision db now request kind = .ok after) (sound : SoundGraphs db) : GraphsFollow db after := by
  rcases onDecision_ok informed with ⟨_, rfl⟩ | ⟨_, _, _, _, _, _, _, _, _, _, _, rfl⟩ | ⟨_, cancels⟩
  · exact .of_same rfl
  · exact .of_same rfl
  · exact cancels.graphsFollow sound

omit [SerdeJson] in
theorem finishedGraph_written {before after : GraphExecution} {command : FinishGraphNodeRunCommand}
    {state : GraphNodeState} {failure : Option AdapterFailure} {output : Option GraphNodeOutput}
    (made : finishedGraph before command state failure output = .ok after) : Written before after := by
  simp only [finishedGraph, bind_ok] at made
  obtain ⟨finished, ended, made⟩ := made
  cases output with
  | none => exact pure_ok.mp made ▸ .finished ended
  | some output => exact .recorded ended made

omit [Sha256] [SerdeJson] in
theorem occupyNode_written [Sha256] {before after : GraphExecution} {nodeId : GraphNodeId} {owner : String}
    {runId : RunId} {staged : Bool} (done : occupyNode before nodeId owner runId staged = .ok after) :
    Written before after := by
  rcases occupyNode_ok done with ⟨_, staged⟩ | ⟨_, _, claim, bound⟩
  · exact .staged staged
  · exact .bound claim bound

omit [SerdeJson] in
/-- Recovery writes the executions it changes. -/
theorem reconciled_leads {now : Nat} {row : GraphRow} (recoverable : Recoverable row) :
    row.Leads (row.reconciled now) := by
  unfold GraphRow.reconciled
  split
  · exact .refl
  · rename_i moved
    exact .single (.store _ .reconciled (recoverable.2 moved))

omit [SerdeJson] in
theorem recovered_graphsFollow (now : Nat) (daemon : DaemonState) (revision : Nat) (events : List String)
    (recoverable : ∀ row ∈ db.graphs.rows, Recoverable row) :
    GraphsFollow db (db.recovered now daemon revision events) where
  kept id row found := by
    refine ⟨row.reconciled now, ?_, reconciled_leads (recoverable row (Table.mem_of_find? found))⟩
    simp only [Database.recovered, Table.find?_updateAll, found, Option.map_some]
  added id later absent found := by
    simp only [Database.recovered, Table.find?_updateAll, absent] at found
    cases found

/-- Every change writes the stored executions, and adds sound ones. -/
theorem Change.graphsFollow {action : Action} (change : Change db action after) (sound : SoundGraphs db) :
    GraphsFollow db after := by
  cases change with
  | accepted events made consistent m3Bounded graphBounded inserted =>
    obtain ⟨_, _, _, started, _, _⟩ := Core.acceptMvpDecision_ok made
    exact .of_insert inserted (GraphExecution.start_valid started) graphBounded rfl
  | storedM3 stored =>
    obtain ⟨_, _, _, rfl⟩ := stored
    exact .of_same rfl
  | createdGraph events valid bounded inserted =>
    exact .of_insert inserted (GraphExecution.validate_iff.mp valid) bounded rfl
  | restartedGraph events found decided same made bounded inserted =>
    exact .of_insert inserted (GraphExecution.restartAs_valid made) bounded rfl
  | worked stored works =>
    obtain ⟨found, _, _, bounded, _, rfl⟩ := stored
    cases works with
    | retried done => exact .of_update found (.retried done) bounded rfl
    | claimed done => exact .of_update found (.claimed done) bounded rfl
    | completed done => exact .of_update found (.completed done) bounded rfl
  | begun events begun serving attended current left =>
    have stages := Beginning.stages left
    exact .of_update begun.found (occupyNode_written begun.occupied) begun.graphBounded stages.graphs
  | finished events trusted finishing =>
    exact .of_update finishing.found (finishedGraph_written finishing.graphMade) finishing.graphBounded rfl
  | decided issued events deciding informed =>
    have follow := onDecision_graphsFollow informed sound
    exact ⟨follow.kept, follow.added⟩
  | cancelled events some =>
    have follow := some.graphsFollow sound
    exact ⟨follow.kept, follow.added⟩
  | revoked events spent cancels =>
    have follow := cancels.graphsFollow sound
    exact ⟨follow.kept, follow.added⟩
  | claimed events claiming =>
    exact .of_update claiming.found (.activated claiming.activated) claiming.graphBounded rfl
  | abandoned events abandoning =>
    exact .of_update abandoning.found (.finished abandoning.ended) abandoning.graphBounded rfl
  | @recovered now _ revision events middle proved catalogValid recoverable revised expired =>
    have first := recovered_graphsFollow now ⟨bump db.daemon.revision, .recovering⟩ revision middle recoverable
    exact first.trans (expired.graphsFollow (first.sound sound))
  | _ => exact .of_same rfl

end Rows

section Runs

variable [SerdeJson]

omit [Sha256] [SerdeJson] in
theorem SoundGraphs.fresh [Sha256] : SoundGraphs Database.fresh := by
  intro id row found
  cases found

theorem SoundGraphs.next (process : DaemonProcess) (action : Action) (sound : SoundGraphs process.db) :
    SoundGraphs (process.next action).db := by
  rcases process.next_change action with same | change
  · rw [same]
    exact sound
  · exact (change.graphsFollow sound).sound sound

theorem SoundGraphs.run {process : DaemonProcess} (sound : SoundGraphs process.db) (actions : List Action) :
    SoundGraphs (process.run actions).db :=
  @Machine.run_preserves _ _ _ (fun process : DaemonProcess => SoundGraphs process.db) SoundGraphs.next _ sound actions

theorem run_graphsFollow {process : DaemonProcess} (sound : SoundGraphs process.db) (actions : List Action) :
    GraphsFollow process.db (process.run actions).db := by
  refine Machine.run_relates (fun process : DaemonProcess => SoundGraphs process.db)
    (fun before later : DaemonProcess => GraphsFollow before.db later.db) (fun _ => .of_same rfl)
    (fun _ _ _ => .trans) SoundGraphs.next (fun before action sound => ?_) sound actions
  rcases before.next_change action with same | change
  · exact .of_same (by rw [same])
  · exact change.graphsFollow sound

end Runs

end Bastet.Daemon
