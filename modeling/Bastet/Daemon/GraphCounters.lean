import Bastet.Core.ExecutionCounters
import Bastet.Daemon.RunLifecycle
import Bastet.Daemon.Revisions

/-! Whether the counters of stored executions overflow. The revision of an execution is bounded by its
column; the revisions of its nodes start from what a client submits, and are bounded by nothing. -/

set_option autoImplicit false

namespace Bastet.Daemon

open Fallible Bastet.Core Lookup

section Writes

variable [Sha256] {before after : GraphExecution}

omit [Sha256] in
theorem bindRun_revisions {nodeId : GraphNodeId} {owner : String} {runId : RunId}
    (done : before.bindRun nodeId owner runId = .ok after) (id : GraphNodeId) (node : GraphNodeExecution)
    (found : before.node? id = some node) : ∃ later, after.node? id = some later ∧ later.revision = node.revision := by
  obtain ⟨later, looked, moves⟩ := GraphExecution.bindRun_transitions done id node found
  refine ⟨later, looked, ?_⟩
  cases moves with
  | kept | bound => rfl
  | blocked impedes => cases impedes

/-- One write of an execution counts each of its nodes at most once. -/
theorem Written.countsOnce (written : Written before after) (aligned : before.Aligned) :
    before.CountsOnce after := by
  cases written with
  | retried done => exact .of_transitions (GraphExecution.retryFailed_transitions aligned done)
  | @claimed owner limit claimed _ done =>
    have moves := GraphExecution.claimReady_transitions aligned owner limit
    rw [done] at moves
    exact .of_transitions moves
  | completed done => exact .of_transitions (GraphExecution.complete_transitions done)
  | staged done => exact .of_transitions (GraphExecution.stageNode_transitions done)
  | bound claim done =>
    have first := GraphExecution.CountsOnce.of_transitions (GraphExecution.claimNode_transitions claim)
    intro id node found
    obtain ⟨middle, looked, counted⟩ := first id node found
    obtain ⟨later, reached, same⟩ := bindRun_revisions done id middle looked
    exact ⟨later, reached, same ▸ counted⟩
  | activated done => exact .of_transitions (GraphExecution.activateStagedNode_transitions done)
  | cancelled done => exact .of_transitions (GraphExecution.cancelStagedNode_transitions done)
  | finished done => exact .of_transitions (GraphExecution.finishTerminal_transitions done)
  | recorded finish done =>
    obtain ⟨_, _, _, _, _, _, rfl⟩ := GraphExecution.recordOutput_ok done
    have ended := GraphExecution.CountsOnce.of_transitions (GraphExecution.finishTerminal_transitions finish)
    exact fun id node found => ended id node found
  | reconciled => exact .of_transitions (GraphExecution.reconcileAfterRestart_transitions before)

end Writes

section Stored

variable {db middle after : Database}

/-- Every stored execution is kept, and stands in this relation to what becomes of it. -/
def StoredRelate (related : GraphExecution → GraphExecution → Prop) (db after : Database) : Prop :=
  ∀ id row, db.graphs.find? id = some row → ∃ later, after.graphs.find? id = some later ∧
    related row.execution later.execution

variable {related : GraphExecution → GraphExecution → Prop}

theorem StoredRelate.of_same (reflexive : ∀ execution, related execution execution) (same : after.graphs = db.graphs) :
    StoredRelate related db after :=
  fun _ row found => ⟨row, same ▸ found, reflexive row.execution⟩

theorem StoredRelate.trans
    (transitive : ∀ first second third, related first second → related second third → related first third)
    (first : StoredRelate related db middle) (second : StoredRelate related middle after) :
    StoredRelate related db after := by
  intro id row found
  obtain ⟨next, reached, one⟩ := first id row found
  obtain ⟨later, ended, two⟩ := second id next reached
  exact ⟨later, ended, transitive _ _ _ one two⟩

theorem StoredRelate.of_update (reflexive : ∀ execution, related execution execution) {id : GraphRunId}
    {row : GraphRow} {execution : GraphExecution} {updatedAt : String} (stored : db.graphs.find? id = some row)
    (holds : related row.execution execution)
    (graphs : after.graphs = db.graphs.update id (GraphRow.store execution updatedAt) GraphRow.store_executionId) :
    StoredRelate related db after := by
  intro other old found
  rw [graphs, Table.find?_update]
  by_cases same : other = id
  · subst same
    obtain rfl := Option.some.inj (stored.symm.trans found)
    exact ⟨_, by rw [if_pos rfl, stored, Option.map_some], holds⟩
  · exact ⟨old, by rw [if_neg same, found], reflexive old.execution⟩

theorem StoredRelate.of_insert (reflexive : ∀ execution, related execution execution) {row : GraphRow}
    {graphs : Table GraphRow.executionId} (inserted : db.graphs.insert row = some graphs)
    (same : after.graphs = graphs) : StoredRelate related db after :=
  fun _ old found => ⟨old, same ▸ Table.find?_insert_of_some inserted found, reflexive old.execution⟩

/-- Every node of the stored executions is counted at most once. -/
abbrev CountsOnce : Database → Database → Prop :=
  StoredRelate GraphExecution.CountsOnce

/-- The nodes of the stored executions are as they were, or are over. -/
abbrev Closes : Database → Database → Prop :=
  StoredRelate GraphExecution.Closes

theorem Closes.countsOnce (closes : Closes db after) : CountsOnce db after := by
  intro id row found
  obtain ⟨later, reached, closed⟩ := closes id row found
  exact ⟨later, reached, closed.countsOnce⟩

variable [Sha256] [SerdeJson]

theorem Cancels.closes {now : Nat} {row : StagedRow} {reason : String} {run : Run} {plan : ProviderLaunchPlan}
    {graphRow : GraphRow} {execution : GraphExecution}
    (cancels : Cancels db now row reason run plan graphRow execution after) (sound : SoundGraphs db) :
    Closes db after := by
  have stored := sound _ _ cancels.stored
  have written : Written graphRow.execution execution := .cancelled cancels.cancelled
  have same : execution.id = plan.executionId :=
    (written.kept stored.valid).1.id.trans (stored.id.symm.trans (Table.find?_key cancels.stored))
  have closed := GraphExecution.cancelStagedNode_closes cancels.cancelled
  obtain ⟨grants, events, _, rfl⟩ := cancels.left
  exact .of_update GraphExecution.Closes.refl (same ▸ cancels.stored) closed rfl

theorem MayCancel.closes {now : Nat} {requestId : ApprovalRequestId} {reason : String}
    (cancels : MayCancel db now requestId reason after) (sound : SoundGraphs db) : Closes db after := by
  rcases cancels with ⟨rfl, _⟩ | ⟨_, _, _, _, _, _, cancels⟩
  · exact .of_same GraphExecution.Closes.refl rfl
  · exact cancels.closes sound

theorem CancelsSome.closes {now : Nat} (cancels : CancelsSome now db after) (sound : SoundGraphs db) :
    Closes db after := by
  induction cancels with
  | refl => exact .of_same GraphExecution.Closes.refl rfl
  | tail before last ih =>
    obtain ⟨_, _, cancels⟩ := last
    have reached := (CancelsSome.graphsFollow before sound).sound sound
    exact ih.trans (fun _ _ _ => .trans) (cancels.closes reached)

omit [Sha256] [SerdeJson] in
theorem recovered_closes (now : Nat) (daemon : DaemonState) (revision : Nat) (events : List String) :
    Closes db (db.recovered now daemon revision events) := by
  intro id row found
  refine ⟨row.reconciled now, ?_, ?_⟩
  · simp only [Database.recovered, Table.find?_updateAll, found, Option.map_some]
  · unfold GraphRow.reconciled
    split
    · exact .refl row.execution
    · exact GraphExecution.reconcileAfterRestart_closes row.execution

theorem onDecision_closes {now : Nat} {request : ApprovalRequest} {kind : ApprovalDecisionKind}
    (informed : onDecision db now request kind = .ok after) (sound : SoundGraphs db) : Closes db after := by
  rcases onDecision_ok informed with ⟨_, rfl⟩ | ⟨_, _, _, _, _, _, _, _, _, _, _, rfl⟩ | ⟨_, cancels⟩
  · exact .of_same GraphExecution.Closes.refl rfl
  · exact .of_same GraphExecution.Closes.refl rfl
  · exact cancels.closes sound

/-- One step of the daemon counts each node of the stored executions at most once. -/
theorem Change.countsOnce {action : Action} (change : Change db action after) (sound : SoundGraphs db) :
    CountsOnce db after := by
  have still : ∀ execution : GraphExecution, execution.CountsOnce execution :=
    fun execution => (GraphExecution.Closes.refl execution).countsOnce
  have counted : ∀ {id : GraphRunId} {row : GraphRow} {execution : GraphExecution},
      db.graphs.find? id = some row → Written row.execution execution → row.execution.CountsOnce execution :=
    fun found written => written.countsOnce (sound _ _ found).valid.aligned
  cases change with
  | accepted events made consistent m3Bounded graphBounded inserted => exact .of_insert still inserted rfl
  | storedM3 stored =>
    obtain ⟨_, _, _, rfl⟩ := stored
    exact .of_same still rfl
  | createdGraph events valid bounded inserted => exact .of_insert still inserted rfl
  | restartedGraph events found decided same made bounded inserted => exact .of_insert still inserted rfl
  | worked stored works =>
    obtain ⟨found, _, _, bounded, _, rfl⟩ := stored
    cases works with
    | retried done => exact .of_update still found (counted found (.retried done)) rfl
    | claimed done => exact .of_update still found (counted found (.claimed done)) rfl
    | completed done => exact .of_update still found (counted found (.completed done)) rfl
  | begun events begun serving attended current left =>
    have stages := Beginning.stages left
    exact .of_update still begun.found (counted begun.found (occupyNode_written begun.occupied)) stages.graphs
  | finished events trusted finishing =>
    exact .of_update still finishing.found (counted finishing.found (finishedGraph_written finishing.graphMade)) rfl
  | decided issued events deciding informed =>
    exact Closes.countsOnce fun id row found => onDecision_closes informed sound id row found
  | cancelled events some => exact Closes.countsOnce fun id row found => some.closes sound id row found
  | revoked events spent cancels => exact Closes.countsOnce fun id row found => cancels.closes sound id row found
  | claimed events claiming =>
    exact .of_update still claiming.found (counted claiming.found (.activated claiming.activated)) rfl
  | abandoned events abandoning =>
    exact .of_update still abandoning.found (counted abandoning.found (.finished abandoning.ended)) rfl
  | @recovered now _ revision events middle proved catalogValid recoverable revised expired =>
    have first : Closes db _ := recovered_closes now ⟨bump db.daemon.revision, .recovering⟩ revision middle
    have follow := recovered_graphsFollow now ⟨bump db.daemon.revision, .recovering⟩ revision middle recoverable
    have closes : Closes db after := first.trans (fun _ _ _ => .trans) (expired.closes (follow.sound sound))
    exact closes.countsOnce
  | _ => exact .of_same still rfl

end Stored

section Runs

/-- Every counter of a stored execution was kept or increased, within its bound: a node's by one, within
`u64`, the execution's own within the column it is stored in. -/
structure CountersKept (db after : Database) : Prop where
  nodes : ∀ id row later, db.graphs.find? id = some row → after.graphs.find? id = some later →
    ∀ nodeId node record, row.execution.node? nodeId = some node → later.execution.node? nodeId = some record →
      record.revision = node.revision ∨ record.revision = node.revision + 1 ∧ record.revision < 2 ^ 64
  executions : ∀ id row later, db.graphs.find? id = some row → after.graphs.find? id = some later →
    row.execution.revision ≤ later.execution.revision
  column : ∀ id later, after.graphs.find? id = some later →
    later.revision = later.execution.revision ∧ later.revision < sqlLimit

/-- No node that can still move has counted to the end. -/
def Database.Countable (db : Database) : Prop :=
  ∀ row ∈ db.graphs.rows, ∀ node ∈ row.execution.nodes, node.state.isSettled = false → node.revision < 2 ^ 64 - 1

instance (db : Database) : Decidable db.Countable :=
  inferInstanceAs (Decidable (∀ row ∈ db.graphs.rows, ∀ node ∈ row.execution.nodes,
    node.state.isSettled = false → node.revision < 2 ^ 64 - 1))

variable [Sha256] [SerdeJson] {db after : Database}

theorem Change.countersKept {action : Action} (change : Change db action after) (sound : SoundGraphs db)
    (countable : db.Countable) : CountersKept db after := by
  have follow := change.graphsFollow sound
  refine ⟨fun id row later found reached nodeId node record present recorded => ?_,
    fun id row later found reached => ?_, fun id later reached => ?_⟩
  · obtain ⟨other, again, counted⟩ := change.countsOnce sound id row found
    obtain rfl := Option.some.inj (again.symm.trans reached)
    obtain ⟨counter, looked, moved⟩ := counted nodeId node present
    obtain rfl := Option.some.inj (looked.symm.trans recorded)
    cases settled : node.state.isSettled with
    | true =>
      -- what has settled is as it was
      obtain ⟨last, same, leads⟩ := follow.kept id row found
      obtain rfl := Option.some.inj (same.symm.trans reached)
      have still := (leads.remembers (sound id row found)).settled nodeId node present settled
      obtain rfl := Option.some.inj (still.symm.trans recorded)
      exact .inl rfl
    | false =>
      have room := countable row (Table.mem_of_find? found) node (find_some present).1 settled
      rw [bump_eq room] at moved
      refine moved.imp_right fun increased => ⟨increased, ?_⟩
      omega
  · obtain ⟨other, again, leads⟩ := follow.kept id row found
    obtain rfl := Option.some.inj (again.symm.trans reached)
    have before := sound id row found
    have after := leads.sound before
    rw [← before.revision, ← after.revision]
    rcases leads.follows before with same | increased
    · exact Nat.le_of_eq (congrArg Prod.fst same).symm
    · exact Nat.le_of_lt increased
  · have stored := follow.sound sound id later reached
    exact ⟨stored.revision, stored.bounded⟩

theorem DaemonProcess.next_countersKept (process : DaemonProcess) (action : Action) (sound : SoundGraphs process.db)
    (countable : process.db.Countable) : CountersKept process.db (process.next action).db := by
  rcases process.next_change action with same | change
  · rw [same]
    have unchanged : Change process.db action process.db := .quiet process.db.events
    exact unchanged.countersKept sound countable
  · exact change.countersKept sound countable

/-- No counter overflows along a run of the daemon in which no node that can still move has counted to the
end, whatever the executions its clients submit. -/
theorem counters_kept (actions : List Action)
    (permitted : Machine.Allowed DaemonProcess.next (fun process _ => process.db.Countable) .fresh actions)
    (taken : List Action) (action : Action) (begins : taken ++ [action] <+: actions) :
    CountersKept (DaemonProcess.fresh.run taken).db (DaemonProcess.fresh.run (taken ++ [action])).db := by
  obtain ⟨rest, rfl⟩ := begins
  have countable : (DaemonProcess.fresh.run taken).db.Countable := permitted.append.1.append.2.1
  have last : DaemonProcess.fresh.run (taken ++ [action]) = (DaemonProcess.fresh.run taken).next action :=
    Machine.run_append _ taken [action]
  rw [last]
  exact DaemonProcess.next_countersKept _ action (SoundGraphs.fresh.run taken) countable

/-- An execution whose first node has counted this far. -/
def countedTo (revision : Nat) : GraphExecution :=
  ⟨⟨60⟩, branchesUnderJoin,
    [⟨⟨51⟩, .pending, none, revision, none, none⟩, ⟨⟨52⟩, .pending, none, 0, none, none⟩,
      ⟨⟨53⟩, .pending, none, 0, none, none⟩], [], none, 0⟩

/-- A client creates the execution and claims its first node. -/
def claimedFrom (revision : Nat) : List Action :=
  [.command (.createGraphExecution 5 (countedTo revision)), .command (.claimGraphNodes 6 ⟨60⟩ 0 "scheduler" 1)]

omit [Sha256] [SerdeJson]

theorem counters_kept_claim :
    let step := @DaemonProcess.run (.table []) SerdeJson.compact .fresh
    CountersKept (step ((claimedFrom (2 ^ 64 - 2)).take 1)).db (step (claimedFrom (2 ^ 64 - 2))).db := by
  intro step
  exact @counters_kept (.table []) SerdeJson.compact (claimedFrom (2 ^ 64 - 2)) (by decide +kernel)
    ((claimedFrom (2 ^ 64 - 2)).take 1) (.command (.claimGraphNodes 6 ⟨60⟩ 0 "scheduler" 1)) (List.prefix_refl _)

/-- The counter of the first node starts over. -/
theorem counters_kept_fails :
    let step := @DaemonProcess.run (.table []) SerdeJson.compact .fresh
    isOk (@createGraphExecution (.table []) DaemonProcess.fresh.db 5 (countedTo (2 ^ 64 - 1))) = true ∧
      ¬CountersKept (step ((claimedFrom (2 ^ 64 - 1)).take 1)).db (step (claimedFrom (2 ^ 64 - 1))).db := by
  intro step
  obtain ⟨created, before, later⟩ :
      isOk (@createGraphExecution (.table []) DaemonProcess.fresh.db 5 (countedTo (2 ^ 64 - 1))) = true ∧
      ((step ((claimedFrom (2 ^ 64 - 1)).take 1)).db.graphs.find? ⟨60⟩).bind (·.execution.node? ⟨51⟩) =
        some ⟨⟨51⟩, .pending, none, 2 ^ 64 - 1, none, none⟩ ∧
      ((step (claimedFrom (2 ^ 64 - 1))).db.graphs.find? ⟨60⟩).bind (·.execution.node? ⟨51⟩) =
        some ⟨⟨51⟩, .running, some "scheduler", 0, none, none⟩ := by
    decide +kernel
  refine ⟨created, fun kept => ?_⟩
  obtain ⟨row, found, present⟩ := Option.bind_eq_some_iff.mp before
  obtain ⟨next, reached, recorded⟩ := Option.bind_eq_some_iff.mp later
  rcases kept.nodes _ row next found reached _ _ _ present recorded with same | ⟨increased, _⟩
  · cases same
  · cases increased

end Runs

end Bastet.Daemon
