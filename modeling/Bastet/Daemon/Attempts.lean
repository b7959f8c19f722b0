import Bastet.Core.ExecutionBindings
import Bastet.Daemon.Verdicts

/-! The attempts at a node, and what the daemon does to them: the state in which the node holds
the run of an attempt, and that run in the catalog. -/

set_option autoImplicit false

namespace Bastet.Daemon

open Fallible Bastet.Core Lookup

/-- Where an attempt stands: the state in which its node holds its run, and the run. -/
structure Standing where
  held : Option GraphNodeState
  run : Option Run

def Database.held (self : Database) (id : GraphRunId) (nodeId : GraphNodeId) (runId : RunId) : Option GraphNodeState :=
  (self.graphs.find? id).bind fun row => row.execution.stateFor nodeId runId

def Database.standing (self : Database) (id : GraphRunId) (nodeId : GraphNodeId) (runId : RunId) : Standing :=
  ⟨self.held id nodeId runId, self.identity.content.run? runId⟩

/-- What the ledger of attempts keeps of an attempt for good. -/
def NodeRunRow.label (row : NodeRunRow) : GraphRunId × GraphNodeId × RunId × Nat :=
  (row.executionId, row.nodeId, row.runId, row.attempt)

theorem NodeRunRow.finish_label {finishedAt : String} {terminalState : NormalizedRunState}
    {failure : Option AdapterFailure} (row : NodeRunRow) :
    (row.finish finishedAt terminalState failure).label = row.label := rfl

def Database.labels (self : Database) : List (GraphRunId × GraphNodeId × RunId × Nat) :=
  self.nodeRuns.rows.map NodeRunRow.label

/-- A run is recorded as an attempt at a node. -/
def Database.Recorded (self : Database) (id : GraphRunId) (nodeId : GraphNodeId) (runId : RunId) : Prop :=
  ∃ attempt, (id, nodeId, runId, attempt) ∈ self.labels

/-- An action, and the database in which it is taken. -/
structure Step where
  db : Database
  action : Action

/-- What a step of the daemon may do to an attempt at the node. -/
inductive Moves (step : Step) (id : GraphRunId) (nodeId : GraphNodeId) (runId : RunId) : Standing → Standing → Prop
  | kept (standing : Standing) : Moves step id nodeId runId standing standing
  /-- The node does not hold the run. -/
  | free {run later : Option Run} (ends : ∀ old, run = some old → old.state.isTerminal = true → later = some old) :
      Moves step id nodeId runId ⟨none, run⟩ ⟨none, later⟩
  | staged {run : Run} (awaiting : run.state = .awaitingApproval) (unstarted : run.startedAt = none) :
      Moves step id nodeId runId ⟨none, none⟩ ⟨some .awaitingApproval, some run⟩
  | started {run : Run} (starting : run.state = .starting) (since : run.startedAt.isSome = true) :
      Moves step id nodeId runId ⟨none, none⟩ ⟨some .running, some run⟩
  | dispatched {run later : Run} (starting : later.state = .starting) (since : later.startedAt.isSome = true) :
      Moves step id nodeId runId ⟨some .awaitingApproval, some run⟩ ⟨some .running, some later⟩
  | reported {held : Option GraphNodeState} {run later : Run}
      (was : run.state.isActive = true ∨ run.state = .recovering) (still : later.state.isActive = true)
      (since : later.startedAt = run.startedAt) : Moves step id nodeId runId ⟨held, some run⟩ ⟨held, some later⟩
  /-- The run and the node end together. -/
  | ended {was state : GraphNodeState} {run later : Run} (terminal : graphState later.state = .ok state) :
      Moves step id nodeId runId ⟨some was, some run⟩ ⟨some state, some later⟩
  /-- The node ends, and its run does not learn of it. -/
  | completed {run : Option Run} {now expected : Nat} {owner : String} {succeeded : Bool}
      (asked : step.action = .command (.completeGraphNode now id expected nodeId owner succeeded))
      (held : step.db.held id nodeId runId = some .running) :
      Moves step id nodeId runId ⟨some .running, run⟩ ⟨some (if succeeded then .succeeded else .failed), run⟩
  | retried {run : Option Run} {now : Nat} {command : RetryFailedGraphNodeCommand}
      (asked : step.action = .command (.retryFailedGraphNode now id command)) (named : command.nodeId = nodeId)
      (held : step.db.standing id nodeId runId = ⟨some .failed, run⟩) :
      Moves step id nodeId runId ⟨some .failed, run⟩ ⟨none, run⟩
  | reopened {run : Option Run} : Moves step id nodeId runId ⟨some .blocked, run⟩ ⟨none, run⟩
  | recovered {held : Option GraphNodeState} {run : Option Run} (updatedAt : String) :
      Moves step id nodeId runId ⟨held, run⟩
        ⟨if held = some .running then none else held, run.map (Run.recovered updatedAt)⟩

/-- The nodes of a stored execution hold recorded runs of the catalog, and the pending ones hold none. -/
structure Tracked (db : Database) (id : GraphRunId) : Prop where
  stored : ∃ row, db.graphs.find? id = some row ∧ row.execution.PendingUnbound
  recorded : ∀ nodeId runId, db.held id nodeId runId ≠ none →
    db.Recorded id nodeId runId ∧ (db.identity.content.run? runId).isSome = true

/-- A change moves the attempts at the nodes of an execution. -/
structure Tracks (step : Step) (id : GraphRunId) (db after : Database) : Prop where
  moves : ∀ nodeId runId, Relation.ReflTransGen (Moves step id nodeId runId) (db.standing id nodeId runId)
    (after.standing id nodeId runId)
  tracked : Tracked after id

section Attempts

variable {db after last : Database} {id other : GraphRunId} {nodeId otherNode : GraphNodeId} {runId : RunId}
  {step : Step}

theorem recorded_find {row : NodeRunRow} (found : db.nodeRuns.find? runId = some row) :
    db.Recorded row.executionId row.nodeId runId := by
  refine ⟨row.attempt, List.mem_map.mpr ⟨row, Table.mem_of_find? found, ?_⟩⟩
  rw [NodeRunRow.label, Table.find?_key found]

theorem recorded_latest (latest : (db.latestAttempt id nodeId).map (·.runId) = some runId) :
    db.Recorded id nodeId runId := by
  obtain ⟨row, found, rfl⟩ := Option.map_eq_some_iff.mp latest
  have inside := List.mem_of_find?_eq_some found
  simp only [Database.attempts, List.mem_filter, Bool.and_eq_true, decide_eq_true_eq] at inside
  obtain ⟨member, rfl, rfl⟩ := inside
  exact ⟨row.attempt, List.mem_map.mpr ⟨row, member, rfl⟩⟩

theorem Database.Recorded.row (recorded : db.Recorded id nodeId runId) :
    ∃ row, db.nodeRuns.find? runId = some row ∧ row.executionId = id ∧ row.nodeId = nodeId := by
  obtain ⟨attempt, listed⟩ := recorded
  obtain ⟨row, member, same⟩ := List.mem_map.mp listed
  simp only [NodeRunRow.label, Prod.mk.injEq] at same
  obtain ⟨execution, node, named, _⟩ := same
  exact ⟨row, named ▸ Table.find?_mem member, execution, node⟩

/-- A run is an attempt at one node. -/
theorem Database.Recorded.unique (recorded : db.Recorded id nodeId runId) (again : db.Recorded other otherNode runId) :
    id = other ∧ nodeId = otherNode := by
  obtain ⟨row, found, rfl, rfl⟩ := recorded.row
  obtain ⟨same, located, rfl, rfl⟩ := again.row
  obtain rfl := Option.some.inj (found.symm.trans located)
  exact ⟨rfl, rfl⟩

theorem Database.Recorded.subset (recorded : db.Recorded id nodeId runId) (kept : db.labels ⊆ after.labels) :
    after.Recorded id nodeId runId := by
  obtain ⟨attempt, listed⟩ := recorded
  exact ⟨attempt, kept listed⟩

theorem Tracks.refl (tracked : Tracked db id) : Tracks step id db db where
  moves _ _ := .refl
  tracked := tracked

theorem Tracks.trans (first : Tracks step id db after) (second : Tracks step id after last) :
    Tracks step id db last where
  moves nodeId runId := (first.moves nodeId runId).trans (second.moves nodeId runId)
  tracked := second.tracked

/-- What an attempt and its node are is in the catalog, the executions and the ledger of attempts. -/
theorem Tracks.congr (tracks : Tracks step id db after) (identity : last.identity = after.identity)
    (graphs : last.graphs = after.graphs) (nodeRuns : last.nodeRuns = after.nodeRuns) : Tracks step id db last where
  moves nodeId runId := by
    have same : last.standing id nodeId runId = after.standing id nodeId runId := by
      rw [Database.standing, Database.standing, Database.held, Database.held, graphs, identity]
    exact same ▸ tracks.moves nodeId runId
  tracked := by
    have stored := tracks.tracked.stored
    have recorded := tracks.tracked.recorded
    simp only [Database.held, Database.Recorded, Database.labels, ← graphs, ← identity, ← nodeRuns] at stored recorded
    exact ⟨stored, recorded⟩

theorem held_same (same : after.graphs.find? id = db.graphs.find? id) (nodeId : GraphNodeId) (runId : RunId) :
    after.held id nodeId runId = db.held id nodeId runId := by
  rw [Database.held, Database.held, same]

theorem held_found {row : GraphRow} (found : db.graphs.find? id = some row) (nodeId : GraphNodeId) (runId : RunId) :
    db.held id nodeId runId = row.execution.stateFor nodeId runId := by
  rw [Database.held, found, Option.bind_some]

/-- An execution stays tracked when each held run moves, and each run that gets held is recorded. -/
theorem Tracked.follow (tracked : Tracked db id)
    (stored : ∃ row, after.graphs.find? id = some row ∧ row.execution.PendingUnbound) (kept : db.labels ⊆ after.labels)
    (evolves : db.identity.content.Evolves after.identity.content)
    (holds : ∀ nodeId runId, db.held id nodeId runId ≠ none →
      Moves step id nodeId runId (db.standing id nodeId runId) (after.standing id nodeId runId))
    (takes : ∀ nodeId runId, db.held id nodeId runId = none → after.held id nodeId runId ≠ none →
      Moves step id nodeId runId (db.standing id nodeId runId) (after.standing id nodeId runId) ∧
      after.Recorded id nodeId runId ∧ (after.identity.content.run? runId).isSome = true) :
    Tracks step id db after where
  moves nodeId runId := by
    apply Relation.ReflTransGen.single
    by_cases held : db.held id nodeId runId = none
    · by_cases taken : after.held id nodeId runId = none
      · rw [Database.standing, Database.standing, held, taken]
        refine .free fun old found ended => ?_
        obtain ⟨later, reached, advances⟩ := evolves.kept runId old found
        rw [reached, advances.terminal ended]
      · exact (takes nodeId runId held taken).1
    · exact holds nodeId runId held
  tracked := by
    refine ⟨stored, fun nodeId runId taken => ?_⟩
    by_cases held : db.held id nodeId runId = none
    · exact (takes nodeId runId held taken).2
    · obtain ⟨recorded, found⟩ := tracked.recorded nodeId runId held
      obtain ⟨run, found⟩ := Option.isSome_iff_exists.mp found
      obtain ⟨later, reached, _⟩ := evolves.kept runId run found
      exact ⟨recorded.subset kept, Option.isSome_iff_exists.mpr ⟨later, reached⟩⟩

/-- A change of the catalog moves the runs; the execution is as it was. -/
theorem Tracked.catalog (tracked : Tracked db id) (graph : after.graphs.find? id = db.graphs.find? id)
    (kept : db.labels ⊆ after.labels) (evolves : db.identity.content.Evolves after.identity.content)
    (holds : ∀ nodeId runId run, db.identity.content.run? runId = some run →
      Moves step id nodeId runId ⟨db.held id nodeId runId, some run⟩
        ⟨db.held id nodeId runId, after.identity.content.run? runId⟩) : Tracks step id db after := by
  refine tracked.follow (graph ▸ tracked.stored) kept evolves (fun nodeId runId held => ?_) fun nodeId runId none held => ?_
  · obtain ⟨_, found⟩ := tracked.recorded nodeId runId held
    obtain ⟨run, found⟩ := Option.isSome_iff_exists.mp found
    rw [Database.standing, Database.standing, held_same graph, found]
    exact holds nodeId runId run found
  · rw [held_same graph] at held
    exact absurd none held

/-- The run of every attempt is what it was. -/
theorem Tracked.same (tracked : Tracked db id) (graph : after.graphs.find? id = db.graphs.find? id)
    (kept : db.labels ⊆ after.labels) (evolves : db.identity.content.Evolves after.identity.content)
    (runs : ∀ runId run, db.identity.content.run? runId = some run → after.identity.content.run? runId = some run) :
    Tracks step id db after :=
  tracked.catalog graph kept evolves fun nodeId runId run found => by
    rw [runs runId run found]
    exact .kept _

/-- The execution is written under its id. -/
theorem held_update {row : GraphRow} {execution : GraphExecution} {updatedAt : String}
    (found : db.graphs.find? other = some row)
    (graphs : after.graphs = db.graphs.update other (GraphRow.store execution updatedAt) GraphRow.store_executionId)
    (nodeId : GraphNodeId) (runId : RunId) :
    after.held id nodeId runId = if id = other then execution.stateFor nodeId runId else db.held id nodeId runId := by
  rw [Database.held, graphs, Table.find?_update]
  by_cases here : id = other
  · subst here
    rw [if_pos rfl, if_pos rfl, found]
    rfl
  · rw [if_neg here, if_neg here, Database.held]

theorem stored_update {row : GraphRow} {execution : GraphExecution} {updatedAt : String} (tracked : Tracked db id)
    (found : db.graphs.find? other = some row)
    (graphs : after.graphs = db.graphs.update other (GraphRow.store execution updatedAt) GraphRow.store_executionId)
    (idle : row.execution.PendingUnbound → execution.PendingUnbound) :
    ∃ row, after.graphs.find? id = some row ∧ row.execution.PendingUnbound := by
  obtain ⟨old, stored, unbound⟩ := tracked.stored
  rw [graphs, Table.find?_update]
  by_cases here : id = other
  · subst here
    obtain rfl := Option.some.inj (found.symm.trans stored)
    exact ⟨_, by rw [if_pos rfl, found, Option.map_some], idle unbound⟩
  · exact ⟨old, by rw [if_neg here, stored], unbound⟩

/-- A command on the nodes of an execution leaves the catalog and the ledger. -/
theorem Tracked.worked {row : GraphRow} {execution : GraphExecution} {updatedAt : String} (tracked : Tracked db id)
    (found : db.graphs.find? other = some row)
    (graphs : after.graphs = db.graphs.update other (GraphRow.store execution updatedAt) GraphRow.store_executionId)
    (identity : after.identity = db.identity) (nodeRuns : after.nodeRuns = db.nodeRuns)
    (idle : row.execution.PendingUnbound → execution.PendingUnbound)
    (none : row.execution.PendingUnbound → ∀ nodeId runId,
      row.execution.stateFor nodeId runId = none → execution.stateFor nodeId runId = none)
    (holds : row.execution.PendingUnbound → ∀ nodeId runId, id = other →
      Moves step id nodeId runId (db.standing id nodeId runId)
        ⟨execution.stateFor nodeId runId, db.identity.content.run? runId⟩) :
    Tracks step id db after := by
  have kept : db.labels ⊆ after.labels := by
    rw [Database.labels, Database.labels, nodeRuns]
    exact List.Subset.refl _
  have unbound : id = other → row.execution.PendingUnbound := by
    rintro rfl
    obtain ⟨old, stored, unbound⟩ := tracked.stored
    obtain rfl := Option.some.inj (found.symm.trans stored)
    exact unbound
  refine tracked.follow (stored_update tracked found graphs idle) kept (.of_runs fun _ => by rw [identity]) ?_ ?_
  · intro nodeId runId _
    by_cases here : id = other
    · have now : after.standing id nodeId runId = ⟨execution.stateFor nodeId runId, db.identity.content.run? runId⟩ := by
        rw [Database.standing, held_update found graphs, if_pos here, identity]
      exact now ▸ holds (unbound here) nodeId runId here
    · rw [Database.standing, Database.standing, held_update found graphs, if_neg here, identity]
      exact .kept _
  · intro nodeId runId free taken
    rw [held_update found graphs] at taken
    split at taken
    · rename_i here
      rw [held_found (here ▸ found)] at free
      exact absurd (none (unbound here) nodeId runId free) taken
    · exact absurd free taken

/-- A change moves one attempt, in the execution and in the catalog. -/
theorem Tracked.rebinds {row : GraphRow} {execution : GraphExecution} {updatedAt : String} {moved : GraphNodeId}
    {ran : RunId} {first last : Option GraphNodeState} (tracked : Tracked db id)
    (found : db.graphs.find? other = some row)
    (graphs : after.graphs = db.graphs.update other (GraphRow.store execution updatedAt) GraphRow.store_executionId)
    (kept : db.labels ⊆ after.labels) (evolves : db.identity.content.Evolves after.identity.content)
    (rebinds : row.execution.PendingUnbound → GraphExecution.Rebinds moved ran first last row.execution execution)
    (runs : ∀ runId run, runId ≠ ran → db.identity.content.run? runId = some run →
      after.identity.content.run? runId = some run)
    (alone : ∀ nodeId, db.held id nodeId ran ≠ none → id = other ∧ nodeId = moved)
    (recorded : after.Recorded other moved ran) (present : (after.identity.content.run? ran).isSome = true)
    (move : Moves step other moved ran ⟨first, db.identity.content.run? ran⟩ ⟨last, after.identity.content.run? ran⟩) :
    Tracks step id db after := by
  have held : ∀ nodeId runId, after.held id nodeId runId =
      if id = other then execution.stateFor nodeId runId else db.held id nodeId runId :=
    fun nodeId runId => held_update found graphs nodeId runId
  -- a run that another node holds is not the one that moves
  have others : ∀ nodeId runId, db.held id nodeId runId ≠ none → ¬(id = other ∧ nodeId = moved ∧ runId = ran) →
      after.held id nodeId runId = db.held id nodeId runId →
      Moves step id nodeId runId (db.standing id nodeId runId) (after.standing id nodeId runId) := by
    intro nodeId runId taken apart same
    obtain ⟨run, located⟩ := Option.isSome_iff_exists.mp (tracked.recorded nodeId runId taken).2
    have distinct : runId ≠ ran := by
      rintro rfl
      obtain ⟨here, node⟩ := alone nodeId taken
      exact apart ⟨here, node, rfl⟩
    rw [Database.standing, Database.standing, same, located, runs runId run distinct located]
    exact .kept _
  have bound : id = other → db.held id = row.execution.stateFor ∧
      GraphExecution.Rebinds moved ran first last row.execution execution := by
    rintro rfl
    obtain ⟨old, stored, unbound⟩ := tracked.stored
    obtain rfl := Option.some.inj (found.symm.trans stored)
    exact ⟨funext fun nodeId => funext fun runId => held_found found nodeId runId, rebinds unbound⟩
  have stored := stored_update tracked found graphs fun unbound => (rebinds unbound).idle unbound
  refine tracked.follow stored kept evolves ?_ ?_
  · intro nodeId runId taken
    by_cases here : id = other
    · obtain ⟨same, rebinds⟩ := bound here
      by_cases this : nodeId = moved ∧ runId = ran
      · obtain ⟨rfl, rfl⟩ := this
        rw [Database.standing, Database.standing, held, if_pos here, same, rebinds.was, rebinds.now, here]
        exact move
      · refine others nodeId runId taken (fun all => this all.2) ?_
        rw [held, if_pos here, same, rebinds.others nodeId runId this]
    · refine others nodeId runId taken (fun all => here all.1) ?_
      rw [held, if_neg here]
  · intro nodeId runId free taken
    rw [held] at taken
    split at taken
    · rename_i here
      obtain ⟨same, rebinds⟩ := bound here
      by_cases this : nodeId = moved ∧ runId = ran
      · obtain ⟨rfl, rfl⟩ := this
        refine ⟨?_, here ▸ recorded, present⟩
        rw [Database.standing, Database.standing, held, if_pos here, same, rebinds.was, rebinds.now, here]
        exact move
      · rw [rebinds.others nodeId runId this, ← same] at taken
        exact absurd free taken
    · exact absurd free taken

end Attempts

section Operations

variable {before after : GraphExecution}

theorem occupyNode_rebinds {nodeId : GraphNodeId} {owner : String} {runId : RunId} {staged : Bool}
    (idle : before.PendingUnbound) (done : occupyNode before nodeId owner runId staged = .ok after) :
    GraphExecution.Rebinds nodeId runId none (some (if staged then .awaitingApproval else .running)) before after := by
  rcases occupyNode_ok done with ⟨rfl, staged⟩ | ⟨rfl, claimed, claim, bound⟩
  · exact GraphExecution.stageNode_rebinds staged
  · exact (GraphExecution.claimNode_same idle claim).trans_rebinds (GraphExecution.bindRun_rebinds bound)

theorem finishedGraph_rebinds [Sha256] {command : FinishGraphNodeRunCommand} {state : GraphNodeState}
    {failure : Option AdapterFailure} {output : Option GraphNodeOutput} (idle : before.PendingUnbound)
    (made : finishedGraph before command state failure output = .ok after)
    (held : (before.node? command.nodeId).bind (·.runId) = some command.runId) :
    GraphExecution.Rebinds command.nodeId command.runId (some .running) (some state) before after := by
  simp only [finishedGraph, bind_ok] at made
  obtain ⟨finished, ended, made⟩ := made
  have rebinds := GraphExecution.finishTerminal_rebinds idle ended held
  cases output with
  | none => exact pure_ok.mp made ▸ rebinds
  | some output =>
    obtain ⟨_, _, _, _, _, _, rfl⟩ := GraphExecution.recordOutput_ok made
    exact rebinds.trans_same (.of_nodes rfl)

/-- What a command on the nodes does to the runs they hold. -/
theorem Works.holds {command : Command} {id : GraphRunId} (works : Works before command after)
    (addressed : command.worksOn = some id) {db : Database}
    (located : ∀ nodeId runId, db.held id nodeId runId = before.stateFor nodeId runId)
    (aligned : before.Aligned) (idle : before.PendingUnbound) :
    after.PendingUnbound ∧ ∀ nodeId runId,
      (before.stateFor nodeId runId = none → after.stateFor nodeId runId = none) ∧
      Moves ⟨db, .command command⟩ id nodeId runId (db.standing id nodeId runId)
        ⟨after.stateFor nodeId runId, db.identity.content.run? runId⟩ := by
  have unmoved : GraphExecution.SameBindings before after → after.PendingUnbound ∧ ∀ nodeId runId,
      (before.stateFor nodeId runId = none → after.stateFor nodeId runId = none) ∧
      Moves ⟨db, .command command⟩ id nodeId runId (db.standing id nodeId runId)
        ⟨after.stateFor nodeId runId, db.identity.content.run? runId⟩ := by
    intro same
    refine ⟨same.idle idle, fun nodeId runId => ?_⟩
    rw [same.state nodeId runId, Database.standing, located]
    exact ⟨fun none => none, .kept _⟩
  cases works with
  | @retried _ retriedOn retry _ done =>
    obtain rfl := Option.some.inj addressed
    have frees := GraphExecution.retryFailed_frees aligned idle done
    refine ⟨frees.idle idle, fun nodeId runId => ?_⟩
    rcases frees.state nodeId runId with same | ⟨freed, blocked | ⟨rfl, failed⟩⟩
    · rw [same, Database.standing, located]
      exact ⟨fun none => none, .kept _⟩
    · rw [freed, Database.standing, located, blocked]
      exact ⟨fun _ => rfl, .reopened⟩
    · have held : db.standing retriedOn retry.nodeId runId = ⟨some .failed, db.identity.content.run? runId⟩ := by
        rw [Database.standing, located, failed]
      rw [freed, held]
      exact ⟨fun _ => rfl, .retried rfl rfl held⟩
  | @claimed _ _ _ owner limit _ _ done =>
    have same := GraphExecution.claimReady_same aligned idle owner limit
    rw [done] at same
    exact unmoved same
  | @completed _ _ _ completed _ succeeded _ done =>
    obtain rfl := Option.some.inj addressed
    rcases GraphExecution.complete_rebinds idle done with same | ⟨ran, rebinds⟩
    · exact unmoved same
    · refine ⟨rebinds.idle idle, fun nodeId runId => ?_⟩
      by_cases here : nodeId = completed ∧ runId = ran
      · obtain ⟨rfl, rfl⟩ := here
        have held := (located nodeId runId).trans rebinds.was
        rw [rebinds.was, rebinds.now, Database.standing, held]
        exact ⟨fun none => (by cases none), .completed rfl held⟩
      · rw [rebinds.others nodeId runId here, Database.standing, located]
        exact ⟨fun none => none, .kept _⟩

end Operations

section Changes

variable [Sha256] [SerdeJson] {db after : Database} {id : GraphRunId} {step : Step}

omit [Sha256] [SerdeJson] in
/-- A report moves a run at work. -/
theorem Reports.moves {updatedAt : String} {command : Command} {catalog : IdentityCatalog}
    (reports : Reports db updatedAt command catalog) {runId : RunId} {run : Run}
    (found : db.identity.content.run? runId = some run) :
    ∃ later, catalog.run? runId = some later ∧ (later = run ∨ (run.state.isActive = true ∨ run.state = .recovering) ∧
      later.state.isActive = true ∧ later.startedAt = run.startedAt) := by
  have moved : ∀ {state : NormalizedRunState} {moving : Run} (active : moving.state.isActive = true ∨ moving.state = .recovering)
      (still : state.isActive = true) (located : db.identity.content.run? moving.metadata.id = some moving),
      ∃ later, (db.identity.content.updateRun moving.metadata.id (Run.enter state updatedAt)).run? runId = some later ∧
        (later = run ∨ (run.state.isActive = true ∨ run.state = .recovering) ∧ later.state.isActive = true ∧
          later.startedAt = run.startedAt) := by
    intro state moving active still located
    have same : ∀ run, (Run.enter state updatedAt run).metadata.id = run.metadata.id := fun _ => rfl
    rw [IdentityCatalog.run?_updateRun same]
    by_cases here : runId = moving.metadata.id
    · rw [here] at found
      obtain rfl := Option.some.inj (found.symm.trans located)
      refine ⟨Run.enter state updatedAt run, ?_, .inr ⟨active, still, rfl⟩⟩
      rw [if_pos here, here, found, Option.map_some]
    · exact ⟨run, by rw [if_neg here, found], .inl rfl⟩
  cases reports with
  | @running moving _ marked _ name _ located active mark named =>
    have renamed : catalog.run? runId = marked.run? runId := by
      rcases nameSession_ok named with rfl | ⟨_, rfl⟩ <;> rfl
    rw [renamed, markRunning_ok mark]
    split
    · exact moved (.inl active) rfl located
    · exact ⟨run, found, .inl rfl⟩
  | @cancelling moving asked located open_ =>
    refine moved ?_ rfl located
    cases state : moving.state <;> simp_all [NormalizedRunState.isCancellable, NormalizedRunState.isActive]

/-- The cancellation of a launch ends its attempt. -/
theorem Cancels.tracks {now : Nat} {row : StagedRow} {reason : String} {run : Run} {plan : ProviderLaunchPlan}
    {graphRow : GraphRow} {execution : GraphExecution}
    (cancels : Cancels db now row reason run plan graphRow execution after) (sound : SoundGraphs db)
    (tracked : Tracked db id) : Tracks step id db after := by
  have stored := sound _ _ cancels.stored
  have same : execution.id = plan.executionId :=
    ((Written.cancelled cancels.cancelled).kept stored.valid).1.id.trans
      (stored.id.symm.trans (Table.find?_key cancels.stored))
  have planRun : plan.runId = row.runId := (loadedPlan cancels.planned).2
  obtain ⟨attempt, found, execution_, node⟩ := loadedPlan_attempt cancels.planned
  have recorded : db.Recorded plan.executionId plan.nodeId row.runId := execution_ ▸ node ▸ recorded_find found
  have evolves := cancels.evolves
  have cancelled : ∀ run, (endRun .cancelled (timestamp (row.finishTime now)) run).metadata.id = run.metadata.id :=
    fun _ => rfl
  have rebinds := fun idle => planRun ▸ GraphExecution.cancelStagedNode_rebinds idle cancels.cancelled
  obtain ⟨grants, events, _, rfl⟩ := cancels.left
  have kept : db.labels ⊆ ((db.nodeRuns.update row.runId (NodeRunRow.finish (timestamp (row.finishTime now)) .cancelled
      none) NodeRunRow.finish_runId).rows.map NodeRunRow.label) := by
    rw [Table.map_update NodeRunRow.finish_label]
    exact List.Subset.refl _
  have ended : (cancelledRun db.identity.content row now).run? row.runId =
      some (endRun .cancelled (timestamp (row.finishTime now)) run) := by
    rw [cancelledRun, IdentityCatalog.run?_updateRun cancelled, if_pos rfl, cancels.found, Option.map_some]
  refine tracked.rebinds (same ▸ cancels.stored) rfl kept evolves rebinds ?_ ?_ ?_ ?_ ?_
  · intro runId other apart located
    exact Undisturbed.run_update cancelled apart located
  · intro nodeId held
    rw [same]
    exact (tracked.recorded nodeId row.runId held).1.unique recorded
  · exact same ▸ recorded.subset kept
  · exact Option.isSome_iff_exists.mpr ⟨_, ended⟩
  · rw [cancels.found]
    show Moves step _ _ _ _ ⟨_, (cancelledRun db.identity.content row now).run? row.runId⟩
    rw [ended]
    exact .ended rfl

theorem MayCancel.tracks {now : Nat} {requestId : ApprovalRequestId} {reason : String}
    (cancels : MayCancel db now requestId reason after) (sound : SoundGraphs db) (tracked : Tracked db id) :
    Tracks step id db after := by
  rcases cancels with ⟨rfl, _⟩ | ⟨_, _, _, _, _, _, cancels⟩
  · exact .refl tracked
  · exact cancels.tracks sound tracked

theorem CancelsSome.tracks {now : Nat} (cancels : CancelsSome now db after) (sound : SoundGraphs db)
    (tracked : Tracked db id) : Tracks step id db after := by
  induction cancels with
  | refl => exact .refl tracked
  | tail some last ih =>
    obtain ⟨_, _, cancels⟩ := last
    exact ih.trans (cancels.tracks ((CancelsSome.graphsFollow some sound).sound sound) ih.tracked)

theorem onDecision_tracks {now : Nat} {request : ApprovalRequest} {kind : ApprovalDecisionKind}
    (informed : onDecision db now request kind = .ok after) (sound : SoundGraphs db) (tracked : Tracked db id) :
    Tracks step id db after := by
  rcases onDecision_ok informed with ⟨_, rfl⟩ | ⟨_, _, _, _, _, _, _, _, _, _, _, rfl⟩ | ⟨_, cancels⟩
  · exact .refl tracked
  · exact (Tracks.refl tracked).congr rfl rfl rfl
  · exact cancels.tracks sound tracked

/-- A run that begins is a new attempt. -/
theorem Beginning.tracks {now : Nat} {ids : RunIds} {other : GraphRunId} {command : BeginGraphNodeRunCommand}
    (begun : Beginning db now ids other command) (tracked : Tracked db id) : Tracks step id db begun.database := by
  have evolves := withAttempt_evolves db.identity.content now ids begun.binding begun.staged
  have inserted := Table.rows_insert begun.attempted
  have labels : begun.database.labels = db.labels ++ [(other, command.nodeId, ids.runId, db.maxAttempt other command.nodeId + 1)] := by
    show begun.nodeRuns.rows.map NodeRunRow.label = _
    rw [inserted, List.map_append]
    rfl
  have fresh : db.nodeRuns.find? ids.runId = none := Table.insert_fresh begun.attempted
  -- the catalog has each run once, so the new one was not in it
  let run : Run := ⟨entityMetadata now ids.runId "graph_node_run", ids.sessionId, begun.binding.modelId,
    if begun.staged then .awaitingApproval else .starting, if begun.staged then none else some (timestamp now), none⟩
  have distinct := IdentityCatalog.validate_runs_distinct begun.catalogValid
  have last : run ∈ (withAttempt db.identity.content now ids begun.binding begun.staged).runs :=
    List.mem_append_right _ (List.mem_singleton_self _)
  have found : (withAttempt db.identity.content now ids begun.binding begun.staged).run? ids.runId = some run :=
    find_of_mem distinct last
  have absent : db.identity.content.run? ids.runId = none := by
    refine find_none.mpr fun old inside same => ?_
    have distinct : ((db.identity.content.runs ++ [run]).map fun run => run.metadata.id).Nodup := distinct
    rw [List.map_append, List.nodup_append] at distinct
    exact distinct.2.2 _ (List.mem_map.mpr ⟨old, inside, rfl⟩) _ (List.mem_singleton_self _) same
  refine tracked.rebinds begun.found rfl ?_ evolves (fun idle => occupyNode_rebinds idle begun.occupied) ?_ ?_ ?_ ?_ ?_
  · rw [labels]
    exact List.subset_append_left _ _
  · intro runId old _ located
    exact withAttempt_run? located
  · intro nodeId held
    obtain ⟨row, recorded, _⟩ := (tracked.recorded nodeId ids.runId held).1.row
    rw [fresh] at recorded
    cases recorded
  · refine ⟨db.maxAttempt other command.nodeId + 1, ?_⟩
    rw [labels]
    exact List.mem_append_right _ (List.mem_singleton_self _)
  · exact Option.isSome_iff_exists.mpr ⟨_, found⟩
  · show Moves step _ _ _ _ ⟨_, (withAttempt db.identity.content now ids begun.binding begun.staged).run? ids.runId⟩
    rw [absent, found]
    cases staged : begun.staged with
    | true => exact .staged (by simp [run, staged]) (by simp [run, staged])
    | false => exact .started (by simp [run, staged]) (by simp [run, staged])

/-- A run that ends, with its node. -/
theorem Finishing.tracks {now : Nat} {costId : CostRecordId} {other : GraphRunId} {command : FinishGraphNodeRunCommand}
    (finishing : Finishing db now costId other command) (events : List String) (tracked : Tracked db id) :
    Tracks step id db (finishing.database events) := by
  have same := (find_some finishing.runFound).2
  have evolves := finishedCatalog_evolves (same ▸ finishing.runFound) finishing.active finishing.terminal
    finishing.catalogMade
  obtain ⟨later, reached, ended⟩ := finishing.verdict
  have recorded := recorded_latest finishing.latest
  have kept : db.labels ⊆ (finishing.database events).labels := by
    show _ ⊆ (db.nodeRuns.update command.runId (NodeRunRow.finish (timestamp now) command.terminalState
      finishing.finished.failure) NodeRunRow.finish_runId).rows.map NodeRunRow.label
    rw [Table.map_update NodeRunRow.finish_label]
    exact List.Subset.refl _
  refine tracked.rebinds finishing.found rfl kept evolves
    (fun idle => finishedGraph_rebinds idle finishing.graphMade finishing.bound) ?_ ?_ ?_ ?_ ?_
  · intro runId run apart located
    exact finishedCatalog_other finishing.catalogMade (same ▸ apart) located
  · intro nodeId held
    exact (tracked.recorded nodeId command.runId held).1.unique recorded
  · exact recorded.subset kept
  · exact Option.isSome_iff_exists.mpr ⟨_, reached⟩
  · show Moves step _ _ _ _ ⟨_, finishing.finished.identity.run? command.runId⟩
    rw [finishing.runFound, reached]
    exact .ended (ended ▸ finishing.terminal)

theorem Claiming.tracks {now : Nat} {requestId : ApprovalRequestId} (claiming : Claiming db now requestId)
    (events : List String) (tracked : Tracked db id) : Tracks step id db (claiming.database events) := by
  have started : ∀ run, (startRun (timestamp now) run).metadata.id = run.metadata.id := fun _ => rfl
  have change : Change db (.claim now (fun _ => true) requestId) (claiming.database events) := .claimed events claiming
  obtain ⟨attempt, found, execution, node⟩ := loadedPlan_attempt claiming.planned
  have recorded : db.Recorded claiming.plan.executionId claiming.plan.nodeId claiming.run.metadata.id :=
    execution ▸ node ▸ recorded_find found
  have dispatched : (db.identity.content.updateRun claiming.run.metadata.id (startRun (timestamp now))).run?
      claiming.run.metadata.id = some (startRun (timestamp now) claiming.run) := by
    rw [IdentityCatalog.run?_updateRun started, if_pos rfl, claiming.runFound, Option.map_some]
  refine tracked.rebinds claiming.found rfl (List.Subset.refl _) change.evolves
    (fun _ => GraphExecution.activateStagedNode_rebinds claiming.activated) ?_ ?_ recorded ?_ ?_
  · intro runId run apart located
    exact Undisturbed.run_update started apart located
  · intro nodeId held
    exact (tracked.recorded nodeId _ held).1.unique recorded
  · exact Option.isSome_iff_exists.mpr ⟨_, dispatched⟩
  · show Moves step _ _ _ _ ⟨_, (db.identity.content.updateRun _ (startRun (timestamp now))).run? _⟩
    rw [claiming.runFound, dispatched]
    exact .dispatched rfl rfl

theorem Abandoning.tracks {now : Nat} {runId : RunId} (abandoning : Abandoning db now runId) (events : List String)
    (tracked : Tracked db id) : Tracks step id db (abandoning.database events) := by
  have entered : ∀ run, (Run.enter .uncertain (timestamp now) run).metadata.id = run.metadata.id := fun _ => rfl
  obtain ⟨attempt, found, execution, node⟩ := loadedPlan_attempt abandoning.planned
  have recorded : db.Recorded abandoning.plan.executionId abandoning.plan.nodeId runId :=
    execution ▸ node ▸ recorded_find found
  have ended : (db.identity.content.updateRun runId (Run.enter .uncertain (timestamp now))).run? runId =
      some (Run.enter .uncertain (timestamp now) abandoning.run) := by
    rw [IdentityCatalog.run?_updateRun entered, if_pos rfl, abandoning.runFound, Option.map_some]
  refine tracked.rebinds abandoning.found rfl (List.Subset.refl _) (Change.evolves (.abandoned events abandoning))
    (fun idle => GraphExecution.finishTerminal_rebinds idle abandoning.ended abandoning.bound) ?_ ?_ recorded ?_ ?_
  · intro other run apart located
    exact Undisturbed.run_update entered apart located
  · intro nodeId held
    exact (tracked.recorded nodeId _ held).1.unique recorded
  · exact Option.isSome_iff_exists.mpr ⟨_, ended⟩
  · show Moves step _ _ _ _ ⟨_, (db.identity.content.updateRun _ (Run.enter .uncertain (timestamp now))).run? _⟩
    rw [abandoning.runFound, ended]
    exact .ended rfl

omit [Sha256] [SerdeJson] in
/-- The recovery of the documents frees the nodes at work. -/
theorem recovered_tracks (now : Nat) (daemon : DaemonState) (revision : Nat) (events : List String)
    (tracked : Tracked db id) : Tracks step id db (db.recovered now daemon revision events) := by
  have freed : ∀ nodeId runId, (db.recovered now daemon revision events).held id nodeId runId =
      if db.held id nodeId runId = some .running then none else db.held id nodeId runId := by
    intro nodeId runId
    obtain ⟨row, found, _⟩ := tracked.stored
    rw [held_found found, Database.held]
    simp only [Database.recovered, Table.find?_updateAll, found, Option.map_some, Option.bind_some,
      GraphRow.reconciled_execution]
    exact GraphExecution.reconcile_stateFor row.execution nodeId runId
  refine tracked.follow ?_ (List.Subset.refl _) (recovered_evolves db.identity.content (timestamp now)) ?_ ?_
  · obtain ⟨row, found, idle⟩ := tracked.stored
    refine ⟨row.reconciled now, ?_, ?_⟩
    · simp only [Database.recovered, Table.find?_updateAll, found, Option.map_some]
    · rw [GraphRow.reconciled_execution]
      exact idle.reconciled
  · intro nodeId runId held
    rw [Database.standing, Database.standing, freed]
    show Moves step _ _ _ _ ⟨_, (db.identity.content.recovered (timestamp now)).run? runId⟩
    rw [recovered_run?]
    exact .recovered (timestamp now)
  · intro nodeId runId none held
    rw [freed, none] at held
    exact absurd rfl held

/-- Every change moves the attempts at the nodes of an execution. -/
theorem Change.tracks {action : Action} (change : Change db action after) (sound : SoundGraphs db)
    (tracked : Tracked db id) : Tracks ⟨db, action⟩ id db after := by
  have inserted : ∀ {graph : GraphRow} {graphs : Table GraphRow.executionId}, db.graphs.insert graph = some graphs →
      graphs.find? id = db.graphs.find? id := by
    intro graph graphs inserted
    obtain ⟨row, found, _⟩ := tracked.stored
    rw [found]
    exact Table.find?_insert_of_some inserted found
  have same : ∀ {later : Database}, later.graphs.find? id = db.graphs.find? id → later.labels = db.labels →
      later.identity = db.identity → Tracks ⟨db, action⟩ id db later := by
    intro later graph labels identity
    refine tracked.same graph (labels ▸ List.Subset.refl _) (.of_runs fun _ => by rw [identity]) fun _ _ found => ?_
    exact identity ▸ found
  have evolves := change.evolves
  cases change with
  | quiet | shifted | replacedM3 | requested | consumed => exact same rfl rfl rfl
  | accepted events made consistent m3Bounded graphBounded stored => exact same (inserted stored) rfl rfl
  | createdGraph events valid bounded stored => exact same (inserted stored) rfl rfl
  | restartedGraph events found decided named made bounded stored => exact same (inserted stored) rfl rfl
  | storedM3 stored =>
    obtain ⟨_, _, _, rfl⟩ := stored
    exact same rfl rfl rfl
  | replacedCatalog events valid kept idle =>
    refine tracked.same rfl (List.Subset.refl _) evolves fun runId run found => ?_
    obtain ⟨member, rfl⟩ := find_some found
    exact keepsRun_ok (kept run member)
  | prepared events made initial =>
    refine tracked.same rfl (List.Subset.refl _) evolves fun runId run found => ?_
    rw [initial] at found
    cases found
  | reported events valid reports =>
    refine tracked.catalog rfl (List.Subset.refl _) evolves fun nodeId runId run found => ?_
    obtain ⟨later, reached, rfl | ⟨was, still, since⟩⟩ := reports.moves found
    · rw [reached]
      exact .kept _
    · rw [reached]
      exact .reported was still since
  | worked stored works addressed =>
    obtain ⟨found, _, _, _, _, rfl⟩ := stored
    have holds := fun idle => works.holds addressed (held_found found) (sound _ _ found).valid.aligned idle
    exact tracked.worked found rfl rfl rfl (fun idle => (holds idle).1)
      (fun idle nodeId runId => ((holds idle).2 nodeId runId).1) fun idle nodeId runId here =>
        here ▸ ((holds idle).2 nodeId runId).2
  | begun events begun serving attended current left =>
    have stages := Beginning.stages left
    exact (begun.tracks tracked).congr stages.identity stages.graphs stages.nodeRuns
  | finished events trusted finishing => exact finishing.tracks events tracked
  | decided issued events deciding informed =>
    have first : Tracks _ id db (deciding.database issued) := same rfl rfl rfl
    have kept : SoundGraphs (deciding.database issued) := fun other row found => sound other row found
    exact (first.trans (onDecision_tracks informed kept first.tracked)).congr rfl rfl rfl
  | cancelled events some => exact (some.tracks sound tracked).congr rfl rfl rfl
  | @revoked _ _ _ _ grants _ events spent cancels =>
    have first : Tracks ⟨db, action⟩ id db { db with grants } := same rfl rfl rfl
    have second : Tracks ⟨db, action⟩ id { db with grants } _ :=
      cancels.tracks (fun other row found => sound other row found) first.tracked
    exact (first.trans second).congr rfl rfl rfl
  | claimed events claiming => exact claiming.tracks events tracked
  | abandoned events abandoning => exact abandoning.tracks events tracked
  | @recovered now _ revision events middle proved catalogValid recoverable revised expired =>
    have first : Tracks ⟨db, .restart now⟩ id db _ :=
      recovered_tracks now ⟨bump db.daemon.revision, .recovering⟩ revision middle tracked
    have follow := recovered_graphsFollow now ⟨bump db.daemon.revision, .recovering⟩ revision middle recoverable
    exact first.trans (expired.tracks (follow.sound sound) first.tracked)

end Changes

section Runs

variable [Sha256] [SerdeJson] {db after : Database} {id : GraphRunId}

omit [Sha256] [SerdeJson] in
/-- An execution that is stored for the first time, whose nodes hold no run. -/
structure Introduced (db after : Database) (id : GraphRunId) : Prop where
  absent : db.graphs.find? id = none
  idle : ∃ row, after.graphs.find? id = some row ∧ row.execution.PendingUnbound
  free : ∀ nodeId runId, after.held id nodeId runId = none
  nodeRuns : after.nodeRuns = db.nodeRuns

omit [Sha256] [SerdeJson] in
theorem Introduced.tracked (introduced : Introduced db after id) : Tracked after id where
  stored := introduced.idle
  recorded nodeId runId held := absurd (introduced.free nodeId runId) held

omit [Sha256] [SerdeJson] in
theorem introduced_start {graph : WorkflowGraph} {started execution : GraphExecution}
    {graphs : Table GraphRow.executionId} {updatedAt : String} (made : GraphExecution.start id graph = .ok started)
    (inserted : db.graphs.insert ⟨id, execution.revision, execution, updatedAt⟩ = some graphs)
    (nodes : execution.nodes = started.nodes) (same : after.graphs = graphs) (nodeRuns : after.nodeRuns = db.nodeRuns) : Introduced db after id := by
  have stored : after.graphs.find? id = some ⟨id, execution.revision, execution, updatedAt⟩ :=
    same ▸ Table.find?_insert_self inserted
  have unbound := GraphExecution.start_unbound made
  have bindings : GraphExecution.SameBindings started execution := .of_nodes nodes
  refine ⟨Table.insert_fresh inserted, ⟨_, stored, bindings.idle unbound.2⟩, fun nodeId runId => ?_, nodeRuns⟩
  rw [held_found stored]
  exact (bindings.state nodeId runId).trans (unbound.1 nodeId runId)

/-- What a decision or a restart stores. -/
theorem execute_introduces {command : Command} (committed : execute db command = .ok after)
    (creates : command.creates = some id) (created : DaemonProcess.newExecution db after id = true) :
    Introduced db after id := by
  simp only [DaemonProcess.newExecution, Bool.and_eq_true, Option.isNone_iff_eq_none] at created
  cases command with
  | acceptMvpDecision now ids command =>
    obtain rfl := Option.some.inj creates
    simp only [execute, bind_ok, pure_ok, Prod.exists, exists_and_right, exists_eq_right] at committed
    obtain ⟨_, committed⟩ := committed
    obtain ⟨_, execution, graphs, made, _, _, _, _, inserted, _, rfl⟩ := acceptMvpDecision_ok committed
    obtain ⟨_, graph, _, started, _, _⟩ := Core.acceptMvpDecision_ok made
    have named : execution.id = ids.executionId := by
      simp only [GraphExecution.start, bind_ok, exists_unit, pure_ok] at started
      obtain ⟨_, rfl⟩ := started
      rfl
    rw [named] at inserted
    exact introduced_start started inserted rfl rfl rfl
  | restartMissingOutputGraph now restartedId originalId expected =>
    obtain rfl := Option.some.inj creates
    simp only [execute, bind_ok, pure_ok, Prod.exists, exists_and_right, exists_eq_right] at committed
    obtain ⟨_, committed⟩ := committed
    rcases restartMissingOutputGraph_ok committed with rfl | ⟨row, _, restarted, graphs, _, _, _, _, made, _, inserted,
      _, rfl⟩
    · rw [created.1] at created
      cases created.2
    · simp only [GraphExecution.restartAs, bind_ok, exists_unit, pure_ok] at made
      obtain ⟨_, _, started, made, rfl⟩ := made
      have named : started.id = restartedId := by
        simp only [GraphExecution.start, bind_ok, exists_unit, pure_ok] at made
        obtain ⟨_, rfl⟩ := made
        rfl
      have nodes : ({ started with id := restartedId, restartedFromExecutionId := some row.execution.id } :
          GraphExecution).nodes = started.nodes := rfl
      dsimp only at inserted
      rw [named] at inserted
      exact introduced_start made inserted nodes rfl rfl
  | _ => cases creates

/-- The stored executions are sound, and those a decision or a restart created are tracked. -/
structure AttemptsSound (process : DaemonProcess) : Prop where
  graphs : SoundGraphs process.db
  tracked : ∀ id ∈ process.created, Tracked process.db id

omit [SerdeJson] in
theorem AttemptsSound.fresh : AttemptsSound .fresh where
  graphs := SoundGraphs.fresh
  tracked _ created := by cases created

/-- What a step does to the executions that a decision or a restart created. -/
theorem DaemonProcess.next_tracks {process : DaemonProcess} (sound : AttemptsSound process) (action : Action)
    (created : id ∈ (process.next action).created) :
    (id ∈ process.created ∧ Tracks ⟨process.db, action⟩ id process.db (process.next action).db) ∨
      Introduced process.db (process.next action).db id := by
  have moved : id ∈ process.created → id ∈ process.created ∧ Tracks ⟨process.db, action⟩ id process.db (process.next action).db := by
    intro before
    refine ⟨before, ?_⟩
    rcases process.next_change action with same | change
    · rw [same]
      exact .refl (sound.tracked id before)
    · exact change.tracks sound.graphs (sound.tracked id before)
  by_cases before : id ∈ process.created
  · exact .inl (moved before)
  right
  cases action with
  | command command =>
    simp only [next] at created ⊢
    rcases commit_cases process (execute process.db command) (fun db => { process with
        db, created := process.created ++ command.creates.toList.filter (newExecution process.db db) }) with
      ⟨db, _, committed, same⟩ | ⟨_, same⟩
    · rw [same] at created ⊢
      rcases List.mem_append.mp created with old | new
      · exact absurd old before
      · obtain ⟨creates, stored⟩ := List.mem_filter.mp new
        exact execute_introduces committed (Option.mem_toList.mp creates) stored
    · rw [same] at created
      exact absurd created before
  | claim now readable requestId =>
    simp only [next] at created
    rcases commit_cases process (claimStagedDispatch process.db now readable requestId) _ with
      ⟨_, _, _, same⟩ | ⟨_, same⟩
    · rw [same] at created
      exact absurd created before
    · rw [same] at created
      exact absurd created before
  | lookUp requestId succeeds =>
    simp only [next] at created
    split at created <;> exact absurd created before
  | failClaim now runId =>
    simp only [next] at created
    split at created
    · rcases commit_cases process (failDispatchClaim process.db now runId) _ with ⟨_, _, _, same⟩ | ⟨_, same⟩
      · rw [same] at created
        exact absurd created before
      · rw [same] at created
        exact absurd created before
    · exact absurd created before
  | restart now =>
    simp only [next] at created
    split at created <;> exact absurd created before

theorem AttemptsSound.next {process : DaemonProcess} (sound : AttemptsSound process) (action : Action) :
    AttemptsSound (process.next action) where
  graphs := SoundGraphs.next process action sound.graphs
  tracked id created := by
    rcases DaemonProcess.next_tracks sound action created with ⟨_, tracks⟩ | introduced
    · exact tracks.tracked
    · exact introduced.tracked

end Runs

end Bastet.Daemon
