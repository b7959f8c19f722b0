import Bastet.Daemon.GraphAgreement

/-! The attempts at a node come one after another: the run of one begins when those of all earlier ones
have ended, as long as no failed node is freed while the run it is bound to is at work. -/

set_option autoImplicit false

namespace Bastet.Daemon

open Fallible Bastet.Core Lookup

/-- The run that a node holds is where the node takes it to be, or the node was completed without it. -/
def Standing.Follows (standing : Standing) : Prop :=
  ∀ state, standing.held = some state →
    ∃ run, standing.run = some run ∧ (Fits state run ∨ state = .succeeded ∨ state = .failed)

/-- A run that its node does not hold has ended. -/
def Standing.Over (standing : Standing) : Prop :=
  standing.held = none → ∃ run, standing.run = some run ∧ run.state.isTerminal = true

section Moves

variable {step : Step} {id : GraphRunId} {nodeId : GraphNodeId} {runId : RunId} {before after : Standing}

theorem Fits.blocked {run : Run} (fits : Fits .blocked run) : run.state.isTerminal = true := by
  have goes := fits.goes
  cases state : run.state <;> simp_all [GraphNodeState.goesWith, NormalizedRunState.isTerminal]

/-- Recovery ends the run of a node at work. -/
theorem Fits.interrupted {run : Run} (fits : Fits .running run) (updatedAt : String) :
    (Run.recovered updatedAt run).state.isTerminal = true := by
  have goes := fits.goes
  have since := fits.since rfl
  have interrupted : wasInterrupted run = true := by
    unfold wasInterrupted
    cases state : run.state <;> simp_all [GraphNodeState.goesWith]
  have waits : ¬(run.state = .awaitingApproval ∧ run.startedAt = none) := by
    rintro ⟨_, none⟩
    rw [none] at since
    cases since
  rw [Run.recovered, if_neg waits, if_pos interrupted]
  rfl

theorem recovered_ended {run : Run} (ended : run.state.isTerminal = true) (updatedAt : String) :
    Run.recovered updatedAt run = run := by
  unfold Run.recovered wasInterrupted
  cases state : run.state <;> simp_all [NormalizedRunState.isTerminal]

theorem Moves.follows (moves : Moves step id nodeId runId before after) (follows : before.Follows) :
    after.Follows := by
  intro state held
  cases moves with
  | kept => exact follows state held
  | free | retried | reopened => cases held
  | staged awaiting unstarted =>
    obtain rfl := Option.some.inj held
    exact ⟨_, rfl, .inl ⟨by rw [awaiting]; rfl, fun _ => unstarted, fun none => (by cases none)⟩⟩
  | started starting since =>
    obtain rfl := Option.some.inj held
    exact ⟨_, rfl, .inl ⟨by rw [starting]; rfl, fun none => (by cases none), fun _ => since⟩⟩
  | dispatched starting since =>
    obtain rfl := Option.some.inj held
    exact ⟨_, rfl, .inl ⟨by rw [starting]; rfl, fun none => (by cases none), fun _ => since⟩⟩
  | reported was still since =>
    obtain ⟨run, same, fits | apart⟩ := follows state held
    · obtain rfl := Option.some.inj same
      exact ⟨_, rfl, .inl (fits.reported was still since)⟩
    · exact ⟨_, rfl, .inr apart⟩
  | ended terminal =>
    obtain rfl := Option.some.inj held
    exact ⟨_, rfl, .inl (.ended terminal)⟩
  | @completed run _ _ _ succeeded asked holds =>
    obtain ⟨run, rfl, _⟩ := follows .running rfl
    obtain rfl := Option.some.inj held
    refine ⟨run, rfl, .inr ?_⟩
    cases succeeded
    · exact .inr rfl
    · exact .inl rfl
  | @recovered was _ updatedAt =>
    simp only at held
    split at held
    · cases held
    · rename_i idle
      obtain ⟨run, rfl, fits | apart⟩ := follows state held
      · have other : state ≠ .running := fun same => idle (same ▸ held)
        exact ⟨run, by rw [Option.map_some, fits.recovered other updatedAt], .inl fits⟩
      · exact ⟨Run.recovered updatedAt run, rfl, .inr apart⟩

/-- A node lets go of a run that has ended; only the retry of a node that was completed by hand may not. -/
theorem Moves.settled (moves : Moves step id nodeId runId before after)
    (spared : ∀ now command run, step.action = .command (.retryFailedGraphNode now id command) →
      command.nodeId = nodeId → step.db.standing id nodeId runId = ⟨some .failed, some run⟩ →
      run.state.isTerminal = true)
    (follows : before.Follows) (settled : before.Over) : after.Over := by
  intro free
  cases moves with
  | kept => exact settled free
  | free ends =>
    obtain ⟨run, same, ended⟩ := settled rfl
    exact ⟨run, ends run same ended, ended⟩
  | staged | started | dispatched | ended | completed => cases free
  | @reported _ run _ was still since =>
    obtain ⟨_, same, ended⟩ := settled free
    obtain rfl := Option.some.inj same
    rcases was with active | recovering
    · cases state : run.state <;> simp_all [NormalizedRunState.isTerminal, NormalizedRunState.isActive]
    · rw [recovering] at ended
      cases ended
  | retried asked named held =>
    obtain ⟨run, rfl, _⟩ := follows .failed rfl
    exact ⟨run, rfl, spared _ _ run asked named held⟩
  | reopened =>
    obtain ⟨run, rfl, fits | other⟩ := follows .blocked rfl
    · exact ⟨run, rfl, fits.blocked⟩
    · rcases other with other | other <;> cases other
  | @recovered was _ updatedAt =>
    simp only at free
    split at free
    · rename_i running
      obtain ⟨run, rfl, fits | other⟩ := follows .running running
      · exact ⟨_, rfl, fits.interrupted updatedAt⟩
      · rcases other with other | other <;> cases other
    · obtain ⟨run, rfl, ended⟩ := settled free
      exact ⟨run, by rw [Option.map_some, recovered_ended ended updatedAt], ended⟩

end Moves

section Numbers

variable {db after : Database} {id : GraphRunId} {nodeId : GraphNodeId}

/-- The numbers of the attempts at a node, in the order in which these were begun. -/
def Database.numbers (self : Database) (id : GraphRunId) (nodeId : GraphNodeId) : List Nat :=
  (self.attempts id nodeId).map (·.attempt)

/-- The attempts at a node are numbered from one. -/
def Numbered (db : Database) (id : GraphRunId) (nodeId : GraphNodeId) : Prop :=
  db.numbers id nodeId = List.range' 1 (db.attempts id nodeId).length

theorem numbers_labels : db.numbers id nodeId =
    (db.labels.filter fun label => label.1 = id && label.2.1 = nodeId).map fun label => label.2.2.2 := by
  rw [Database.numbers, Database.attempts, Database.labels, List.filter_map, List.map_map]
  rfl

theorem maxAttempt_numbers : db.maxAttempt id nodeId = (db.numbers id nodeId).foldr max 0 := by
  rw [Database.maxAttempt, Database.numbers, List.foldr_map]

theorem foldr_max_range' (n least : Nat) : (List.range' 1 n).foldr max least = max n least := by
  induction n generalizing least with
  | zero => exact (Nat.zero_max least).symm
  | succ n ih =>
    rw [List.range'_concat, List.foldr_append, ih]
    simp only [List.foldr_cons, List.foldr_nil]
    omega

theorem Numbered.same (numbered : Numbered db id nodeId) (labels : after.labels = db.labels) :
    Numbered after id nodeId := by
  have numbers : after.numbers id nodeId = db.numbers id nodeId := by rw [numbers_labels, numbers_labels, labels]
  have length : (after.attempts id nodeId).length = (db.attempts id nodeId).length := by
    have counted := congrArg List.length numbers
    rwa [Database.numbers, Database.numbers, List.length_map, List.length_map] at counted
  rw [Numbered, numbers, length]
  exact numbered

/-- The next attempt at a node has the next number. -/
theorem Numbered.next {other : GraphRunId} {otherNode : GraphNodeId} {runId : RunId}
    (numbered : ∀ id nodeId, Numbered db id nodeId)
    (labels : after.labels = db.labels ++ [(other, otherNode, runId, db.maxAttempt other otherNode + 1)]) :
    Numbered after id nodeId := by
  have numbers : after.numbers id nodeId = db.numbers id nodeId ++
      if other = id ∧ otherNode = nodeId then [db.maxAttempt other otherNode + 1] else [] := by
    rw [numbers_labels, numbers_labels, labels, List.filter_append, List.map_append]
    by_cases here : other = id ∧ otherNode = nodeId
    · obtain ⟨rfl, rfl⟩ := here
      simp
    · have apart : (decide (other = id) && decide (otherNode = nodeId)) = false := by
        simpa using here
      rw [if_neg here, List.filter_cons, apart]
      rfl
  have length : (after.attempts id nodeId).length = (after.numbers id nodeId).length := (List.length_map _).symm
  rw [Numbered, length, numbers]
  by_cases here : other = id ∧ otherNode = nodeId
  · obtain ⟨rfl, rfl⟩ := here
    have before := numbered other otherNode
    have greatest : db.maxAttempt other otherNode = (db.attempts other otherNode).length := by
      rw [maxAttempt_numbers, before, foldr_max_range', Nat.max_zero]
    rw [if_pos ⟨rfl, rfl⟩, greatest, List.length_append, List.length_singleton, List.range'_concat, before,
      List.length_range']
    congr 2
    omega
  · rw [if_neg here, List.append_nil, Database.numbers, List.length_map]
    exact numbered id nodeId

end Numbers

section Ledger

variable [Sha256] [SerdeJson] {db after : Database} {id : GraphRunId}

omit [Sha256] [SerdeJson] in
/-- An attempt that finishes stays in the ledger. -/
theorem finished_labels {runId : RunId} {finishedAt : String} {terminalState : NormalizedRunState}
    {failure : Option AdapterFailure} :
    (db.nodeRuns.update runId (NodeRunRow.finish finishedAt terminalState failure) NodeRunRow.finish_runId).rows.map
      NodeRunRow.label = db.labels :=
  Table.map_update NodeRunRow.finish_label

theorem Cancels.labels {now : Nat} {row : StagedRow} {reason : String} {run : Run} {plan : ProviderLaunchPlan}
    {graphRow : GraphRow} {execution : GraphExecution}
    (cancels : Cancels db now row reason run plan graphRow execution after) : after.labels = db.labels := by
  obtain ⟨grants, events, _, rfl⟩ := cancels.left
  exact finished_labels

theorem MayCancel.labels {now : Nat} {requestId : ApprovalRequestId} {reason : String}
    (cancels : MayCancel db now requestId reason after) : after.labels = db.labels := by
  rcases cancels with ⟨rfl, _⟩ | ⟨_, _, _, _, _, _, cancels⟩
  · rfl
  · exact cancels.labels

theorem CancelsSome.labels {now : Nat} (cancels : CancelsSome now db after) : after.labels = db.labels := by
  induction cancels with
  | refl => rfl
  | tail _ last ih =>
    obtain ⟨_, _, cancels⟩ := last
    exact cancels.labels.trans ih

theorem onDecision_labels {now : Nat} {request : ApprovalRequest} {kind : ApprovalDecisionKind}
    (informed : onDecision db now request kind = .ok after) : after.labels = db.labels := by
  rcases onDecision_ok informed with ⟨_, rfl⟩ | ⟨_, _, _, _, _, _, _, _, _, _, _, rfl⟩ | ⟨_, cancels⟩
  · rfl
  · rfl
  · exact cancels.labels

omit [Sha256] [SerdeJson] in
/-- An attempt begins at a node that holds no run. -/
structure BeginsAttempt (db after : Database) (id : GraphRunId) (nodeId : GraphNodeId) (runId : RunId) : Prop where
  labels : after.labels = db.labels ++ [(id, nodeId, runId, db.maxAttempt id nodeId + 1)]
  stored : (db.graphs.find? id).isSome = true
  free : Tracked db id → ∀ other, db.held id nodeId other = none
  holds : Tracked db id → after.held id nodeId runId ≠ none

omit [Sha256] [SerdeJson] in
theorem occupyNode_free {before execution : GraphExecution} {nodeId : GraphNodeId} {owner : String} {runId : RunId}
    {staged : Bool} (idle : before.PendingUnbound)
    (done : occupyNode before nodeId owner runId staged = .ok execution) (other : RunId) :
    before.stateFor nodeId other = none := by
  rcases occupyNode_ok done with ⟨_, staged⟩ | ⟨_, _, claim, _⟩
  · obtain ⟨_, node, _, _, _, _, found, _, _, unbound, _⟩ := GraphExecution.stageNode_ok staged
    rw [GraphExecution.stateFor_found found, GraphNodeExecution.stateFor_unbound unbound]
  · obtain ⟨_, node, _, _, found, pending, _⟩ := GraphExecution.claimNode_ok claim
    rw [GraphExecution.stateFor_found found, GraphNodeExecution.stateFor_unbound (idle nodeId node found pending)]

theorem Beginning.beginsAttempt {now : Nat} {ids : RunIds} {command : BeginGraphNodeRunCommand}
    (begun : Beginning db now ids id command) (graphs : after.graphs = begun.database.graphs)
    (nodeRuns : after.nodeRuns = begun.nodeRuns) : BeginsAttempt db after id command.nodeId ids.runId := by
  have stored : Tracked db id → begun.row.execution.PendingUnbound := by
    intro tracked
    obtain ⟨row, found, idle⟩ := tracked.stored
    obtain rfl := Option.some.inj (begun.found.symm.trans found)
    exact idle
  refine ⟨?_, by rw [begun.found]; rfl, fun tracked other => ?_, fun tracked => ?_⟩
  · rw [Database.labels, nodeRuns, Table.rows_insert begun.attempted, List.map_append]
    rfl
  · rw [held_found begun.found]
    exact occupyNode_free (stored tracked) begun.occupied other
  · rw [held_update begun.found graphs, if_pos rfl, (occupyNode_rebinds (stored tracked) begun.occupied).now]
    exact Option.some_ne_none _

/-- The ledger of attempts stays as it is, or an attempt begins. -/
theorem Change.labels {action : Action} (change : Change db action after) :
    after.labels = db.labels ∨ ∃ id nodeId runId, BeginsAttempt db after id nodeId runId := by
  cases change with
  | begun events begun serving attended current left =>
    have stages := Beginning.stages left
    exact .inr ⟨_, _, _, begun.beginsAttempt stages.graphs stages.nodeRuns⟩
  | storedM3 stored =>
    obtain ⟨_, _, _, rfl⟩ := stored
    exact .inl rfl
  | worked stored =>
    obtain ⟨_, _, _, _, _, rfl⟩ := stored
    exact .inl rfl
  | finished => exact .inl finished_labels
  | decided issued events deciding informed =>
    have kept := onDecision_labels informed
    exact .inl kept
  | cancelled events some => exact .inl some.labels
  | revoked events spent cancels => exact .inl cancels.labels
  | recovered events middle proved catalogValid recoverable revised expired => exact .inl expired.labels
  | _ => exact .inl rfl

end Ledger

section Retries

variable [Sha256] [SerdeJson] {process : DaemonProcess} {db : Database} {id : GraphRunId}

omit [SerdeJson] in
/-- The retry of a failed node would commit, and the run that the node is bound to has not ended. -/
def freesLive (db : Database) (id : GraphRunId) (command : RetryFailedGraphNodeCommand) : Bool :=
  (db.graphs.find? id).any fun row => decide (row.revision = command.expectedGraphRevision) &&
    isOk (validateStored db row.execution) && decide (bump row.execution.revision < sqlLimit) &&
    (row.execution.node? command.nodeId).any fun node => decide (node.state = .failed) &&
      node.runId.any fun runId => (db.identity.content.run? runId).any fun run => !run.state.isTerminal

omit [SerdeJson] in
/-- Such a node of an execution that a decision or a restart created would be retried. -/
def retriesLive (process : DaemonProcess) : Action → Bool
  | .command (.retryFailedGraphNode _ id command) =>
    decide (process.service = .serving) && decide (id ∈ process.created) && freesLive process.db id command
  | _ => false

omit [SerdeJson] in
theorem freesLive_iff {command : RetryFailedGraphNodeCommand} : freesLive db id command = true ↔
    ∃ row node runId run, db.graphs.find? id = some row ∧ row.revision = command.expectedGraphRevision ∧
      validateStored db row.execution = .ok () ∧ bump row.execution.revision < sqlLimit ∧
      row.execution.node? command.nodeId = some node ∧ node.state = .failed ∧ node.runId = some runId ∧
      db.identity.content.run? runId = some run ∧ run.state.isTerminal = false := by
  simp only [freesLive, Option.any_eq_true, Bool.and_eq_true, decide_eq_true_eq, isOk_unit, Bool.not_eq_true']
  constructor
  · rintro ⟨row, found, ⟨⟨current, readable⟩, bounded⟩, node, located, failed, runId, bound, run, reached, live⟩
    exact ⟨row, node, runId, run, found, current, readable, bounded, located, failed, bound, reached, live⟩
  · rintro ⟨row, node, runId, run, found, current, readable, bounded, located, failed, bound, reached, live⟩
    exact ⟨row, found, ⟨⟨current, readable⟩, bounded⟩, node, located, failed, runId, bound, run, reached, live⟩

omit [SerdeJson] in
/-- A retry that commits, of a node whose run has not ended. -/
theorem retryFailedGraphNode_live {now : Nat} {command : RetryFailedGraphNodeCommand}
    {result : Database × GraphExecutionReceipt} {runId : RunId} {run : Run}
    (committed : retryFailedGraphNode db now id command = .ok result)
    (held : db.standing id command.nodeId runId = ⟨some .failed, some run⟩)
    (live : run.state.isTerminal = false) : freesLive db id command = true := by
  simp only [retryFailedGraphNode, updateStoredGraph, bind_ok, exists_unit, loadGraph_ok, Prod.exists, lift_ok,
    updateGraph_ok, pure_ok, Prod.mk.injEq] at committed
  obtain ⟨_, _, ⟨_, ⟨row, found, current, readable, rfl⟩, _, execution, ⟨_, retried, rfl, rfl⟩, _, _, ⟨bounded, _⟩,
    _⟩, _⟩ := committed
  obtain ⟨_, _, _, _, _, rfl⟩ := GraphExecution.retryFailed_ok retried
  obtain ⟨held, reached⟩ := Standing.mk.inj held
  rw [held_found found] at held
  obtain ⟨node, located, bound, failed⟩ := GraphExecution.stateFor_isNode held
  exact freesLive_iff.mpr
    ⟨row, node, runId, run, found, current, readable, bounded, located, failed, bound, reached, live⟩

/-- A retry that is committed frees a run that has ended, if it does not free a live one. -/
theorem spared {action : Action} (permitted : retriesLive process action = false) (created : id ∈ process.created)
    (moved : (process.next action).db ≠ process.db) {now : Nat} {command : RetryFailedGraphNodeCommand} {runId : RunId}
    {run : Run} (asked : action = .command (.retryFailedGraphNode now id command))
    (held : process.db.standing id command.nodeId runId = ⟨some .failed, some run⟩) :
    run.state.isTerminal = true := by
  by_contra live
  subst asked
  simp only [DaemonProcess.next] at moved
  rcases DaemonProcess.commit_cases process (execute process.db (.retryFailedGraphNode now id command)) (fun db =>
      { process with
        db, created := process.created ++ (Command.retryFailedGraphNode now id command).creates.toList.filter
          (DaemonProcess.newExecution process.db db) }) with
    ⟨db, serving, committed, _⟩ | ⟨_, same⟩
  · simp only [execute, bind_ok, Prod.exists, pure_ok] at committed
    obtain ⟨_, _, committed, _⟩ := committed
    have frees := retryFailedGraphNode_live committed held (Bool.eq_false_of_not_eq_true live)
    simp only [retriesLive, serving, created, frees, decide_true, Bool.and_self] at permitted
    cases permitted
  · rw [same] at moved
    exact moved rfl

end Retries

section Runs

variable [Sha256] [SerdeJson] {process : DaemonProcess} {id : GraphRunId}

/-- The run of an attempt at a node has not ended. -/
def Database.Live (self : Database) (id : GraphRunId) (nodeId : GraphNodeId) (runId : RunId) : Prop :=
  self.Recorded id nodeId runId ∧ ∃ run, self.identity.content.run? runId = some run ∧ run.state.isTerminal = false

/-- The attempts at the nodes of an execution come one after another. -/
structure OneAtATime (process : DaemonProcess) (id : GraphRunId) : Prop where
  single : ∀ nodeId runId other, process.db.Live id nodeId runId → process.db.Live id nodeId other → runId = other
  numbered : ∀ nodeId, Numbered process.db id nodeId
  /-- When an attempt begins, every earlier one has ended. -/
  earlier : ∀ action nodeId runId, ¬process.db.Recorded id nodeId runId →
    (process.next action).db.Recorded id nodeId runId → ∀ other, process.db.Recorded id nodeId other →
    ∃ run, process.db.identity.content.run? other = some run ∧ run.state.isTerminal = true

/-- Every attempt is at a node of a stored execution, and the attempts at a node that it does not hold have ended. -/
structure AttemptsInOrder (process : DaemonProcess) : Prop where
  attempts : AttemptsSound process
  stored : ∀ id nodeId runId, process.db.Recorded id nodeId runId → (process.db.graphs.find? id).isSome = true
  numbered : ∀ id nodeId, Numbered process.db id nodeId
  follows : ∀ id ∈ process.created, ∀ nodeId runId, (process.db.standing id nodeId runId).Follows
  settled : ∀ id ∈ process.created, ∀ nodeId runId, process.db.Recorded id nodeId runId →
    (process.db.standing id nodeId runId).Over

omit [SerdeJson] in
theorem AttemptsInOrder.fresh : AttemptsInOrder .fresh where
  attempts := .fresh
  stored _ _ _ recorded := by
    obtain ⟨_, listed⟩ := recorded
    cases listed
  numbered _ _ := rfl
  follows _ created := by cases created
  settled _ created := by cases created

/-- What a step adds to the ledger of attempts. -/
theorem DaemonProcess.next_labels (process : DaemonProcess) (action : Action) :
    (process.next action).db.labels = process.db.labels ∨
      ∃ id nodeId runId, BeginsAttempt process.db (process.next action).db id nodeId runId := by
  rcases process.next_change action with same | change
  · exact .inl (by rw [same])
  · exact change.labels

/-- An attempt that a step records is the one it begins. -/
theorem DaemonProcess.next_recorded {action : Action} {nodeId : GraphNodeId} {runId : RunId}
    (recorded : (process.next action).db.Recorded id nodeId runId) :
    process.db.Recorded id nodeId runId ∨ BeginsAttempt process.db (process.next action).db id nodeId runId := by
  obtain ⟨attempt, listed⟩ := recorded
  rcases process.next_labels action with same | ⟨_, _, _, begins⟩
  · exact .inl ⟨attempt, same ▸ listed⟩
  · rw [begins.labels] at listed
    rcases List.mem_append.mp listed with before | new
    · exact .inl ⟨attempt, before⟩
    · obtain ⟨rfl, rfl, rfl, _⟩ : id = _ ∧ nodeId = _ ∧ runId = _ ∧ attempt = _ := by
        simpa only [List.mem_singleton, Prod.mk.injEq] using new
      exact .inr begins

theorem AttemptsInOrder.next_stored (sound : AttemptsInOrder process) (action : Action) {nodeId : GraphNodeId}
    {runId : RunId} (recorded : (process.next action).db.Recorded id nodeId runId) :
    ((process.next action).db.graphs.find? id).isSome = true := by
  have before : (process.db.graphs.find? id).isSome = true := by
    rcases DaemonProcess.next_recorded recorded with before | begins
    · exact sound.stored id nodeId runId before
    · exact begins.stored
  obtain ⟨row, found⟩ := Option.isSome_iff_exists.mp before
  obtain ⟨later, reached, _⟩ := (run_graphsFollow sound.attempts.graphs [action]).kept id row found
  exact Option.isSome_iff_exists.mpr ⟨later, reached⟩

theorem AttemptsInOrder.next (sound : AttemptsInOrder process) {action : Action}
    (permitted : retriesLive process action = false) : AttemptsInOrder (process.next action) where
  attempts := sound.attempts.next action
  stored _ _ _ recorded := sound.next_stored action recorded
  numbered id nodeId := by
    rcases process.next_labels action with same | ⟨_, _, _, begins⟩
    · exact (sound.numbered id nodeId).same same
    · exact .next sound.numbered begins.labels
  follows id created nodeId runId := by
    rcases DaemonProcess.next_tracks sound.attempts action created with ⟨before, tracks⟩ | introduced
    · have follows := sound.follows id before nodeId runId
      have moves := tracks.moves nodeId runId
      generalize (process.next action).db.standing id nodeId runId = later at moves
      induction moves with
      | refl => exact follows
      | tail _ last ih => exact last.follows ih
    · intro state held
      rw [Database.standing, introduced.free] at held
      cases held
  settled id created nodeId runId recorded := by
    rcases DaemonProcess.next_tracks sound.attempts action created with ⟨before, tracks⟩ | introduced
    · rcases DaemonProcess.next_recorded recorded with old | begins
      · have follows := sound.follows id before nodeId runId
        have settled := sound.settled id before nodeId runId old
        by_cases same : (process.next action).db = process.db
        · rw [same]
          exact settled
        · have moves := tracks.moves nodeId runId
          generalize (process.next action).db.standing id nodeId runId = later at moves
          suffices both : later.Follows ∧ later.Over from both.2
          induction moves with
          | refl => exact ⟨follows, settled⟩
          | tail _ last ih =>
            refine ⟨last.follows ih.1, last.settled (fun _ _ _ asked named held => ?_) ih.1 ih.2⟩
            subst named
            exact spared permitted before same asked held
      · intro free
        exact absurd free (begins.holds (sound.attempts.tracked id before))
    · -- an execution that was not stored had no attempts
      have old : process.db.Recorded id nodeId runId := by
        rw [Database.Recorded, Database.labels, introduced.nodeRuns] at recorded
        exact recorded
      have stored := sound.stored id nodeId runId old
      rw [introduced.absent] at stored
      cases stored

/-- A live attempt is the one its node holds. -/
theorem AttemptsInOrder.oneAtATime (sound : AttemptsInOrder process) (created : id ∈ process.created) :
    OneAtATime process id where
  single nodeId runId other live again := by
    have held : ∀ runId, process.db.Live id nodeId runId → ∃ row node, process.db.graphs.find? id = some row ∧
        row.execution.node? nodeId = some node ∧ node.runId = some runId := by
      rintro runId ⟨recorded, run, reached, live⟩
      cases held : process.db.held id nodeId runId with
      | none =>
        obtain ⟨same, found, ended⟩ := sound.settled id created nodeId runId recorded held
        obtain rfl := Option.some.inj (reached.symm.trans found)
        rw [live] at ended
        cases ended
      | some state =>
        obtain ⟨row, found, inside⟩ := Option.bind_eq_some_iff.mp held
        obtain ⟨node, located, bound, _⟩ := GraphExecution.stateFor_isNode inside
        exact ⟨row, node, found, located, bound⟩
    obtain ⟨row, node, found, located, bound⟩ := held runId live
    obtain ⟨_, _, again, same, rebound⟩ := held other again
    obtain rfl := Option.some.inj (found.symm.trans again)
    obtain rfl := Option.some.inj (located.symm.trans same)
    exact Option.some.inj (bound.symm.trans rebound)
  numbered := sound.numbered id
  earlier action nodeId runId unrecorded recorded other before := by
    rcases DaemonProcess.next_recorded recorded with old | begins
    · exact absurd old unrecorded
    · exact sound.settled id created nodeId other before (begins.free (sound.attempts.tracked id created) other)

/-- Along a run in which no failed node is retried before its run ends, the attempts at every node come one
after another. -/
theorem single_attempt (actions : List Action)
    (permitted : Machine.Allowed DaemonProcess.next (fun process action => retriesLive process action = false)
      .fresh actions) :
    ∀ id ∈ (DaemonProcess.fresh.run actions).created, OneAtATime (DaemonProcess.fresh.run actions) id := by
  have kept : ∀ process action, retriesLive process action = false → AttemptsInOrder process →
      AttemptsInOrder (process.next action) := fun _ _ permitted sound => sound.next permitted
  have sound := Machine.allowed_run_preserves kept .fresh permitted
  exact fun id created => AttemptsInOrder.oneAtATime sound created

/-- The node of the first run is completed by hand as failed while the run starts; a restart ends the run, and
the node is retried and begun again. -/
def retriedAfterRestart : List Action :=
  firstRun ++ [.command (.completeGraphNode 7 (nth 24) 1 (nth 21) "console" false), .restart 8,
    .command (.retryFailedGraphNode 9 (nth 24) ⟨nth 21, 2⟩),
    .command (.beginGraphNodeRun 10 ⟨nth 40, nth 41, nth 42⟩ (nth 24) ⟨3, 3, nth 21, "console"⟩ none)]

omit [Sha256] [SerdeJson] in
theorem single_attempt_restarted :
    @OneAtATime (.table []) SerdeJson.compact
      (@DaemonProcess.run (.table []) SerdeJson.compact .fresh retriedAfterRestart) (nth 24) := by
  obtain ⟨permitted, created⟩ :
      Machine.Allowed (@DaemonProcess.next (.table []) SerdeJson.compact)
        (fun process action => @retriesLive (.table []) process action = false) .fresh retriedAfterRestart ∧
      nth 24 ∈ (@DaemonProcess.run (.table []) SerdeJson.compact .fresh retriedAfterRestart).created := by
    decide +kernel
  exact @single_attempt (.table []) SerdeJson.compact retriedAfterRestart permitted (nth 24) created

/-- The node is retried while the run still starts. -/
def retriedTooEarly : List Action :=
  firstRun ++ [.command (.completeGraphNode 7 (nth 24) 1 (nth 21) "console" false),
    .command (.retryFailedGraphNode 8 (nth 24) ⟨nth 21, 2⟩),
    .command (.beginGraphNodeRun 9 ⟨nth 40, nth 41, nth 42⟩ (nth 24) ⟨2, 3, nth 21, "console"⟩ none)]

omit [Sha256] [SerdeJson] in
/-- Two attempts are live. -/
theorem single_attempt_fails :
    nth 24 ∈ (@DaemonProcess.run (.table []) SerdeJson.compact .fresh retriedTooEarly).created ∧
      ¬@OneAtATime (.table []) SerdeJson.compact
        (@DaemonProcess.run (.table []) SerdeJson.compact .fresh retriedTooEarly) (nth 24) := by
  obtain ⟨created, first, second, started, again⟩ :
      nth 24 ∈ (@DaemonProcess.run (.table []) SerdeJson.compact .fresh retriedTooEarly).created ∧
      (nth 24, nth 21, nth 31, 1) ∈
        (@DaemonProcess.run (.table []) SerdeJson.compact .fresh retriedTooEarly).db.labels ∧
      (nth 24, nth 21, nth 41, 2) ∈
        (@DaemonProcess.run (.table []) SerdeJson.compact .fresh retriedTooEarly).db.labels ∧
      ((@DaemonProcess.run (.table []) SerdeJson.compact .fresh retriedTooEarly).db.identity.content.run?
        (nth 31)).map (·.state) = some .starting ∧
      ((@DaemonProcess.run (.table []) SerdeJson.compact .fresh retriedTooEarly).db.identity.content.run?
        (nth 41)).map (·.state) = some .starting := by
    decide +kernel
  refine ⟨created, fun ordered => ?_⟩
  obtain ⟨one, located, state⟩ := Option.map_eq_some_iff.mp started
  obtain ⟨two, found, beside⟩ := Option.map_eq_some_iff.mp again
  have same : nth 31 = nth 41 :=
    @OneAtATime.single (.table []) SerdeJson.compact _ _ ordered (nth 21) (nth 31) (nth 41)
      ⟨⟨1, first⟩, one, located, by rw [state]; rfl⟩ ⟨⟨2, second⟩, two, found, by rw [beside]; rfl⟩
  exact absurd same (by decide)

end Runs

end Bastet.Daemon
