import Bastet.Daemon.GraphWrites

/-! The outputs of a stored execution are kept twice, in the execution and as rows of a ledger.
Every load compares the two, so an execution stays readable as long as they agree. -/

set_option autoImplicit false

namespace Bastet.Daemon

open Fallible Bastet.Core Lookup

def OutputRow.output (row : OutputRow) : GraphNodeOutput :=
  ⟨row.nodeId, row.runId, row.contentHash, row.markdown⟩

/-- The outputs of an execution in the ledger, in the order of their rows. -/
def ledgerOutputs (db : Database) (id : GraphRunId) : List GraphNodeOutput :=
  (db.outputs.rows.filter fun row => row.executionId = id).map OutputRow.output

/-- The outputs a stored execution holds itself; there are none where none is stored. -/
def heldOutputs (db : Database) (id : GraphRunId) : List GraphNodeOutput :=
  ((db.graphs.find? id).map fun row => row.execution.outputs).getD []

/-- Both copies agree, in content and in order. -/
def LedgerAgrees (db : Database) : Prop :=
  ∀ id, ledgerOutputs db id = heldOutputs db id

/-- Every stored execution passes the checks of its loads. -/
def Loadable [Sha256] (db : Database) : Prop :=
  (∀ id row, db.graphs.find? id = some row → graphExecution db id = .ok row.execution) ∧
    graphExecutions db = .ok (storedExecutions db)

section Agreement

variable [Sha256] {db after last : Database}

omit [Sha256] in
theorem validateGraphOutputLedger_ok {execution : GraphExecution}
    (same : ledgerOutputs db execution.id = execution.outputs) : validateGraphOutputLedger db execution = .ok () := by
  have counted : (db.outputs.rows.countP fun row => row.executionId = execution.id) = execution.outputs.length := by
    rw [← same, ledgerOutputs, List.length_map, List.countP_eq_length_filter]
  simp only [validateGraphOutputLedger, bind_ok, exists_unit, reject_ok, forEach_ok]
  refine ⟨by simp [counted], fun output member => ?_⟩
  rw [← same] at member
  obtain ⟨row, listed, rfl⟩ := List.mem_map.mp member
  obtain ⟨inside, named⟩ := List.mem_filter.mp listed
  simp only [Bool.not_eq_false', List.any_eq_true]
  exact ⟨row, inside, by simpa [OutputRow.output] using named⟩

theorem LedgerAgrees.validateStored (agrees : LedgerAgrees db) (sound : SoundGraphs db) {id : GraphRunId}
    {row : GraphRow} (found : db.graphs.find? id = some row) : validateStored db row.execution = .ok () := by
  have stored := sound id row found
  have named : row.execution.id = id := stored.id.symm.trans (Table.find?_key found)
  have same : ledgerOutputs db row.execution.id = row.execution.outputs := by
    rw [named, agrees id, heldOutputs, found]
    rfl
  simp only [Daemon.validateStored, bind_ok, exists_unit, lift_ok]
  exact ⟨GraphExecution.validate_iff.mpr stored.valid, validateGraphOutputLedger_ok same⟩

theorem LedgerAgrees.loadable (agrees : LedgerAgrees db) (sound : SoundGraphs db) : Loadable db := by
  constructor
  · intro id row found
    simp only [graphExecution, bind_ok, exists_unit, required_ok, pure_ok]
    exact ⟨row, found, agrees.validateStored sound found, rfl⟩
  · refine loadGraphExecutions_ok.mpr ⟨fun execution listed => ?_, rfl⟩
    obtain ⟨row, member, rfl⟩ := mem_storedExecutions.mp listed
    exact agrees.validateStored sound (Table.find?_mem member)

omit [Sha256] in
/-- A change leaves both copies as they are. -/
structure KeepsOutputs (db after : Database) : Prop where
  ledger : after.outputs = db.outputs
  held : ∀ id, heldOutputs after id = heldOutputs db id

omit [Sha256] in
theorem KeepsOutputs.agrees (keeps : KeepsOutputs db after) (agrees : LedgerAgrees db) : LedgerAgrees after := by
  intro id
  rw [keeps.held id, ← agrees id, ledgerOutputs, ledgerOutputs, keeps.ledger]

omit [Sha256] in
theorem KeepsOutputs.of_same (outputs : after.outputs = db.outputs) (graphs : after.graphs = db.graphs) :
    KeepsOutputs db after :=
  ⟨outputs, fun id => by rw [heldOutputs, heldOutputs, graphs]⟩

omit [Sha256] in
theorem KeepsOutputs.trans (first : KeepsOutputs db after) (second : KeepsOutputs after last) : KeepsOutputs db last :=
  ⟨second.ledger.trans first.ledger, fun id => (second.held id).trans (first.held id)⟩

omit [Sha256] in
/-- One execution is written, with the outputs it had. -/
theorem KeepsOutputs.of_update {id : GraphRunId} {row : GraphRow} {execution : GraphExecution} {updatedAt : String}
    (stored : db.graphs.find? id = some row) (same : execution.outputs = row.execution.outputs)
    (outputs : after.outputs = db.outputs)
    (graphs : after.graphs = db.graphs.update id (GraphRow.store execution updatedAt) GraphRow.store_executionId) :
    KeepsOutputs db after := by
  refine ⟨outputs, fun other => ?_⟩
  rw [heldOutputs, heldOutputs, graphs, Table.find?_update]
  by_cases here : other = id
  · rw [if_pos here, here, stored]
    exact same
  · rw [if_neg here]

omit [Sha256] in
/-- A new execution without outputs is stored. -/
theorem KeepsOutputs.of_insert {row : GraphRow} (inserted : db.graphs.insert row = some after.graphs)
    (none : row.execution.outputs = []) (outputs : after.outputs = db.outputs) : KeepsOutputs db after := by
  refine ⟨outputs, fun other => ?_⟩
  rw [heldOutputs, heldOutputs, Table.find?_insert inserted]
  by_cases here : other = row.executionId
  · rw [if_pos here, here, Table.insert_fresh inserted]
    exact none
  · rw [if_neg here]

end Agreement

section Operations

variable {before after : GraphExecution}

theorem cancelStagedNode_outputs {nodeId : GraphNodeId} {owner : String} {runId : RunId}
    (done : before.cancelStagedNode nodeId owner runId = .ok after) : after.outputs = before.outputs := by
  obtain ⟨_, _, _, _, _, rfl⟩ := GraphExecution.cancelStagedNode_ok done
  rfl

theorem finishTerminal_outputs {nodeId : GraphNodeId} {owner : String} {state : GraphNodeState}
    {failure : Option AdapterFailure} (done : before.finishTerminal nodeId owner state failure = .ok after) :
    after.outputs = before.outputs := by
  obtain ⟨_, _, _, _, _, rfl⟩ := GraphExecution.finishTerminal_ok done
  split <;> rfl

theorem occupyNode_outputs {nodeId : GraphNodeId} {owner : String} {runId : RunId} {staged : Bool}
    (done : occupyNode before nodeId owner runId staged = .ok after) : after.outputs = before.outputs := by
  rcases occupyNode_ok done with ⟨_, staged⟩ | ⟨_, _, claim, bound⟩
  · obtain ⟨_, _, _, _, _, _, _, _, _, _, rfl⟩ := GraphExecution.stageNode_ok staged
    rfl
  · obtain ⟨_, _, _, _, _, _, rfl⟩ := GraphExecution.claimNode_ok claim
    obtain ⟨_, _, _, _, _, rfl⟩ := GraphExecution.bindRun_ok bound
    rfl

theorem Works.outputs {command : Command} (works : Works before command after) : after.outputs = before.outputs := by
  cases works with
  | retried done =>
    obtain ⟨_, _, _, _, _, rfl⟩ := GraphExecution.retryFailed_ok done
    rfl
  | claimed done =>
    unfold GraphExecution.claimReady at done
    split at done
    · cases done
    · split at done
      · cases done
      · obtain ⟨_, rfl⟩ := Prod.mk.inj done
        rfl
  | completed done =>
    obtain ⟨_, _, _, _, rfl⟩ := GraphExecution.complete_ok done
    split <;> rfl

end Operations

section Changes

variable [Sha256] [SerdeJson] {db after : Database}

theorem Cancels.keepsOutputs {now : Nat} {row : StagedRow} {reason : String} {run : Run} {plan : ProviderLaunchPlan}
    {graphRow : GraphRow} {execution : GraphExecution}
    (cancels : Cancels db now row reason run plan graphRow execution after) (sound : SoundGraphs db) :
    KeepsOutputs db after := by
  have stored := sound _ _ cancels.stored
  have written : Written graphRow.execution execution := .cancelled cancels.cancelled
  have same : execution.id = plan.executionId :=
    (written.kept stored.valid).1.id.trans (stored.id.symm.trans (Table.find?_key cancels.stored))
  have outputs := cancelStagedNode_outputs cancels.cancelled
  obtain ⟨grants, events, _, rfl⟩ := cancels.left
  exact .of_update (same ▸ cancels.stored) outputs rfl rfl

theorem MayCancel.keepsOutputs {now : Nat} {requestId : ApprovalRequestId} {reason : String}
    (cancels : MayCancel db now requestId reason after) (sound : SoundGraphs db) : KeepsOutputs db after := by
  rcases cancels with ⟨rfl, _⟩ | ⟨_, _, _, _, _, _, cancels⟩
  · exact .of_same rfl rfl
  · exact cancels.keepsOutputs sound

theorem CancelsSome.keepsOutputs {now : Nat} (cancels : CancelsSome now db after) (sound : SoundGraphs db) :
    KeepsOutputs db after := by
  induction cancels with
  | refl => exact .of_same rfl rfl
  | tail some last ih =>
    obtain ⟨_, _, cancels⟩ := last
    exact ih.trans (cancels.keepsOutputs ((CancelsSome.graphsFollow some sound).sound sound))

theorem onDecision_keepsOutputs {now : Nat} {request : ApprovalRequest} {kind : ApprovalDecisionKind}
    (informed : onDecision db now request kind = .ok after) (sound : SoundGraphs db) : KeepsOutputs db after := by
  rcases onDecision_ok informed with ⟨_, rfl⟩ | ⟨_, _, _, _, _, _, _, _, _, _, _, rfl⟩ | ⟨_, cancels⟩
  · exact .of_same rfl rfl
  · exact .of_same rfl rfl
  · exact cancels.keepsOutputs sound

omit [Sha256] [SerdeJson] in
theorem ledgerOutputs_insert {row : OutputRow} (inserted : db.outputs.insert row = some after.outputs)
    (id : GraphRunId) :
    ledgerOutputs after id = ledgerOutputs db id ++ if row.executionId = id then [row.output] else [] := by
  rw [ledgerOutputs, ledgerOutputs, Table.rows_insert inserted, List.filter_append, List.map_append]
  by_cases here : row.executionId = id
  · simp [here]
  · simp [here]

omit [SerdeJson] in
/-- A run that ends records its output in both copies, or in none. -/
theorem Finishing.agrees {now : Nat} {costId : CostRecordId} {id : GraphRunId} {command : FinishGraphNodeRunCommand}
    (finishing : Finishing db now costId id command) (events : List String) (agrees : LedgerAgrees db) :
    LedgerAgrees (finishing.database events) := by
  have made := finishing.graphMade
  have left := finishing.recorded
  simp only [finishedGraph, bind_ok] at made
  obtain ⟨ended, terminal, made⟩ := made
  have before := finishTerminal_outputs terminal
  cases recorded : finishing.finished.output with
  | none =>
    rw [recorded] at made left
    obtain rfl := pure_ok.mp made
    have keeps : KeepsOutputs db (finishing.database events) := .of_update finishing.found before left rfl
    exact keeps.agrees agrees
  | some output =>
    rw [recorded] at made left
    obtain ⟨_, _, _, _, _, _, made⟩ := GraphExecution.recordOutput_ok made
    have inserted : db.outputs.insert _ = some (finishing.database events).outputs := left
    intro other
    rw [ledgerOutputs_insert inserted, agrees other]
    simp only [heldOutputs, Finishing.database, Table.find?_update]
    by_cases here : other = id
    · subst here
      rw [if_pos rfl, if_pos rfl, finishing.found]
      simp only [Option.map_some, Option.getD_some, GraphRow.store, made, before]
      rfl
    · rw [if_neg here, if_neg (Ne.symm here), List.append_nil]

/-- Every change keeps the agreement, but the storing of an execution that comes with outputs. -/
theorem Change.agrees {action : Action} (change : Change db action after) (sound : SoundGraphs db)
    (agrees : LedgerAgrees db) :
    LedgerAgrees after ∨ ∃ now submitted, action = .command (.createGraphExecution now submitted) ∧
      (sanitizeExecution submitted).validate = .ok () ∧ submitted.revision < sqlLimit ∧
      db.graphs.find? submitted.id = none ∧ submitted.outputs ≠ [] := by
  have same : ∀ {later : Database}, KeepsOutputs db later → LedgerAgrees later := fun keeps => keeps.agrees agrees
  cases change with
  | accepted events made consistent m3Bounded graphBounded inserted =>
    obtain ⟨_, _, _, started, _, _⟩ := Core.acceptMvpDecision_ok made
    simp only [GraphExecution.start, bind_ok, exists_unit, pure_ok] at started
    obtain ⟨_, rfl⟩ := started
    exact .inl (same (.of_insert inserted rfl rfl))
  | storedM3 stored =>
    obtain ⟨_, _, _, rfl⟩ := stored
    exact .inl (same (.of_same rfl rfl))
  | @createdGraph now submitted _ events valid bounded inserted =>
    by_cases none : submitted.outputs = []
    · exact .inl (same (.of_insert inserted none rfl))
    · exact .inr ⟨now, submitted, rfl, valid, bounded, Table.insert_fresh inserted, none⟩
  | restartedGraph events found decided named made bounded inserted =>
    have empty := made
    simp only [GraphExecution.restartAs, GraphExecution.start, bind_ok, exists_unit, pure_ok] at empty
    obtain ⟨_, _, _, ⟨_, rfl⟩, rfl⟩ := empty
    exact .inl (same (.of_insert inserted rfl rfl))
  | worked stored works =>
    obtain ⟨found, _, _, _, _, rfl⟩ := stored
    exact .inl (same (.of_update found works.outputs rfl rfl))
  | begun events begun serving attended current left =>
    have stages := Beginning.stages left
    exact .inl (same (.of_update begun.found (occupyNode_outputs begun.occupied) stages.outputs stages.graphs))
  | finished events trusted finishing => exact .inl (finishing.agrees events agrees)
  | decided issued events deciding informed =>
    have keeps := onDecision_keepsOutputs informed sound
    exact .inl (same ⟨keeps.ledger, keeps.held⟩)
  | cancelled events some =>
    have keeps := some.keepsOutputs sound
    exact .inl (same ⟨keeps.ledger, keeps.held⟩)
  | revoked events spent cancels =>
    have keeps := cancels.keepsOutputs sound
    exact .inl (same ⟨keeps.ledger, keeps.held⟩)
  | claimed events claiming =>
    obtain ⟨_, _, _, _, _, activated⟩ := GraphExecution.activateStagedNode_ok claiming.activated
    have outputs : claiming.execution.outputs = claiming.row.execution.outputs := by rw [activated]; rfl
    exact .inl (same (.of_update claiming.found outputs rfl rfl))
  | abandoned events abandoning =>
    exact .inl (same (.of_update abandoning.found (finishTerminal_outputs abandoning.ended) rfl rfl))
  | @recovered now _ revision events middle proved catalogValid recoverable revised expired =>
    have follow := recovered_graphsFollow now ⟨bump db.daemon.revision, .recovering⟩ revision middle recoverable
    have first : KeepsOutputs db (db.recovered now ⟨bump db.daemon.revision, .recovering⟩ revision middle) := by
      refine ⟨rfl, fun id => ?_⟩
      simp only [heldOutputs, Database.recovered, Table.find?_updateAll, Option.map_map]
      cases found : db.graphs.find? id with
      | none => rfl
      | some row => simp [GraphRow.reconciled_execution, GraphExecution.reconcileAfterRestart]
    exact .inl (same (first.trans (expired.keepsOutputs (follow.sound sound))))
  | _ => exact .inl (same (.of_same rfl rfl))

end Changes

section Runs

variable [Sha256] [SerdeJson] {process : DaemonProcess}

/-- The execution a client submits would be stored, with outputs that are in no ledger. -/
def createsOutputs (process : DaemonProcess) : Action → Bool
  | .command (.createGraphExecution _ submitted) =>
    decide (process.service = .serving) && isOk (sanitizeExecution submitted).validate &&
      decide (submitted.revision < sqlLimit) && (process.db.graphs.find? submitted.id).isNone &&
      !submitted.outputs.isEmpty
  | _ => false

omit [SerdeJson] in
theorem createsOutputs_iff {now : Nat} {submitted : GraphExecution} :
    createsOutputs process (.command (.createGraphExecution now submitted)) = true ↔
      process.service = .serving ∧ (sanitizeExecution submitted).validate = .ok () ∧ submitted.revision < sqlLimit ∧
      process.db.graphs.find? submitted.id = none ∧ submitted.outputs ≠ [] := by
  simp only [createsOutputs, Bool.and_eq_true, decide_eq_true_eq, isOk_iff, exists_unit, Option.isNone_iff_eq_none,
    Bool.not_eq_true', List.isEmpty_eq_false_iff, and_assoc]

/-- The stored executions are sound, and both copies of their outputs agree. -/
structure LedgerSound (process : DaemonProcess) : Prop where
  graphs : SoundGraphs process.db
  agrees : LedgerAgrees process.db

omit [SerdeJson] in
theorem LedgerSound.fresh : LedgerSound .fresh :=
  ⟨SoundGraphs.fresh, fun _ => rfl⟩

theorem LedgerSound.next (sound : LedgerSound process) {action : Action}
    (permitted : createsOutputs process action = false) : LedgerSound (process.next action) := by
  refine ⟨SoundGraphs.next process action sound.graphs, ?_⟩
  rcases process.next_change action with same | change
  · exact same ▸ sound.agrees
  · rcases change.agrees sound.graphs sound.agrees with agrees | ⟨now, submitted, rfl, created⟩
    · exact agrees
    · rcases process.next_command (.createGraphExecution now submitted) with serving | same
      · rw [createsOutputs_iff.mpr ⟨serving, created⟩] at permitted
        cases permitted
      · exact same ▸ sound.agrees

omit [SerdeJson] in
theorem createGraphExecution_stores {db : Database} (now : Nat) {submitted : GraphExecution}
    (valid : (sanitizeExecution submitted).validate = .ok ()) (bounded : submitted.revision < sqlLimit)
    (fresh : db.graphs.find? submitted.id = none) :
    ∃ graphs events receipt, createGraphExecution db now submitted = .ok ({ db with graphs, events }, receipt) ∧
      db.graphs.insert ⟨submitted.id, submitted.revision, sanitizeExecution submitted, timestamp now⟩ = some graphs := by
  let row : GraphRow := ⟨submitted.id, submitted.revision, sanitizeExecution submitted, timestamp now⟩
  have absent : row.executionId ∉ db.graphs.rows.map GraphRow.executionId := Table.find?_none.mp fresh
  have inserted : db.graphs.insert row = some _ := dif_neg absent
  refine ⟨_, db.events ++ ["graph.execution_created"],
    ⟨submitted.id, submitted.revision, (db.events ++ ["graph.execution_created"]).length⟩, ?_, inserted⟩
  simp only [createGraphExecution, bind_ok, exists_unit, lift_ok, insertGraph_ok, pure_ok]
  exact ⟨valid, _, ⟨bounded, _, inserted, rfl⟩, rfl⟩

/-- An execution that is stored with outputs cannot be loaded. -/
theorem LedgerSound.unloadable (sound : LedgerSound process) {action : Action}
    (created : createsOutputs process action = true) : ¬Loadable (process.next action).db := by
  intro loadable
  cases action with
  | command command =>
    cases command with
    | createGraphExecution now submitted =>
      obtain ⟨serving, valid, bounded, fresh, outputs⟩ := createsOutputs_iff.mp created
      obtain ⟨graphs, events, receipt, stored, inserted⟩ := createGraphExecution_stores now valid bounded fresh
      have committed : (process.next (.command (.createGraphExecution now submitted))).db =
          { process.db with graphs, events } := by
        simp only [DaemonProcess.next, execute, stored, DaemonProcess.commit, serving]
        rfl
      rw [committed] at loadable
      have loaded := loadable.1 submitted.id _ (Table.find?_insert_self inserted)
      simp only [graphExecution, validateStored, validateGraphOutputLedger, bind_ok, exists_unit, required_ok, lift_ok,
        reject_ok, decide_eq_false_iff_not, not_not, forEach_ok, pure_ok] at loaded
      obtain ⟨row, found, ⟨_, counted, _⟩, same⟩ := loaded
      -- the ledger has no row for an execution that was not stored before
      have nothing : ledgerOutputs process.db submitted.id = [] := by
        rw [sound.agrees, heldOutputs, fresh]
        rfl
      have named : row.execution = sanitizeExecution submitted := same
      rw [named] at counted
      have counted : (process.db.outputs.rows.countP fun row => row.executionId = submitted.id) =
          submitted.outputs.length := counted
      rw [List.countP_eq_length_filter, List.map_eq_nil_iff.mp nothing] at counted
      exact outputs (List.length_eq_zero_iff.mp counted.symm)
    | _ => cases created
  | _ => cases created

/-- Every stored execution can be loaded in every state of a run, exactly when no step of the run stores one
that comes with outputs. -/
theorem stored_executions_loadable (actions : List Action) :
    (∀ taken, taken <+: actions → Loadable (DaemonProcess.fresh.run taken).db) ↔
      Machine.Allowed DaemonProcess.next (fun process action => createsOutputs process action = false)
        .fresh actions := by
  have implied : ∀ process, LedgerSound process → Loadable process.db :=
    fun process sound => sound.agrees.loadable sound.graphs
  have kept : ∀ process action, LedgerSound process → createsOutputs process action = false →
      LedgerSound (process.next action) := fun process action sound permitted => sound.next permitted
  have broken : ∀ process action, LedgerSound process → ¬createsOutputs process action = false →
      ¬Loadable (process.next action).db :=
    fun process action sound created => sound.unloadable (Bool.eq_true_of_not_eq_false created)
  exact Machine.holds_along_iff implied kept broken .fresh actions

/-- A submitted execution with an output of its own. -/
def withOutput : GraphExecution :=
  ⟨⟨60⟩, branchesUnderJoin,
    [⟨⟨51⟩, .succeeded, some "client", 1, some ⟨7⟩, none⟩, ⟨⟨52⟩, .pending, none, 0, none, none⟩,
      ⟨⟨53⟩, .pending, none, 0, none, none⟩],
    [⟨⟨51⟩, ⟨7⟩, "sha256:e171c2ff25b55e5a2d63d081ec3a65e272d11afec9169a03822c970aac37e79e", "Findings"⟩], none, 0⟩

omit [Sha256] [SerdeJson] in
/-- The daemon stores it, and can load neither it nor the list of the executions afterwards. -/
theorem stored_executions_loadable_fails :
    let digests := Sha256.table [("Findings", "e171c2ff25b55e5a2d63d081ec3a65e272d11afec9169a03822c970aac37e79e")]
    let process := @DaemonProcess.next digests SerdeJson.compact .fresh (.command (.createGraphExecution 5 withOutput))
    isOk (@createGraphExecution digests DaemonProcess.fresh.db 5 withOutput) = true ∧
      @graphExecution digests process.db ⟨60⟩ = .error (.error (.invalidGraph .invalidOutput)) ∧
      @graphExecutions digests process.db = .error (.error (.invalidGraph .invalidOutput)) := by
  decide +kernel

end Runs

end Bastet.Daemon
