import Bastet.Daemon.Documents

/-! The commands on stored graph executions. -/

set_option autoImplicit false

namespace Bastet.Daemon

open Fallible Bastet.Core

/-- The message keys a stored failure may keep. -/
def durableMessageKeys : List String :=
  ["adapter.agy.cancelled", "adapter.agy.crashed", "adapter.agy.failed", "adapter.agy.invalid_state",
    "adapter.agy.timed_out", "codex.failure.bad_request", "codex.failure.context_window_exceeded",
    "codex.failure.http_connection_failed", "codex.failure.internal_server_error",
    "codex.failure.response_stream_connection_failed", "codex.failure.response_stream_disconnected",
    "codex.failure.response_too_many_failed_attempts", "codex.failure.sandbox_error", "codex.failure.timeout",
    "codex.failure.transport_lost", "codex.failure.unauthorized", "codex.failure.unknown",
    "codex.failure.usage_limit_exceeded"]

/-- The key that stands for every other message of a kind. -/
def failureKey : AdapterFailureKind → String
  | .timeout => "adapter.failure.timeout"
  | .cancelled => "adapter.failure.cancelled"
  | .authentication => "adapter.failure.authentication"
  | .quota => "adapter.failure.quota"
  | .permissionDenied => "adapter.failure.permission_denied"
  | .crashed => "adapter.failure.crashed"
  | .protocolDrift => "adapter.failure.protocol_drift"
  | .malformedOutput => "adapter.failure.malformed_output"
  | .binaryMissing => "adapter.failure.binary_missing"
  | .unsupported => "adapter.failure.unsupported"
  | .unknown => "adapter.failure.unknown"

/-- Provider codes and details are not stored. -/
def sanitizeAdapterFailure (failure : AdapterFailure) : AdapterFailure :=
  ⟨failure.kind, if failure.messageKey ∈ durableMessageKeys then failure.messageKey else failureKey failure.kind,
    failure.retryable, none, none⟩

structure GraphExecutionReceipt where
  executionId : GraphRunId
  revision : Nat
  eventSequence : Nat
  deriving DecidableEq, Repr

def sanitizeExecution (execution : GraphExecution) : GraphExecution :=
  { execution with
    nodes := execution.nodes.map fun node => { node with failure := node.failure.map sanitizeAdapterFailure } }

variable [Sha256]

/-- An execution a client submits is checked by itself only. -/
def createGraphExecution (db : Database) (now : Nat) (submitted : GraphExecution) :
    StoreResult (Database × GraphExecutionReceipt) := do
  let execution := sanitizeExecution submitted
  lift .invalidGraph execution.validate
  let db ← db.insertGraph now execution .graphConflict
  let db := db.insertEvent "graph.execution_created"
  return (db, ⟨execution.id, execution.revision, db.events.length⟩)

/-- `restartedId` is the id a new execution gets; one that was restarted before is returned. -/
def restartMissingOutputGraph (db : Database) (now : Nat) (restartedId originalId : GraphRunId)
    (expectedGraphRevision : Nat) : StoreResult (Database × GraphExecutionReceipt) := do
  let original ← loadGraph db originalId expectedGraphRevision
  let executions ← loadGraphExecutions db
  match executions.find? (fun execution => execution.restartedFromExecutionId = some originalId) with
  | some existing => return (db, ⟨existing.id, existing.revision, db.events.length⟩)
  | none => do
    let baseline ← required
      (db.m3.content.meetings.decisionBaselines.find? fun baseline =>
        baseline.metadata.id = original.graph.decisionBaselineId)
      (.invalidMvp (.text "graph DecisionBaseline not found"))
    reject (isBlank baseline.acceptedBy || isBlank baseline.acceptedAt)
      (.invalidMvp (.text "graph DecisionBaseline is not accepted"))
    let restarted ← lift .invalidGraph (original.restartAs restartedId)
    let db ← db.insertGraph now restarted .database
    let db := db.insertEvent "graph.execution_restarted_for_missing_output"
    return (db, ⟨restarted.id, restarted.revision, db.events.length⟩)

/-- `update_graph`: an operation on one execution, which is checked before and after. -/
def updateStoredGraph {α : Type} (db : Database) (now : Nat) (id : GraphRunId) (expectedRevision : Nat) (kind : String)
    (update : GraphExecution → Except GraphError (α × GraphExecution)) : StoreResult (Database × α) := do
  let before ← loadGraph db id expectedRevision
  let (result, execution) ← lift .invalidGraph (update before)
  lift .invalidGraph execution.validate
  let db ← db.updateGraph (timestamp now) id execution
  return (db.insertEvent kind, result)

structure RetryFailedGraphNodeCommand where
  nodeId : GraphNodeId
  expectedGraphRevision : Nat
  deriving DecidableEq, Repr

def retryFailedGraphNode (db : Database) (now : Nat) (id : GraphRunId) (command : RetryFailedGraphNodeCommand) :
    StoreResult (Database × GraphExecutionReceipt) := do
  let (db, revision) ← updateStoredGraph db now id command.expectedGraphRevision "graph.failed_node_retried"
    fun execution => do
      let retried ← execution.retryFailed command.nodeId
      return (retried.revision, retried)
  return (db, ⟨id, revision, db.events.length⟩)

def claimGraphNodes (db : Database) (now : Nat) (id : GraphRunId) (expectedRevision : Nat) (owner : String)
    (limit : Nat) : StoreResult (Database × List GraphNodeId) :=
  updateStoredGraph db now id expectedRevision "graph.nodes_claimed" fun execution =>
    match execution.claimReady owner limit with
    | (.ok claimed, after) => .ok (claimed, after)
    | (.error error, _) => .error error

def completeGraphNode (db : Database) (now : Nat) (id : GraphRunId) (expectedRevision : Nat) (nodeId : GraphNodeId)
    (owner : String) (succeeded : Bool) : StoreResult (Database × Unit) :=
  updateStoredGraph db now id expectedRevision "graph.node_completed" fun execution => do
    let completed ← execution.complete nodeId owner succeeded
    return ((), completed)

end Bastet.Daemon
