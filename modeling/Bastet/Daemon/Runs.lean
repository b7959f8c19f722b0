import Bastet.Daemon.StagedLaunches

/-! The begin and the end of a provider run of a graph node. Both change the identity
catalog, the stored execution and the ledger of attempts together. -/

set_option autoImplicit false

namespace Bastet.Daemon

open Fallible Bastet.Core

structure BeginGraphNodeRunCommand where
  expectedCatalogRevision : Nat
  expectedGraphRevision : Nat
  nodeId : GraphNodeId
  owner : String
  deriving DecidableEq, Repr

structure BeginGraphNodeRunReceipt where
  executionId : GraphRunId
  nodeId : GraphNodeId
  sessionId : SessionId
  runId : RunId
  launchIdentity : Option ProviderLaunchIdentity
  adapterKind : String
  model : String
  workspaceRoot : String
  prompt : String
  catalogRevision : Nat
  graphRevision : Nat
  eventSequence : Nat
  deriving DecidableEq, Repr

/-- The identifiers a new run is made of. -/
structure RunIds where
  sessionId : SessionId
  runId : RunId
  requestId : ApprovalRequestId
  deriving DecidableEq, Repr

section Begin

variable [Sha256] [SerdeJson]

omit [Sha256] [SerdeJson] in
/-- The catalog with the session and the run of a new attempt. -/
def withAttempt (identity : IdentityCatalog) (now : Nat) (ids : RunIds) (binding : ProviderRunBinding)
    (staged : Bool) : IdentityCatalog :=
  { identity with
    sessions := identity.sessions ++
      [⟨entityMetadata now ids.sessionId "graph_node_run", binding.agentInstanceId, binding.projectId, none⟩]
    runs := identity.runs ++
      [⟨entityMetadata now ids.runId "graph_node_run", ids.sessionId, binding.modelId,
        if staged then .awaitingApproval else .starting, if staged then none else some (timestamp now), none⟩] }

omit [Sha256] [SerdeJson] in
/-- The node waits for approval, or is claimed for the run. -/
def occupyNode (execution : GraphExecution) (nodeId : GraphNodeId) (owner : String) (runId : RunId) (staged : Bool) :
    Except GraphError GraphExecution :=
  if staged then execution.stageNode nodeId owner runId
  else do
    let claimed ← execution.claimNode nodeId owner
    claimed.bindRun nodeId owner runId

/-- `expectedBinding` is there when the daemon itself begins the run of a provider. -/
def beginGraphNodeRunInner (db : Database) (now : Nat) (ids : RunIds) (id : GraphRunId)
    (command : BeginGraphNodeRunCommand) (expectedBinding : Option ProviderRunBinding) :
    StoreResult (Database × BeginGraphNodeRunReceipt) := do
  reject (expectedBinding.isSome && decide (db.daemon.lifecycle ≠ .ready)) (.invalidLifecycle .ready db.daemon.lifecycle)
  expectRevision command.expectedCatalogRevision db.identity.revision
  let before ← loadGraph db id command.expectedGraphRevision
  let binding ← resolveProviderRunBinding db.identity.content db.m3.content before command.nodeId
  reject (expectedBinding.any fun expected => expected ≠ binding) (.invalidRunState "provider launch inputs changed")
  let staged := expectedBinding.isSome && binding.launchIdentity.account.isSome
  let execution ← lift .invalidGraph (occupyNode before command.nodeId command.owner ids.runId staged)
  let attempt := db.maxAttempt id command.nodeId + 1
  let identity := withAttempt db.identity.content now ids binding staged
  lift .invalidCatalog identity.validate
  let nextCatalog ← nextRevision db.identity.revision
  let db ← db.writeIdentity nextCatalog identity
  let db ← db.updateGraph (timestamp now) id execution
  let db ← db.insertNodeRun
    ⟨id, command.nodeId, ids.runId, attempt, timestamp now, none, none, none, .recorded binding.launchIdentity⟩
  let definition ← required (execution.definition? command.nodeId) .runNotFound
  let policy ← LaunchPolicySnapshot.capture identity binding.projectId definition.roleId
  let plan : ProviderLaunchPlan := ⟨2, id, command.nodeId, ids.sessionId, ids.runId, attempt, definition.roleId,
    command.owner, binding.launchIdentity, binding.workspaceRoot, binding.prompt, some policy⟩
  let db ← plan.insert db
  let db ← if staged then stage db now ids.requestId plan else .ok db
  let db := db.insertEvent (if staged then "graph.node_run_staged" else "graph.node_run_started")
  return (db, ⟨id, command.nodeId, ids.sessionId, ids.runId, some binding.launchIdentity, binding.adapterKind,
    binding.providerModel, binding.workspaceRoot, binding.prompt, nextCatalog, execution.revision, db.events.length⟩)

end Begin

section Finish

structure FinishGraphNodeRunCommand where
  expectedCatalogRevision : Nat
  expectedGraphRevision : Nat
  expectedM3Revision : Nat
  nodeId : GraphNodeId
  runId : RunId
  owner : String
  terminalState : NormalizedRunState
  failure : Option AdapterFailure
  providerSessionId : Option String
  outputMarkdown : Option String
  cost : CostEvidence
  deriving DecidableEq, Repr

structure FinishGraphNodeRunReceipt where
  executionId : GraphRunId
  nodeId : GraphNodeId
  runId : RunId
  costRecordId : CostRecordId
  outputContentHash : Option String
  catalogRevision : Nat
  graphRevision : Nat
  m3Revision : Nat
  eventSequence : Nat
  deriving DecidableEq, Repr

/-- The selection recorded for a run differs from its session, or has a blank part. -/
def selectionMalformed (selected : ProviderLaunchIdentity) (session : Session) (run : Run) : Bool :=
  decide (selected.agentInstanceId ≠ session.agentInstanceId) || decide (selected.projectId ≠ session.projectId) ||
    decide (selected.modelId ≠ run.modelId) || isBlank selected.adapterKind || isBlank selected.model ||
    selected.account.any fun account =>
      isBlank account.providerIdentity || account.credential.any fun reference =>
        isBlank reference.service || isBlank reference.accountLabel

/-- The recorded selection as far as it can be trusted, and whether it is malformed. -/
def trustedSelection (db : Database) (session : Session) (run : Run) :
    StoreResult (Option ProviderLaunchIdentity × Bool) :=
  match loadLaunchIdentity db run.metadata.id with
  | .ok (some selected) =>
    if selectionMalformed selected session run then .ok (none, true) else .ok (some selected, false)
  | .ok none => .ok (none, false)
  | .error (.error .serialization) => .ok (none, true)
  | .error fault => .error fault

/-- A malformed selection makes the attempt uncertain and drops what the provider reported. -/
def distrust (command : FinishGraphNodeRunCommand) : FinishGraphNodeRunCommand :=
  { command with
    terminalState := .uncertain
    outputMarkdown := none
    providerSessionId := none
    cost := ⟨.unknown, none, none, none, none, .finite 0⟩
    failure := some ⟨.unknown, "mvp.failure.unknown", false, none, none⟩ }

structure Attribution where
  provider : String
  account : String
  model : String
  source : String
  deriving DecidableEq, Repr

def attribution (selected : Option ProviderLaunchIdentity) (malformed : Bool) : Attribution :=
  match selected with
  | some selected => ⟨selected.adapterKind, (selected.account.map (·.providerIdentity)).getD "unknown", selected.model,
      "adapter normalized cost event; selected account is not provider-authenticated"⟩
  | none => ⟨"unknown", "unknown", "unknown",
      if malformed then "local recovery; malformed launch selection; attribution unavailable"
      else "adapter normalized cost event; legacy launch attribution unavailable"⟩

/-- The node state of a terminal run state. -/
def graphState (state : NormalizedRunState) : StoreResult GraphNodeState :=
  match state with
  | .succeeded => .ok .succeeded
  | .failed => .ok .failed
  | .cancelled => .ok .cancelled
  | .blocked => .ok .blocked
  | .uncertain => .ok .uncertain
  | other => .error (.error (.invalidRunState (runStateName other)))

/-- `SELECT run_id ... ORDER BY attempt DESC LIMIT 1` is the run. -/
def isLatestAttempt (db : Database) (id : GraphRunId) (nodeId : GraphNodeId) (runId : RunId) : Bool :=
  decide ((db.latestAttempt id nodeId).map (·.runId) = some runId)

variable [Sha256]

/-- The output a run leaves; a successful run has one. -/
def finishedOutput (command : FinishGraphNodeRunCommand) (state : GraphNodeState) :
    StoreResult (Option GraphNodeOutput) :=
  match command.outputMarkdown with
  | some markdown => do
    let output ← lift .invalidGraph (GraphNodeOutput.create command.nodeId command.runId markdown)
    return some output
  | none => if state = .succeeded then .error (.error (.invalidGraph .invalidOutput)) else return none

/-- The node of the execution after the run, with the run's output. -/
def finishedGraph (execution : GraphExecution) (command : FinishGraphNodeRunCommand) (state : GraphNodeState)
    (failure : Option AdapterFailure) (output : Option GraphNodeOutput) : Except GraphError GraphExecution := do
  let finished ← execution.finishTerminal command.nodeId command.owner state failure
  match output with
  | some output => finished.recordOutput output
  | none => return finished

omit [Sha256] in
/-- The run and its session after the run. -/
def finishedCatalog (identity : IdentityCatalog) (now : Nat) (run : Run) (session : Session)
    (state : NormalizedRunState) (providerSessionId : Option String) : StoreResult IdentityCatalog := do
  let _ ← nextRevision run.metadata.revision
  let identity := identity.updateRun run.metadata.id (endRun state (timestamp now))
  match providerSessionId with
  | some name => do
    reject (isBlank name) (.invalidRunState "empty provider session id")
    let _ ← nextRevision session.metadata.revision
    return identity.updateSession session.metadata.id (Session.name name (timestamp now))
  | none => return identity

omit [Sha256] in
/-- The cost record of the run. -/
def costRecord (now : Nat) (id : CostRecordId) (command : FinishGraphNodeRunCommand) (projectId : ProjectId)
    (origin : Attribution) : CostLedgerRecord where
  metadata := entityMetadata now id "provider_cost_event"
  projectId
  nodeId := command.nodeId
  runId := command.runId
  provider := origin.provider
  account := origin.account
  model := origin.model
  currency := command.cost.currency
  amount := command.cost.amount
  inputTokens := command.cost.inputTokens
  outputTokens := command.cost.outputTokens
  evidenceClass := command.cost.evidenceClass
  source := origin.source
  formulaVersion := none
  confidence := command.cost.confidence
  reconciliationState := if command.terminalState = .uncertain then "uncertain" else "observed"

omit [Sha256] in
/-- The run of a finish command: the current attempt of its node, and at work. -/
def finishingRun (db : Database) (id : GraphRunId) (execution : GraphExecution) (command : FinishGraphNodeRunCommand) :
    StoreResult (Run × Session) := do
  reject (decide ((execution.node? command.nodeId).bind (·.runId) ≠ some command.runId))
    (.invalidRunState "run is not the active graph node attempt")
  reject (!isLatestAttempt db id command.nodeId command.runId)
    (.invalidRunState "run is not the current attempt for this graph execution and node")
  let run ← required (db.identity.content.run? command.runId) .runNotFound
  reject (!run.state.isActive) (.invalidRunState (runStateName run.state))
  let session ← required (db.identity.content.session? run.sessionId) .runNotFound
  return (run, session)

/-- What a finish command makes of the three documents, before they are checked together. -/
structure Finished where
  execution : GraphExecution
  identity : IdentityCatalog
  m3 : M3Catalog
  failure : Option AdapterFailure
  output : Option GraphNodeOutput

def finishDocuments (db : Database) (now : Nat) (costId : CostRecordId) (execution : GraphExecution)
    (command : FinishGraphNodeRunCommand) (run : Run) (session : Session) (origin : Attribution) :
    StoreResult Finished := do
  let state ← graphState command.terminalState
  let output ← finishedOutput command state
  let failure := command.failure.map sanitizeAdapterFailure
  reject (decide (state = .succeeded) && failure.isSome)
    (.invalidRunState "successful run cannot include failure evidence")
  let execution ← lift .invalidGraph (finishedGraph execution command state failure output)
  let identity ← finishedCatalog db.identity.content now run session command.terminalState command.providerSessionId
  return ⟨execution, identity, addCost db.m3.content (costRecord now costId command session.projectId origin),
    failure, output⟩

omit [Sha256] in
/-- The row of an output. -/
def insertOutputRow (db : Database) (now : Nat) (id : GraphRunId) (output : Option GraphNodeOutput) :
    StoreResult Database :=
  match output with
  | some output =>
    db.insertOutput ⟨id, output.nodeId, output.runId, output.contentHash, output.markdown, timestamp now⟩
  | none => return db

omit [Sha256] in
/-- The writes of a finish command. -/
def writeFinished (db : Database) (now : Nat) (id : GraphRunId) (command : FinishGraphNodeRunCommand)
    (finished : Finished) : StoreResult Database := do
  let nextCatalog ← nextRevision db.identity.revision
  let nextM3 ← nextRevision db.m3.revision
  let db ← db.writeIdentity nextCatalog finished.identity
  let db ← db.writeM3 nextM3 finished.m3
  let db ← db.updateGraph (timestamp now) id finished.execution
  reject (db.nodeRuns.find? command.runId).isNone .runNotFound
  let db := db.finishNodeRun command.runId (timestamp now) command.terminalState finished.failure
  let db ← insertOutputRow db now id finished.output
  return db.insertEvent "graph.node_run_finished"

def finishGraphNodeRun (db : Database) (now : Nat) (costId : CostRecordId) (id : GraphRunId)
    (submitted : FinishGraphNodeRunCommand) : StoreResult (Database × FinishGraphNodeRunReceipt) := do
  expectRevision submitted.expectedCatalogRevision db.identity.revision
  expectRevision submitted.expectedM3Revision db.m3.revision
  let before ← loadGraph db id submitted.expectedGraphRevision
  let (run, session) ← finishingRun db id before submitted
  let (selected, malformed) ← trustedSelection db session run
  let command := if malformed then distrust submitted else submitted
  let finished ← finishDocuments db now costId before command run session (attribution selected malformed)
  lift .invalidCatalog finished.identity.validate
  let loaded ← loadGraphExecutions db
  let executions ← replaceExecution loaded id finished.execution
  validateM3State .invalidM3 finished.m3 executions finished.identity
  let after ← writeFinished db now id command finished
  return (after, ⟨id, command.nodeId, command.runId, costId, finished.output.map (·.contentHash),
    after.identity.revision, finished.execution.revision, after.m3.revision, after.events.length⟩)

end Finish

end Bastet.Daemon
