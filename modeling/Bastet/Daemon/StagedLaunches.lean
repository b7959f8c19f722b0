import Bastet.Daemon.Binding

/-! Launches that wait for an approval: their request, the proof that everything recorded
about them agrees, their decision and their cancellation. -/

set_option autoImplicit false

namespace Bastet.Daemon

open Fallible Bastet.Core Lookup

def approvalTtlMs : Nat := 5 * 60 * 1000

/-- A run ends in a state, with its finish time. -/
def endRun (state : NormalizedRunState) (finishedAt : String) (run : Run) : Run :=
  { run with state, finishedAt := some finishedAt, metadata := run.metadata.touch finishedAt }

/-- `load_catalog`: the identity catalog, checked. -/
def loadCatalog (db : Database) : StoreResult IdentityCatalog := do
  lift .invalidCatalog db.identity.content.validate
  return db.identity.content

/-- The loaded executions with one of them replaced by its new value. -/
def replaceExecution (executions : List GraphExecution) (id : GraphRunId) (execution : GraphExecution) :
    StoreResult (List GraphExecution) := do
  let _ ← required (executions.find? fun candidate => candidate.id = id) .graphNotFound
  return modifyFirst (·.id) id (fun _ => execution) executions

section Requests

variable [Sha256] [SerdeJson]

/-- What a staged launch asks for: the use of one credential by one run. -/
def credentialCeiling : ScopedPolicy :=
  ⟨.singleRun, ⟨.deny, .deny, .deny, .deny, .use, false⟩⟩

def approvalAction (plan : ProviderLaunchPlan) : StoreResult ApprovalAction := do
  let account ← required plan.identity.account .credentialGrantRejected
  let credential ← required account.credential .credentialGrantRejected
  return {
    agentInstanceId := plan.identity.agentInstanceId
    roleId := some plan.roleId
    actionKey := "credential.use"
    reasonKey := "provider.authentication"
    consequenceKey := "credential.single_run"
    risk := .high
    scope := {
      projectId := plan.identity.projectId
      runId := some plan.runId
      filesystemRoots := [plan.workspaceRoot]
      dataScopes := ["provider_launch_plan:" ++ plan.hash]
      networkDestinations := []
      credentialReferenceIds := [credential.referenceId]
      destination := none
      credentialBinding := some {
        agentProviderId := plan.identity.agentProviderId
        accountId := account.accountId
        adapterKind := plan.identity.adapterKind
        providerIdentity := account.providerIdentity
        credentialReferenceId := credential.referenceId
        backend := credential.backend
        service := credential.service
        accountLabel := credential.accountLabel
        capabilityKey := "provider.authenticate" } }
    requestedPolicy := credentialCeiling }

omit [Sha256] [SerdeJson] in
def currentRolePolicy (catalog : IdentityCatalog) (plan : ProviderLaunchPlan) : StoreResult ScopedPolicy := do
  plan.validateCurrentPolicy catalog
  plan.validateOnlineCliRequirements
  let role ← required
    ((catalog.roles.find? fun role => role.metadata.id = plan.roleId).filter fun role =>
      role.metadata.lifecycle = .active) .credentialGrantRejected
  return role.policy

def validateRequestForPlan (plan : ProviderLaunchPlan) (request : ApprovalRequest) : StoreResult Unit := do
  let action ← approvalAction plan
  reject (decide (request.createdAtMs + approvalTtlMs ≠ request.expiresAtMs)) .credentialGrantRejected
  lift .invalidApproval request.validateUnchanged
  reject (decide (request.action ≠ action)) .credentialGrantRejected

end Requests

section Context

variable [Sha256] [SerdeJson]

omit [Sha256] [SerdeJson] in
/-- The run has not been dispatched, and its launch waits. -/
def stagedLedger (db : Database) (run : Run) : StoreResult StagedRow := do
  reject (decide (run.state ≠ .awaitingApproval) || run.startedAt.isSome || run.finishedAt.isSome)
    (.invalidRunState "staged run has invalid catalog timing")
  let row ← required (db.staged.find? run.metadata.id) (.invalidRunState "staged launch ledger is unavailable")
  reject (!row.state.isWaiting || row.finishedAtMs.isSome || row.cancelReason.isSome)
    (.invalidRunState "staged launch ledger is terminal or corrupt")
  return row

def stagedPlan (db : Database) (run : Run) : StoreResult ProviderLaunchPlan := do
  let plan ← ProviderLaunchPlan.load db run.metadata.id
  reject (decide (plan.runId ≠ run.metadata.id) || decide (plan.sessionId ≠ run.sessionId) ||
    decide (plan.identity.modelId ≠ run.modelId)) (.invalidRunState "staged run differs from its launch plan")
  return plan

omit [Sha256] [SerdeJson] in
/-- The run is the one of the stored catalog, and its session is the plan's. -/
def stagedCatalog (db : Database) (run : Run) (plan : ProviderLaunchPlan) : StoreResult IdentityCatalog := do
  let catalog ← loadCatalog db
  let persisted ← required (catalog.run? run.metadata.id) .runNotFound
  reject (decide (persisted ≠ run)) (.invalidRunState "staged run differs from the current catalog")
  let session ← required (catalog.session? run.sessionId) .runNotFound
  reject (decide (session.agentInstanceId ≠ plan.identity.agentInstanceId) ||
    decide (session.projectId ≠ plan.identity.projectId))
    (.invalidRunState "staged session differs from its launch identity")
  return catalog

omit [SerdeJson] in
/-- The plan's node waits for this run in a valid execution. -/
def stagedGraph (db : Database) (plan : ProviderLaunchPlan) : StoreResult GraphExecution := do
  let row ← required (db.graphs.find? plan.executionId) .graphNotFound
  let execution := row.execution
  lift .invalidGraph execution.validate
  reject (decide (row.revision ≠ execution.revision)) (.invalidGraph .invalidExecution)
  let definition ← required (execution.definition? plan.nodeId) .runNotFound
  let node ← required (execution.node? plan.nodeId) .runNotFound
  reject (decide (definition.roleId ≠ plan.roleId) || decide (node.state ≠ .awaitingApproval) ||
    decide (node.owner ≠ some plan.owner) || decide (node.runId ≠ some plan.runId))
    (.invalidRunState "staged graph node differs from its launch plan")
  return execution

omit [Sha256] [SerdeJson] in
/-- The row is the unfinished attempt a plan was made for. -/
def isOpenAttempt (plan : ProviderLaunchPlan) (row : NodeRunRow) : Bool :=
  decide (row.runId = plan.runId) && decide (row.attempt = plan.attempt) && row.finishedAt.isNone &&
    row.terminalState.isNone && row.failure.isNone

omit [Sha256] [SerdeJson] in
def stagedAttempt (db : Database) (plan : ProviderLaunchPlan) : StoreResult Unit :=
  reject (!(db.latestAttempt plan.executionId plan.nodeId).any (isOpenAttempt plan))
    (.invalidRunState "staged run is not the current unfinished attempt")

def stagedRequest (db : Database) (requestId : ApprovalRequestId) (plan : ProviderLaunchPlan) :
    StoreResult ApprovalRow := do
  let row ← required (db.approvals.find? requestId) .approvalNotFound
  reject (decide (row.request.id ≠ requestId)) .credentialGrantRejected
  validateRequestForPlan plan row.request
  return row

/-- The stored catalogs still select what the plan was made of. -/
def liveAuthority (db : Database) (catalog : IdentityCatalog) (plan : ProviderLaunchPlan)
    (execution : GraphExecution) (request : ApprovalRequest) : StoreResult Unit := do
  liftFault .invalidApproval (request.validateAgainst catalog)
  let _ ← currentRolePolicy catalog plan
  let binding ← resolveProviderRunBinding catalog db.m3.content execution plan.nodeId
  reject (decide (binding.launchIdentity ≠ plan.identity) || decide (binding.workspaceRoot ≠ plan.workspaceRoot) ||
    decide (binding.prompt ≠ plan.prompt))
    (.invalidRunState "current provider selection differs from the staged launch plan")

omit [Sha256] [SerdeJson] in
/-- An undecided launch has no grant; a ready one was approved and its grant is unspent. -/
def validateDecisionAndGrantState (db : Database) (request : ApprovalRequest) (state : StagedLaunchState)
    (decision : Option ApprovalDecision) : StoreResult Unit :=
  match state, decision, db.grants.find? request.id with
  | .awaitingApproval, none, none => .ok ()
  | .ready, some decision, some grant => do
    reject (!grant.unspent) .credentialGrantRejected
    lift .invalidApproval (request.verifyDecision decision)
    reject (decide (decision.kind ≠ .approve) || decide (grant.issuedAtMs ≠ decision.decidedAtMs))
      .credentialGrantRejected
  | _, _, _ => .error (.error .credentialGrantRejected)

def validateStagedContext (db : Database) (run : Run) (decisionState requireLiveAuthority : Bool) :
    StoreResult Unit := do
  let staged ← stagedLedger db run
  let plan ← stagedPlan db run
  let catalog ← stagedCatalog db run plan
  let execution ← stagedGraph db plan
  stagedAttempt db plan
  let approval ← stagedRequest db staged.requestId plan
  if requireLiveAuthority then liveAuthority db catalog plan execution approval.request else .ok ()
  if decisionState then validateDecisionAndGrantState db approval.request staged.state approval.decision else .ok ()

/-- What recovery demands of a run that was never dispatched. -/
def validateStagedRun (db : Database) (run : Run) : StoreResult Unit :=
  validateStagedContext db run true false

end Context

section Cancellation

variable [Sha256] [SerdeJson]

/-- The node of a cancelled launch, in a valid execution. -/
def cancelledGraph (db : Database) (plan : ProviderLaunchPlan) : StoreResult GraphExecution := do
  let row ← required (db.graphs.find? plan.executionId) .graphNotFound
  reject (decide (row.revision ≠ row.execution.revision)) (.invalidGraph .invalidExecution)
  let execution ← lift .invalidGraph (row.execution.cancelStagedNode plan.nodeId plan.owner plan.runId)
  lift .invalidGraph execution.validate
  return execution

omit [Sha256] [SerdeJson] in
/-- The catalog with the run ended as cancelled. -/
def cancelledCatalog (catalog : IdentityCatalog) (run : Run) (finishedAt : String) : StoreResult IdentityCatalog := do
  let _ ← nextRevision run.metadata.revision
  let catalog := catalog.updateRun run.metadata.id (endRun .cancelled finishedAt)
  lift .invalidCatalog catalog.validate
  return catalog

omit [Sha256] [SerdeJson] in
/-- The writes of a cancellation. -/
def writeCancellation (db : Database) (row : StagedRow) (catalog : IdentityCatalog) (execution : GraphExecution)
    (finishedAtMs : Nat) (reason : String) : StoreResult Database := do
  let revision ← nextRevision db.identity.revision
  let db ← db.writeIdentity revision catalog
  let db ← db.updateGraph (timestamp finishedAtMs) execution.id execution
  reject (!(db.nodeRuns.find? row.runId).any fun attempt =>
    attempt.finishedAt.isNone && attempt.terminalState.isNone)
    (.invalidRunState "staged run attempt is already terminal")
  let db := db.finishNodeRun row.runId (timestamp finishedAtMs) .cancelled none
  storable finishedAtMs
  let db := db.cancelStaged row.runId finishedAtMs reason
  let (revoked, db) ← db.revokeGrant row.requestId (fun issued => max issued finishedAtMs)
    "daemon:staged_launch_cancelled"
  let db := if revoked = 1 then db.insertEvent "credential.grant_revoked" else db
  return db.insertEvent "provider_launch.cancelled"

/-- The cancellation of a waiting launch. A clock that went back does not keep it from
finishing after it was staged. -/
def cancelWaiting (db : Database) (now : Nat) (row : StagedRow) (reason : String) : StoreResult Database := do
  let catalog ← loadCatalog db
  let run ← required (catalog.run? row.runId) .runNotFound
  validateStagedContext db run false false
  let plan ← ProviderLaunchPlan.load db row.runId
  let execution ← cancelledGraph db plan
  nowMs now
  let finishedAtMs := max now row.stagedAtMs
  let catalog ← cancelledCatalog catalog run (timestamp finishedAtMs)
  let loaded ← loadGraphExecutions db
  let executions ← replaceExecution loaded execution.id execution
  validateM3State .invalidM3 db.m3.content executions catalog
  writeCancellation db row catalog execution finishedAtMs reason

def cancelForRequest (db : Database) (now : Nat) (requestId : ApprovalRequestId) (reason : String) :
    StoreResult Database := do
  reject (isBlank reason || decide (200 < byteLength reason))
    (.invalidRunState "invalid staged launch cancellation reason")
  match db.stagedFor? requestId with
  | none => return db
  | some row =>
    if row.state = .cancelled then return db
    else do
      reject (!row.state.isWaiting) (.invalidRunState "invalid staged launch ledger state")
      cancelWaiting db now row reason

omit [Sha256] [SerdeJson] in
/-- The launch waits for a decision, or for its dispatch, past the expiry of its request. -/
def isOverdue (db : Database) (now : Nat) (row : StagedRow) : Bool :=
  (db.approvals.find? row.requestId).any fun approval =>
    decide (approval.expiresAtMs ≤ now) &&
      ((decide (row.state = .awaitingApproval) && approval.decision.isNone) ||
        (decide (row.state = .ready) && approval.decision.isSome))

omit [Sha256] [SerdeJson] in
/-- `ORDER BY staged_at_ms, request_id`. -/
def StagedRow.precedes (first second : StagedRow) : Prop :=
  first.stagedAtMs < second.stagedAtMs ∨
    first.stagedAtMs = second.stagedAtMs ∧ Json.uuidText first.requestId.value ≤ Json.uuidText second.requestId.value

instance : DecidableRel StagedRow.precedes := fun first second =>
  inferInstanceAs (Decidable (first.stagedAtMs < second.stagedAtMs ∨ first.stagedAtMs = second.stagedAtMs ∧
    Json.uuidText first.requestId.value ≤ Json.uuidText second.requestId.value))

omit [Sha256] [SerdeJson] in
def overdueRequests (db : Database) (now : Nat) : List ApprovalRequestId :=
  ((db.staged.rows.filter (isOverdue db now)).insertionSort StagedRow.precedes).map (·.requestId)

def expire (db : Database) (now : Nat) : StoreResult Database := do
  nowMs now
  foldEach (fun db requestId => cancelForRequest db now requestId "approval_expired") (overdueRequests db now) db

end Cancellation

section Decisions

variable [Sha256] [SerdeJson]

/-- The approval request of a launch that was just recorded. -/
def stage (db : Database) (now : Nat) (requestId : ApprovalRequestId) (plan : ProviderLaunchPlan) :
    StoreResult Database := do
  let catalog ← loadCatalog db
  let run ← required (catalog.run? plan.runId) .runNotFound
  let action ← approvalAction plan
  let rolePolicy ← currentRolePolicy catalog plan
  nowMs now
  reject (decide (sqlLimit ≤ now + approvalTtlMs)) .credentialGrantRejected
  let request ← lift .invalidApproval (ApprovalRequest.create requestId now (now + approvalTtlMs) action rolePolicy)
  liftFault .invalidApproval (request.validateAgainst catalog)
  let db ← db.insertApproval now request .database
  let db ← db.insertStaged ⟨plan.runId, request.id, .awaitingApproval, now, none, none⟩
  validateStagedContext db run false true
  return (db.insertEvent "approval.requested").insertEvent "provider_launch.staged"

/-- A decision makes a waiting launch ready, or cancels it. -/
def onDecision (db : Database) (now : Nat) (request : ApprovalRequest) (kind : ApprovalDecisionKind) :
    StoreResult Database :=
  match db.stagedFor? request.id with
  | none => return db
  | some row => do
    reject (decide (row.state ≠ .awaitingApproval)) .approvalConflict
    let catalog ← loadCatalog db
    let run ← required (catalog.run? row.runId) .runNotFound
    match kind with
    | .approve => do
      validateStagedContext db run false true
      let plan ← ProviderLaunchPlan.load db row.runId
      validateRequestForPlan plan request
      return (db.moveStaged row.runId .ready).insertEvent "provider_launch.ready"
    | .deny => do
      let plan ← ProviderLaunchPlan.load db row.runId
      validateRequestForPlan plan request
      cancelForRequest db now request.id "approval_denied"

end Decisions

end Bastet.Daemon
