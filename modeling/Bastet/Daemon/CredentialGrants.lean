import Bastet.Daemon.StagedLaunches

/-! Credential grants: single-use authorisations that an approved request leaves. -/

set_option autoImplicit false

namespace Bastet.Daemon

open Fallible Bastet.Core

def validateTime (request : ApprovalRequest) (now : Nat) : StoreResult Unit :=
  reject (decide (now < request.createdAtMs) || decide (request.expiresAtMs ≤ now) ||
    decide (sqlLimit ≤ request.expiresAtMs)) .credentialGrantRejected

section CurrentCatalog

variable [Sha256] [SerdeJson]

/-- The request's own launch waits for its run. -/
def awaitsLaunch (request : ApprovalRequest) (staged : Option StagedRow) : Bool :=
  staged.any fun row => row.requestId = request.id && row.state.isWaiting

/-- A staged run waits undispatched; another run has not got beyond its start. -/
def runIsOpen (request : ApprovalRequest) (run : Run) (staged : Option StagedRow) : Bool :=
  run.finishedAt.isNone &&
    if staged.isSome then
      awaitsLaunch request staged && decide (run.state = .awaitingApproval) && run.startedAt.isNone
    else decide (run.state = .starting)

/-- The active assignments of the request's agent in its project. -/
def activeAssignments (m3 : M3Catalog) (action : ApprovalAction) : List PetAssignment :=
  m3.office.petAssignments.filter fun assignment =>
    assignment.metadata.lifecycle = .active && assignment.projectId = action.scope.projectId &&
      assignment.agentInstanceId = action.agentInstanceId

/-- The selection recorded for an attempt is the one the catalogs give now, and the plan's. -/
def selectionCurrent (selected : ProviderLaunchIdentity) (binding : ProviderRunBinding) (plan : ProviderLaunchPlan)
    (execution : GraphExecution) (definition : GraphNode) (roleId : RoleId) (run : Run)
    (current : GraphNodeExecution) (action : ApprovalAction) : Bool :=
  decide (selected = binding.launchIdentity) && decide (plan.identity = selected) &&
    decide (plan.executionId = execution.id) && decide (plan.nodeId = definition.id) &&
    decide (plan.roleId = roleId) && decide (plan.sessionId = run.sessionId) &&
    decide (current.owner = some plan.owner) && decide (plan.workspaceRoot = binding.workspaceRoot) &&
    decide (plan.prompt = binding.prompt) && decide (selected.agentInstanceId = action.agentInstanceId) &&
    decide (selected.projectId = action.scope.projectId) && decide (selected.modelId = run.modelId)

/-- The checks of a run that is an attempt of a graph node. -/
def validateCurrentAttempt (db : Database) (request : ApprovalRequest) (run : Run) (awaiting : Bool) (roleId : RoleId)
    (attempt : NodeRunRow) : StoreResult Unit := do
  reject attempt.finishedAt.isSome .credentialGrantRejected
  let row ← required (db.graphs.find? attempt.executionId) .database
  let graph := row.execution
  lift .invalidGraph graph.validate
  let definition ← required (graph.definition? attempt.nodeId) .credentialGrantRejected
  let current ← required (graph.node? definition.id) .credentialGrantRejected
  reject (decide (definition.roleId ≠ roleId) || decide (current.runId ≠ some run.metadata.id) ||
    decide (current.state ≠ if awaiting then .awaitingApproval else .running)) .credentialGrantRejected
  let recorded ← loadLaunchIdentity db run.metadata.id
  let selected ← required recorded .credentialGrantRejected
  let binding ← resolveProviderRunBinding db.identity.content db.m3.content graph definition.id
  let plan ← ProviderLaunchPlan.load db run.metadata.id
  plan.validateCurrentPolicy db.identity.content
  reject (!selectionCurrent selected binding plan graph definition roleId run current request.action)
    .credentialGrantRejected

def validateCurrentCatalog (db : Database) (request : ApprovalRequest) : StoreResult Unit := do
  lift .invalidCatalog db.identity.content.validate
  liftFault .invalidApproval (request.validateAgainst db.identity.content)
  let run ← required
    (db.identity.content.runs.find? fun run => some run.metadata.id = request.action.scope.runId)
    .credentialGrantRejected
  let staged := db.staged.find? run.metadata.id
  reject (!runIsOpen request run staged) .credentialGrantRejected
  let roleId ← required request.action.roleId .credentialGrantRejected
  validateM3Catalog db.m3.content db.identity.content
  let assignments := activeAssignments db.m3.content request.action
  reject (!(assignments.any fun assignment => assignment.roleId = roleId)) .credentialGrantRejected
  match db.nodeRuns.find? run.metadata.id with
  | some attempt => validateCurrentAttempt db request run (awaitsLaunch request staged) roleId attempt
  | none => reject (decide (assignments.length ≠ 1)) .credentialGrantRejected

end CurrentCatalog

structure CredentialGrantRecord where
  request : ApprovalRequest
  decision : ApprovalDecision
  issuedAtMs : Nat
  consumedAtMs : Option Nat
  revokedAtMs : Option Nat
  revokedBy : Option String
  deriving DecidableEq, Repr

/-- The record is neither consumed nor revoked, and not from the future. -/
def CredentialGrantRecord.usableAt (self : CredentialGrantRecord) (now : Nat) : Bool :=
  decide (self.issuedAtMs ≤ now) && self.consumedAtMs.isNone && self.revokedAtMs.isNone

def issue (db : Database) (request : ApprovalRequest) (decision : ApprovalDecision) : StoreResult Database := do
  let db ← db.insertGrant ⟨request.id, decision.decidedAtMs, none, none, none⟩
  return db.insertEvent "credential.grant_issued"

section Grants

variable [Sha256] [SerdeJson]

def loadGrant (db : Database) (id : ApprovalRequestId) : StoreResult CredentialGrantRecord := do
  let grant ← required (db.grants.find? id) .credentialGrantNotFound
  let approval ← required (db.approvals.find? id) .credentialGrantNotFound
  let decision ← required approval.decision .credentialGrantRejected
  lift .invalidApproval approval.request.validateUnchanged
  lift .invalidApproval (approval.request.verifyDecision decision)
  reject (decide (approval.request.id ≠ id) || decide (decision.kind ≠ .approve) ||
    approval.request.action.scope.credentialBinding.isNone || decide (grant.issuedAtMs ≠ decision.decidedAtMs))
    .credentialGrantRejected
  return ⟨approval.request, decision, grant.issuedAtMs, grant.consumedAtMs, grant.revokedAtMs, grant.revokedBy⟩

/-- The trusted caller gives the action; a staged launch is consumed by its dispatch only. -/
def consumeCredentialGrant (db : Database) (now : Nat) (id : ApprovalRequestId) (action : ApprovalAction) :
    StoreResult (Database × CredentialGrantRecord) := do
  let record ← loadGrant db id
  reject (db.stagedFor? id).isSome .credentialGrantRejected
  nowMs now
  validateTime record.request now
  reject (decide (record.request.action ≠ action) || !record.usableAt now) .credentialGrantRejected
  reject (decide (db.daemon.lifecycle ≠ .ready)) .credentialGrantRejected
  validateCurrentCatalog db record.request
  let (changed, db) ← db.consumeGrant id now
  reject (decide (changed ≠ 1)) .credentialGrantRejected
  return (db.insertEvent "credential.grant_consumed", { record with consumedAtMs := some now })

def revokeCredentialGrant (db : Database) (now : Nat) (id : ApprovalRequestId) (actor : String) :
    StoreResult (Database × CredentialGrantRecord) := do
  reject (isBlank actor || decide (200 < byteLength actor)) .credentialGrantRejected
  let record ← loadGrant db id
  nowMs now
  validateTime record.request now
  reject (!record.usableAt now) .credentialGrantRejected
  let (changed, db) ← db.revokeGrant id (fun _ => now) actor
  reject (decide (changed ≠ 1)) .credentialGrantRejected
  let db ← cancelForRequest db now id "revoked"
  return (db.insertEvent "credential.grant_revoked",
    { record with revokedAtMs := some now, revokedBy := some actor })

end Grants

end Bastet.Daemon
