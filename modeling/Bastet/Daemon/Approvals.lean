import Bastet.Daemon.CredentialDispatch

/-! The commands on approval requests, and the cancellation of staged runs. -/

set_option autoImplicit false

namespace Bastet.Daemon

open Fallible Bastet.Core

structure ApprovalReceipt where
  requestId : ApprovalRequestId
  eventSequence : Nat
  deriving DecidableEq, Repr

structure DecideApprovalCommand where
  decision : ApprovalDecision
  credentialScopeAcknowledged : Bool
  deriving DecidableEq, Repr

structure ApprovalRecord where
  request : ApprovalRequest
  decision : Option ApprovalDecision
  stagedLaunchState : Option StagedLaunchState
  deriving DecidableEq, Repr

variable [Sha256] [SerdeJson]

/-- A request that binds a credential must be usable now. -/
def validateBoundRequest (db : Database) (now : Nat) (request : ApprovalRequest) : StoreResult Unit :=
  if request.action.scope.credentialBinding.isSome then do
    nowMs now
    validateTime request now
    validateCurrentCatalog db request
  else .ok ()

def createApproval (db : Database) (now : Nat) (request : ApprovalRequest) :
    StoreResult (Database × ApprovalReceipt) := do
  lift .invalidCatalog db.identity.content.validate
  liftFault .invalidApproval (request.validateAgainst db.identity.content)
  validateBoundRequest db now request
  let db ← db.insertApproval now request .approvalConflict
  let db := db.insertEvent "approval.requested"
  return (db, ⟨request.id, db.events.length⟩)

/-- The decision the store takes over from a client: with a credential binding, its time is
the store's, and an approval is checked against the stored catalogs. -/
def takeDecision (db : Database) (now : Nat) (request : ApprovalRequest) (command : DecideApprovalCommand) :
    StoreResult ApprovalDecision :=
  if request.action.scope.credentialBinding.isSome then do
    reject (decide (command.decision.kind = .approve) && !command.credentialScopeAcknowledged)
      .credentialGrantRejected
    nowMs now
    validateTime request now
    if command.decision.kind = .approve then validateCurrentCatalog db request else .ok ()
    return { command.decision with decidedAtMs := now }
  else return command.decision

/-- An approval with a credential binding leaves a grant. -/
def issueForDecision (db : Database) (request : ApprovalRequest) (decision : ApprovalDecision) :
    StoreResult Database :=
  if request.action.scope.credentialBinding.isSome && decision.kind = .approve then issue db request decision
  else return db

def decideApproval (db : Database) (now : Nat) (command : DecideApprovalCommand) :
    StoreResult (Database × ApprovalReceipt) := do
  let row ← required (db.approvals.find? command.decision.requestId) .approvalNotFound
  reject row.decision.isSome .approvalConflict
  lift .invalidApproval row.request.validateUnchanged
  let decision ← takeDecision db now row.request command
  lift .invalidApproval (row.request.verifyDecision decision)
  let db := db.recordDecision decision.requestId decision (timestamp now)
  let db ← issueForDecision db row.request decision
  let db ← onDecision db now row.request decision.kind
  let db := db.insertEvent (if decision.kind = .approve then "approval.approved" else "approval.denied")
  return (db, ⟨decision.requestId, db.events.length⟩)

/-- The route of a decision names the request it is for. -/
def decideApprovalRoute (db : Database) (now : Nat) (requestId : ApprovalRequestId) (command : DecideApprovalCommand) :
    StoreResult (Database × ApprovalReceipt) := do
  reject (decide (command.decision.requestId ≠ requestId)) (.invalidApproval .hashMismatch)
  decideApproval db now command

/-- `Store::expire_staged_launches`. -/
def expireStagedLaunches (db : Database) (now : Nat) : StoreResult Database := do
  nowMs now
  expire db now

omit [Sha256] [SerdeJson] in
def approvalRecord (db : Database) (row : ApprovalRow) : ApprovalRecord :=
  ⟨row.request, row.decision, (db.stagedFor? row.requestId).map (·.state)⟩

/-- Overdue launches are cancelled before a request is shown. -/
def approval (db : Database) (now : Nat) (requestId : ApprovalRequestId) :
    StoreResult (Database × ApprovalRecord) := do
  let db ← expireStagedLaunches db now
  let row ← required (db.approvals.find? requestId) .approvalNotFound
  return (db, approvalRecord db row)

/-- The newest request comes first. -/
def approvals (db : Database) (now : Nat) : StoreResult (Database × List ApprovalRecord) := do
  let db ← expireStagedLaunches db now
  return (db, (db.approvals.rows.map (approvalRecord db)).reverse)

def cancelStagedRun (db : Database) (now : Nat) (runId : RunId) (expectedRevision : Nat) :
    StoreResult (Database × Option CancelRunReceipt) :=
  match (db.staged.find? runId).filter (·.state.isWaiting) with
  | none => return (db, none)
  | some row => do
    expectRevision expectedRevision db.identity.revision
    let db ← cancelForRequest db now row.requestId "cancelled"
    let db := db.insertEvent "run.staged_cancelled"
    return (db, some ⟨runId, db.identity.revision, db.events.length⟩)

end Bastet.Daemon
