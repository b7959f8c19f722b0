import Bastet.Daemon.CredentialGrants
import Bastet.Daemon.Runs

/-! The dispatch of an approved launch. A claim consumes the grant in one transaction; the
native lookup follows it, outside of any transaction. -/

set_option autoImplicit false

namespace Bastet.Daemon

open Fallible Bastet.Core

/-- One opportunity to look the credential up. -/
structure DispatchClaim where
  receipt : BeginGraphNodeRunReceipt
  selection : ProviderCredentialSelection
  deriving DecidableEq, Repr

/-- An undispatched run starts. -/
def startRun (startedAt : String) (run : Run) : Run :=
  { run with state := .starting, startedAt := some startedAt, metadata := run.metadata.touch startedAt }

variable [Sha256] [SerdeJson]

/-- What a claim may use at `now`: an unspent grant of an approved request, whose launch is ready. -/
def claimableGrant (db : Database) (now : Nat) (requestId : ApprovalRequestId) :
    StoreResult (ApprovalRequest × RunId) := do
  reject (decide (db.daemon.lifecycle ≠ .ready)) .credentialGrantRejected
  let record ← loadGrant db requestId
  nowMs now
  validateTime record.request now
  reject (!record.usableAt now) .credentialGrantRejected
  let runId ← required record.request.action.scope.runId .credentialGrantRejected
  reject (!(db.staged.find? runId).any fun row => row.requestId = requestId && row.state = .ready)
    .credentialGrantRejected
  return (record.request, runId)

/-- The plan of a claimed launch and its credential, which the reader accepts. -/
def claimedPlan (db : Database) (readable : ProviderCredentialSelection → Bool) (request : ApprovalRequest)
    (run : Run) : StoreResult (ProviderLaunchPlan × ProviderCredentialSelection) := do
  validateStagedRun db run
  validateCurrentCatalog db request
  let plan ← ProviderLaunchPlan.load db run.metadata.id
  plan.validateOnlineCliRequirements
  let selection ← required (plan.identity.account.bind (·.credential)) .credentialGrantRejected
  reject (!readable selection) .credentialGrantRejected
  return (plan, selection)

omit [Sha256] [SerdeJson] in
/-- The writes of a claim. -/
def writeClaim (db : Database) (now : Nat) (requestId : ApprovalRequestId) (runId : RunId) (revision : Nat)
    (catalog : IdentityCatalog) (executionId : GraphRunId) (graph : GraphExecution) : StoreResult Database := do
  let (consumed, db) ← db.consumeGrant requestId now
  reject (decide (consumed ≠ 1)) .credentialGrantRejected
  reject (!(db.stagedFor? requestId).any fun row => row.state = .ready) .credentialGrantRejected
  let db := db.moveStaged runId .dispatching
  let db ← db.insertClaim ⟨runId, requestId, now⟩
  let db ← db.writeIdentity revision catalog
  let db ← db.updateGraph (timestamp now) executionId graph
  return (db.insertEvent "credential.grant_consumed").insertEvent "provider_launch.dispatch_claimed"

def claimStagedDispatch (db : Database) (now : Nat) (readable : ProviderCredentialSelection → Bool)
    (requestId : ApprovalRequestId) : StoreResult (Database × DispatchClaim) := do
  let (request, runId) ← claimableGrant db now requestId
  let run ← required (db.identity.content.run? runId) .runNotFound
  let (plan, selection) ← claimedPlan db readable request run
  let row ← required (db.graphs.find? plan.executionId) .database
  let graph ← lift .invalidGraph (row.execution.activateStagedNode plan.nodeId plan.owner runId)
  lift .invalidGraph graph.validate
  let _ ← nextRevision run.metadata.revision
  let catalog := db.identity.content.updateRun runId (startRun (timestamp now))
  lift .invalidCatalog catalog.validate
  let revision ← nextRevision db.identity.revision
  let after ← writeClaim db now requestId runId revision catalog plan.executionId graph
  return (after, ⟨⟨plan.executionId, plan.nodeId, plan.sessionId, runId, some plan.identity,
    plan.identity.adapterKind, plan.identity.model, plan.workspaceRoot, plan.prompt, revision, graph.revision,
    after.events.length⟩, selection⟩)

/-- The end of a claim whose lookup failed. -/
def failDispatchClaim (db : Database) (now : Nat) (runId : RunId) : StoreResult Database := do
  let plan ← ProviderLaunchPlan.load db runId
  let run ← required (db.identity.content.run? runId) .runNotFound
  reject (decide (run.state ≠ .starting)) .credentialGrantRejected
  let row ← required (db.graphs.find? plan.executionId) .database
  reject (decide ((row.execution.node? plan.nodeId).bind (·.runId) ≠ some runId)) .credentialGrantRejected
  let graph ← lift .invalidGraph (row.execution.finishTerminal plan.nodeId plan.owner .uncertain none)
  let _ ← nextRevision run.metadata.revision
  let catalog := db.identity.content.updateRun runId (Run.enter .uncertain (timestamp now))
  lift .invalidCatalog catalog.validate
  reject (!(db.staged.find? runId).any fun row => row.state = .dispatching) .credentialGrantRejected
  let db := db.moveStaged runId .uncertain
  let revision ← nextRevision db.identity.revision
  let db ← db.writeIdentity revision catalog
  let db ← db.updateGraph (timestamp now) plan.executionId graph
  return db.insertEvent "provider_launch.credential_lookup_failed"

omit [Sha256] [SerdeJson] in
/-- A launch that was being dispatched is uncertain. -/
def abandonDispatch (row : StagedRow) : StagedRow :=
  if row.state = .dispatching then row.move .uncertain else row

omit [Sha256] [SerdeJson] in
theorem abandonDispatch_runId (row : StagedRow) : (abandonDispatch row).runId = row.runId := by
  unfold abandonDispatch
  split <;> rfl

omit [Sha256] [SerdeJson] in
/-- `credential_dispatch::reconcile`: the claims of a process that is gone are uncertain. -/
def reconcileClaims (db : Database) : Database :=
  let changed := db.staged.rows.countP fun row => row.state = .dispatching
  let db := { db with staged := db.staged.updateAll abandonDispatch abandonDispatch_runId }
  if 0 < changed then db.insertEvent "provider_launch.claims_marked_uncertain" else db

end Bastet.Daemon
