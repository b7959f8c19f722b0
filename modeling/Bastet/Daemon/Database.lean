import Bastet.Daemon.Launch
import Bastet.Library.Table

/-! The rows of the database, and the statements the commands execute on them. A column
of JSON text holds the value it encodes. -/

set_option autoImplicit false

namespace Bastet.Daemon

open Fallible Bastet.Core

/-- A catalog row with its revision. -/
structure Versioned (α : Type) where
  revision : Nat
  content : α
  deriving DecidableEq, Repr

structure DaemonState where
  revision : Nat
  lifecycle : DaemonLifecycle
  deriving DecidableEq, Repr

structure GraphRow where
  executionId : GraphRunId
  revision : Nat
  execution : GraphExecution
  updatedAt : String
  deriving DecidableEq, Repr

/-- The row of an execution after a change. -/
def GraphRow.store (execution : GraphExecution) (updatedAt : String) (row : GraphRow) : GraphRow :=
  { row with revision := execution.revision, execution, updatedAt }

theorem GraphRow.store_executionId {execution : GraphExecution} {updatedAt : String} (row : GraphRow) :
    (row.store execution updatedAt).executionId = row.executionId := rfl

/-- The text of a launch identity is absent in rows of the first schemas, and may be unreadable. -/
inductive LaunchIdentityColumn where
  | absent
  | malformed
  | recorded (identity : ProviderLaunchIdentity)
  deriving DecidableEq, Repr

structure NodeRunRow where
  executionId : GraphRunId
  nodeId : GraphNodeId
  runId : RunId
  attempt : Nat
  createdAt : String
  finishedAt : Option String
  terminalState : Option NormalizedRunState
  failure : Option AdapterFailure
  launchIdentity : LaunchIdentityColumn
  deriving DecidableEq, Repr

/-- The row of an attempt that has ended. -/
def NodeRunRow.finish (finishedAt : String) (terminalState : NormalizedRunState) (failure : Option AdapterFailure)
    (row : NodeRunRow) : NodeRunRow :=
  { row with finishedAt := some finishedAt, terminalState := some terminalState, failure }

theorem NodeRunRow.finish_runId {finishedAt : String} {terminalState : NormalizedRunState}
    {failure : Option AdapterFailure} (row : NodeRunRow) :
    (row.finish finishedAt terminalState failure).runId = row.runId := rfl

structure OutputRow where
  executionId : GraphRunId
  nodeId : GraphNodeId
  runId : RunId
  contentHash : String
  markdown : String
  createdAt : String
  deriving DecidableEq, Repr

structure ApprovalRow where
  requestId : ApprovalRequestId
  requestHash : String
  request : ApprovalRequest
  expiresAtMs : Nat
  decision : Option ApprovalDecision
  createdAt : String
  decidedAt : Option String
  deriving DecidableEq, Repr

def ApprovalRow.decided (decision : ApprovalDecision) (decidedAt : String) (row : ApprovalRow) : ApprovalRow :=
  { row with decision := some decision, decidedAt := some decidedAt }

theorem ApprovalRow.decided_requestId {decision : ApprovalDecision} {decidedAt : String} (row : ApprovalRow) :
    (row.decided decision decidedAt).requestId = row.requestId := rfl

structure GrantRow where
  requestId : ApprovalRequestId
  issuedAtMs : Nat
  consumedAtMs : Option Nat
  revokedAtMs : Option Nat
  revokedBy : Option String
  deriving DecidableEq, Repr

/-- The grant is neither consumed nor revoked. -/
def GrantRow.unspent (row : GrantRow) : Bool :=
  row.consumedAtMs.isNone && row.revokedAtMs.isNone

def GrantRow.consume (consumedAtMs : Nat) (row : GrantRow) : GrantRow :=
  { row with consumedAtMs := some consumedAtMs }

theorem GrantRow.consume_requestId {consumedAtMs : Nat} (row : GrantRow) :
    (row.consume consumedAtMs).requestId = row.requestId := rfl

/-- The time of revocation may depend on the time of issue. -/
def GrantRow.revoke (revokedAtMs : Nat → Nat) (revokedBy : String) (row : GrantRow) : GrantRow :=
  { row with revokedAtMs := some (revokedAtMs row.issuedAtMs), revokedBy := some revokedBy }

theorem GrantRow.revoke_requestId {revokedAtMs : Nat → Nat} {revokedBy : String} (row : GrantRow) :
    (row.revoke revokedAtMs revokedBy).requestId = row.requestId := rfl

/-- The `CHECK` constraints of the table. -/
def GrantRow.valid (row : GrantRow) : Bool :=
  (row.consumedAtMs.all fun consumed => row.issuedAtMs ≤ consumed) &&
    (row.revokedAtMs.all fun revoked => row.issuedAtMs ≤ revoked) &&
    (row.consumedAtMs.isNone || row.revokedAtMs.isNone) &&
    decide (row.revokedAtMs.isNone = row.revokedBy.isNone)

structure PlanRow where
  runId : RunId
  plan : ProviderLaunchPlan
  planHash : String
  deriving DecidableEq, Repr

inductive StagedLaunchState where
  | awaitingApproval
  | ready
  | cancelled
  | dispatching
  | uncertain
  deriving DecidableEq, Repr

/-- The launch waits for a decision, or for its dispatch. -/
def StagedLaunchState.isWaiting : StagedLaunchState → Bool
  | .awaitingApproval | .ready => true
  | .cancelled | .dispatching | .uncertain => false

structure StagedRow where
  runId : RunId
  requestId : ApprovalRequestId
  state : StagedLaunchState
  stagedAtMs : Nat
  finishedAtMs : Option Nat
  cancelReason : Option String
  deriving DecidableEq, Repr

def StagedRow.move (state : StagedLaunchState) (row : StagedRow) : StagedRow :=
  { row with state }

theorem StagedRow.move_runId {state : StagedLaunchState} (row : StagedRow) : (row.move state).runId = row.runId := rfl

def StagedRow.cancel (finishedAtMs : Nat) (reason : String) (row : StagedRow) : StagedRow :=
  { row with state := .cancelled, finishedAtMs := some finishedAtMs, cancelReason := some reason }

theorem StagedRow.cancel_runId {finishedAtMs : Nat} {reason : String} (row : StagedRow) :
    (row.cancel finishedAtMs reason).runId = row.runId := rfl

structure ClaimRow where
  runId : RunId
  requestId : ApprovalRequestId
  claimedAtMs : Nat
  deriving DecidableEq, Repr

structure Database where
  daemon : DaemonState
  identity : Versioned IdentityCatalog
  m3 : Versioned M3Catalog
  graphs : Table GraphRow.executionId
  nodeRuns : Table NodeRunRow.runId
  outputs : Table OutputRow.runId
  approvals : Table ApprovalRow.requestId
  grants : Table GrantRow.requestId
  plans : Table PlanRow.runId
  staged : Table StagedRow.runId
  claims : Table ClaimRow.runId
  /-- The kinds of the events in the journal, oldest first. -/
  events : List String

namespace Database

/-- The rows the migrations leave. -/
def fresh : Database where
  daemon := ⟨0, .starting⟩
  identity := ⟨0, .empty⟩
  m3 := ⟨0, .empty⟩
  graphs := .empty
  nodeRuns := .empty
  outputs := .empty
  approvals := .empty
  grants := .empty
  plans := .empty
  staged := .empty
  claims := .empty
  events := []

variable (self : Database)

def insertEvent (kind : String) : Database :=
  { self with events := self.events ++ [kind] }

def writeIdentity (revision : Nat) (catalog : IdentityCatalog) : StoreResult Database := do
  storable revision
  return { self with identity := ⟨revision, catalog⟩ }

def writeM3 (revision : Nat) (catalog : M3Catalog) : StoreResult Database := do
  storable revision
  return { self with m3 := ⟨revision, catalog⟩ }

/-- `clash` is the error for an execution id that is taken. -/
def insertGraph (now : Nat) (execution : GraphExecution) (clash : StoreError) : StoreResult Database := do
  storable execution.revision
  let graphs ← required (self.graphs.insert ⟨execution.id, execution.revision, execution, timestamp now⟩) clash
  return { self with graphs }

def updateGraph (updatedAt : String) (id : GraphRunId) (execution : GraphExecution) : StoreResult Database := do
  storable execution.revision
  return { self with graphs := self.graphs.update id (GraphRow.store execution updatedAt) GraphRow.store_executionId }

/-- The rows of one node's attempts. -/
def attempts (executionId : GraphRunId) (nodeId : GraphNodeId) : List NodeRunRow :=
  self.nodeRuns.rows.filter fun row => row.executionId = executionId && row.nodeId = nodeId

/-- `SELECT COALESCE(MAX(attempt), 0)`. -/
def maxAttempt (executionId : GraphRunId) (nodeId : GraphNodeId) : Nat :=
  (self.attempts executionId nodeId).foldr (fun row greatest => max row.attempt greatest) 0

/-- `ORDER BY attempt DESC LIMIT 1`. -/
def latestAttempt (executionId : GraphRunId) (nodeId : GraphNodeId) : Option NodeRunRow :=
  (self.attempts executionId nodeId).find? fun row => row.attempt = self.maxAttempt executionId nodeId

def insertNodeRun (row : NodeRunRow) : StoreResult Database := do
  storable row.attempt
  reject (self.nodeRuns.rows.any fun other =>
    other.executionId = row.executionId && other.nodeId = row.nodeId && other.attempt = row.attempt) .database
  let nodeRuns ← required (self.nodeRuns.insert row) .database
  return { self with nodeRuns }

/-- The end of an attempt. -/
def finishNodeRun (runId : RunId) (finishedAt : String) (terminalState : NormalizedRunState)
    (failure : Option AdapterFailure) : Database :=
  { self with nodeRuns := self.nodeRuns.update runId (NodeRunRow.finish finishedAt terminalState failure) NodeRunRow.finish_runId }

/-- The row's run is a recorded attempt, and its text fits the `CHECK` of the table. -/
def insertOutput (row : OutputRow) : StoreResult Database := do
  reject (decide (byteLength row.markdown = 0) || decide (262144 < byteLength row.markdown)) .database
  reject (self.nodeRuns.find? row.runId).isNone .database
  let outputs ← required (self.outputs.insert row) .database
  return { self with outputs }

/-- `clash` is the error for a request id or hash that is taken. -/
def insertApproval (now : Nat) (request : ApprovalRequest) (clash : StoreError) : StoreResult Database := do
  storable request.expiresAtMs
  reject (self.approvals.rows.any fun row => row.requestHash = request.requestHash) clash
  let approvals ← required (self.approvals.insert
    ⟨request.id, request.requestHash, request, request.expiresAtMs, none, timestamp now, none⟩) clash
  return { self with approvals }

def recordDecision (requestId : ApprovalRequestId) (decision : ApprovalDecision) (decidedAt : String) : Database :=
  { self with approvals := self.approvals.update requestId (ApprovalRow.decided decision decidedAt) ApprovalRow.decided_requestId }

/-- A grant is for a recorded request. -/
def insertGrant (row : GrantRow) : StoreResult Database := do
  storable row.issuedAtMs
  reject (!row.valid) .database
  reject (self.approvals.find? row.requestId).isNone .database
  let grants ← required (self.grants.insert row) .database
  return { self with grants }

/-- Change the unspent grant of a request, if there is one; the count of changed rows. -/
def updateUnspentGrant (requestId : ApprovalRequestId) (change : GrantRow → GrantRow)
    (kept : ∀ row, (change row).requestId = row.requestId) : StoreResult (Nat × Database) :=
  match self.grants.find? requestId with
  | some row =>
    if row.unspent then do
      reject (!(change row).valid) .database
      return (1, { self with grants := self.grants.update requestId change kept })
    else return (0, self)
  | none => return (0, self)

def consumeGrant (requestId : ApprovalRequestId) (consumedAtMs : Nat) : StoreResult (Nat × Database) :=
  self.updateUnspentGrant requestId (GrantRow.consume consumedAtMs) GrantRow.consume_requestId

def revokeGrant (requestId : ApprovalRequestId) (revokedAtMs : Nat → Nat) (revokedBy : String) :
    StoreResult (Nat × Database) :=
  self.updateUnspentGrant requestId (GrantRow.revoke revokedAtMs revokedBy) GrantRow.revoke_requestId

def insertPlan (row : PlanRow) : StoreResult Database := do
  let plans ← required (self.plans.insert row) .database
  return { self with plans }

def insertStaged (row : StagedRow) : StoreResult Database := do
  storable row.stagedAtMs
  reject (self.staged.rows.any fun other => other.requestId = row.requestId) .database
  let staged ← required (self.staged.insert row) .database
  return { self with staged }

/-- The staged launch of a request. -/
def stagedFor? (requestId : ApprovalRequestId) : Option StagedRow :=
  self.staged.rows.find? fun row => row.requestId = requestId

def moveStaged (runId : RunId) (state : StagedLaunchState) : Database :=
  { self with staged := self.staged.update runId (StagedRow.move state) StagedRow.move_runId }

def cancelStaged (runId : RunId) (finishedAtMs : Nat) (reason : String) : Database :=
  { self with staged := self.staged.update runId (StagedRow.cancel finishedAtMs reason) StagedRow.cancel_runId }

def insertClaim (row : ClaimRow) : StoreResult Database := do
  reject (self.claims.rows.any fun other => other.requestId = row.requestId) .database
  let claims ← required (self.claims.insert row) .database
  return { self with claims }

/-- `UPDATE daemon_state`. -/
def writeDaemon (revision : Nat) (lifecycle : DaemonLifecycle) : StoreResult Database := do
  storable revision
  return { self with daemon := ⟨revision, lifecycle⟩ }

end Database

section Loads

variable [Sha256]

/-- `execution.outputs` and the rows of the output ledger agree. -/
def validateGraphOutputLedger (db : Database) (execution : GraphExecution) : StoreResult Unit := do
  reject (decide ((db.outputs.rows.countP fun row => row.executionId = execution.id) ≠ execution.outputs.length))
    (.invalidGraph .invalidOutput)
  forEach (fun (output : GraphNodeOutput) =>
    reject (!(db.outputs.rows.any fun row =>
      row.executionId = execution.id && row.nodeId = output.nodeId && row.runId = output.runId &&
        row.contentHash = output.contentHash && row.markdown = output.markdown))
      (.invalidGraph .invalidOutput)) execution.outputs

/-- The checks a stored execution passes whenever it is read. -/
def validateStored (db : Database) (execution : GraphExecution) : StoreResult Unit := do
  lift .invalidGraph execution.validate
  validateGraphOutputLedger db execution

omit [Sha256] in
/-- `ORDER BY updated_at, execution_id`. -/
def GraphRow.precedes (first second : GraphRow) : Prop :=
  first.updatedAt < second.updatedAt ∨
    first.updatedAt = second.updatedAt ∧ Json.uuidText first.executionId.value ≤ Json.uuidText second.executionId.value

instance : DecidableRel GraphRow.precedes := fun first second =>
  inferInstanceAs (Decidable (first.updatedAt < second.updatedAt ∨ first.updatedAt = second.updatedAt ∧
    Json.uuidText first.executionId.value ≤ Json.uuidText second.executionId.value))

/-- The stored executions, in the order they are loaded. -/
def storedExecutions (db : Database) : List GraphExecution :=
  (db.graphs.rows.insertionSort GraphRow.precedes).map (·.execution)

def loadGraphExecutions (db : Database) : StoreResult (List GraphExecution) := do
  forEach (validateStored db) (storedExecutions db)
  return storedExecutions db

/-- The row of a graph at the revision a client expects, with its checks. -/
def loadGraph (db : Database) (id : GraphRunId) (expected : Nat) : StoreResult GraphExecution := do
  let row ← required (db.graphs.find? id) .graphNotFound
  expectRevision expected row.revision
  validateStored db row.execution
  return row.execution

/-- `Store::graph_execution`. -/
def graphExecution (db : Database) (id : GraphRunId) : StoreResult GraphExecution := do
  let row ← required (db.graphs.find? id) .graphNotFound
  validateStored db row.execution
  return row.execution

/-- `Store::graph_executions`. -/
def graphExecutions (db : Database) : StoreResult (List GraphExecution) :=
  loadGraphExecutions db

end Loads

/-- `load_launch_identity`. -/
def loadLaunchIdentity (db : Database) (runId : RunId) : StoreResult (Option ProviderLaunchIdentity) := do
  let row ← required (db.nodeRuns.find? runId) .database
  match row.launchIdentity with
  | .absent => return none
  | .malformed => .error (.error .serialization)
  | .recorded identity => return some identity

section Committed

variable {db after : Database} {revision : Nat}

/-- Every stored execution passes the checks of a load. -/
def Readable [Sha256] (db : Database) : Prop :=
  ∀ execution ∈ storedExecutions db, validateStored db execution = .ok ()

@[simp] theorem writeIdentity_ok {catalog : IdentityCatalog} :
    db.writeIdentity revision catalog = .ok after ↔
      revision < sqlLimit ∧ { db with identity := ⟨revision, catalog⟩ } = after := by
  simp [Database.writeIdentity]

@[simp] theorem writeM3_ok {catalog : M3Catalog} :
    db.writeM3 revision catalog = .ok after ↔ revision < sqlLimit ∧ { db with m3 := ⟨revision, catalog⟩ } = after := by
  simp [Database.writeM3]

@[simp] theorem writeDaemon_ok {lifecycle : DaemonLifecycle} :
    db.writeDaemon revision lifecycle = .ok after ↔
      revision < sqlLimit ∧ { db with daemon := ⟨revision, lifecycle⟩ } = after := by
  simp [Database.writeDaemon]

@[simp] theorem insertGraph_ok {now : Nat} {execution : GraphExecution} {clash : StoreError} :
    db.insertGraph now execution clash = .ok after ↔ execution.revision < sqlLimit ∧
      ∃ graphs, db.graphs.insert ⟨execution.id, execution.revision, execution, timestamp now⟩ = some graphs ∧
        { db with graphs } = after := by
  simp [Database.insertGraph]

@[simp] theorem updateGraph_ok {updatedAt : String} {id : GraphRunId} {execution : GraphExecution} :
    db.updateGraph updatedAt id execution = .ok after ↔ execution.revision < sqlLimit ∧
      { db with graphs := db.graphs.update id (GraphRow.store execution updatedAt) GraphRow.store_executionId } = after := by
  simp [Database.updateGraph]

@[simp] theorem insertNodeRun_ok {row : NodeRunRow} :
    db.insertNodeRun row = .ok after ↔ row.attempt < sqlLimit ∧
      (∀ other ∈ db.nodeRuns.rows, other.executionId = row.executionId → other.nodeId = row.nodeId →
        other.attempt ≠ row.attempt) ∧
      ∃ nodeRuns, db.nodeRuns.insert row = some nodeRuns ∧ { db with nodeRuns } = after := by
  simp [Database.insertNodeRun]

@[simp] theorem insertOutput_ok {row : OutputRow} :
    db.insertOutput row = .ok after ↔ (byteLength row.markdown ≠ 0 ∧ byteLength row.markdown ≤ 262144) ∧
      db.nodeRuns.find? row.runId ≠ none ∧
      ∃ outputs, db.outputs.insert row = some outputs ∧ { db with outputs } = after := by
  simp [Database.insertOutput, Option.isSome_iff_ne_none]

@[simp] theorem insertApproval_ok {now : Nat} {request : ApprovalRequest} {clash : StoreError} :
    db.insertApproval now request clash = .ok after ↔ request.expiresAtMs < sqlLimit ∧
      (∀ row ∈ db.approvals.rows, row.requestHash ≠ request.requestHash) ∧
      ∃ approvals, db.approvals.insert
          ⟨request.id, request.requestHash, request, request.expiresAtMs, none, timestamp now, none⟩ =
            some approvals ∧ { db with approvals } = after := by
  simp [Database.insertApproval]

@[simp] theorem insertGrant_ok {row : GrantRow} :
    db.insertGrant row = .ok after ↔ row.issuedAtMs < sqlLimit ∧ row.valid = true ∧
      db.approvals.find? row.requestId ≠ none ∧
      ∃ grants, db.grants.insert row = some grants ∧ { db with grants } = after := by
  simp [Database.insertGrant, Option.isSome_iff_ne_none]

@[simp] theorem insertPlan_ok {row : PlanRow} :
    db.insertPlan row = .ok after ↔ ∃ plans, db.plans.insert row = some plans ∧ { db with plans } = after := by
  simp [Database.insertPlan]

@[simp] theorem insertStaged_ok {row : StagedRow} :
    db.insertStaged row = .ok after ↔ row.stagedAtMs < sqlLimit ∧
      (∀ other ∈ db.staged.rows, other.requestId ≠ row.requestId) ∧
      ∃ staged, db.staged.insert row = some staged ∧ { db with staged } = after := by
  simp [Database.insertStaged]

@[simp] theorem insertClaim_ok {row : ClaimRow} :
    db.insertClaim row = .ok after ↔ (∀ other ∈ db.claims.rows, other.requestId ≠ row.requestId) ∧
      ∃ claims, db.claims.insert row = some claims ∧ { db with claims } = after := by
  simp [Database.insertClaim]

/-- A change of an unspent grant: of the row that was found, or of none. -/
theorem updateUnspentGrant_ok {requestId : ApprovalRequestId} {change : GrantRow → GrantRow}
    {kept : ∀ row, (change row).requestId = row.requestId} {count : Nat} :
    db.updateUnspentGrant requestId change kept = .ok (count, after) ↔
      (∃ row, db.grants.find? requestId = some row ∧ row.unspent = true ∧ (change row).valid = true ∧ count = 1 ∧
        after = { db with grants := db.grants.update requestId change kept }) ∨
      ((∀ row, db.grants.find? requestId = some row → row.unspent = false) ∧ count = 0 ∧ after = db) := by
  unfold Database.updateUnspentGrant
  cases found : db.grants.find? requestId with
  | none =>
    simp only [pure_ok, Prod.mk.injEq, reduceCtorEq, false_and, exists_false, false_or, false_implies, implies_true,
      true_and]
    exact and_congr eq_comm eq_comm
  | some row =>
    cases unspent : row.unspent
    · simp only [Bool.false_eq_true, if_false, pure_ok, Prod.mk.injEq, Option.some.injEq, exists_eq_left', unspent,
        false_and, false_or, forall_eq', true_and]
      exact and_congr eq_comm eq_comm
    · simp only [if_true, bind_ok, exists_unit, reject_ok, Bool.not_eq_eq_eq_not, Bool.not_false, pure_ok,
        Prod.mk.injEq, Option.some.injEq, exists_eq_left', unspent, true_and, forall_eq', Bool.true_eq_false,
        false_and, or_false]
      exact and_congr_right fun _ => and_congr eq_comm eq_comm

@[simp] theorem loadGraphExecutions_ok [Sha256] {executions : List GraphExecution} :
    loadGraphExecutions db = .ok executions ↔ Readable db ∧ storedExecutions db = executions := by
  simp [loadGraphExecutions, Readable]

@[simp] theorem loadGraph_ok [Sha256] {id : GraphRunId} {expected : Nat} {execution : GraphExecution} :
    loadGraph db id expected = .ok execution ↔
      ∃ row, db.graphs.find? id = some row ∧ row.revision = expected ∧
        validateStored db row.execution = .ok () ∧ row.execution = execution := by
  simp [loadGraph]

theorem mem_storedExecutions {execution : GraphExecution} :
    execution ∈ storedExecutions db ↔ ∃ row ∈ db.graphs.rows, row.execution = execution := by
  simp [storedExecutions]

end Committed

end Bastet.Daemon
