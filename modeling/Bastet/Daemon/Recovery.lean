import Bastet.Daemon.Approvals

/-! The lifecycle of the daemon, and the recovery that opening its store again does. -/

set_option autoImplicit false

namespace Bastet.Daemon

open Fallible Bastet.Core

section Lifecycle

structure CheckpointReceipt where
  checkpointId : Uuid
  revision : Nat
  eventSequence : Nat
  deriving DecidableEq, Repr

def transition (db : Database) (lifecycle : DaemonLifecycle) (kind : String) : StoreResult (Database × Nat) := do
  let db ← db.writeDaemon (bump db.daemon.revision) lifecycle
  let db := db.insertEvent kind
  return (db, db.events.length)

/-- A provider may be at work on the run. -/
def runMayBeActive (run : Run) : Bool :=
  match run.state with
  | .running | .cancelling | .recovering => true
  | .starting | .awaitingApproval => run.startedAt.isSome
  | _ => false

def persistCheckpoint (db : Database) (checkpointId : Uuid) (expectedRevision : Nat)
    (requiredLifecycle : Option DaemonLifecycle) (finalLifecycle : DaemonLifecycle) (kind : String) :
    StoreResult (Database × CheckpointReceipt) := do
  expectRevision expectedRevision db.daemon.revision
  match requiredLifecycle with
  | some expected => reject (decide (db.daemon.lifecycle ≠ expected)) (.invalidLifecycle expected db.daemon.lifecycle)
  | none => .ok ()
  reject (decide (finalLifecycle = .stopping) && db.identity.content.runs.any runMayBeActive) .providerRunsActive
  let revision := bump db.daemon.revision
  let db ← db.writeDaemon revision .checkpointing
  let db := db.insertEvent kind
  let sequence := db.events.length
  let db ← db.writeDaemon revision finalLifecycle
  return (db, ⟨checkpointId, revision, sequence⟩)

def checkpoint (db : Database) (checkpointId : Uuid) (expectedRevision : Nat) :
    StoreResult (Database × CheckpointReceipt) :=
  persistCheckpoint db checkpointId expectedRevision (some .ready) .ready "daemon.checkpointed"

def shutdown (db : Database) (checkpointId : Uuid) (expectedRevision : Nat) :
    StoreResult (Database × CheckpointReceipt) :=
  persistCheckpoint db checkpointId expectedRevision none .stopping "daemon.shutdown_requested"

def suspend (db : Database) (checkpointId : Uuid) (expectedRevision : Nat) :
    StoreResult (Database × CheckpointReceipt) :=
  persistCheckpoint db checkpointId expectedRevision (some .ready) .suspended "daemon.suspended"

def resume (db : Database) (expectedRevision : Nat) : StoreResult (Database × Nat) := do
  expectRevision expectedRevision db.daemon.revision
  reject (decide (db.daemon.lifecycle ≠ .suspended)) (.invalidLifecycle .suspended db.daemon.lifecycle)
  transition db .ready "daemon.resumed"

def markReady [Sha256] [SerdeJson] (db : Database) (now : Nat) : StoreResult (Database × Nat) := do
  let db ← expireStagedLaunches db now
  transition db .ready "daemon.ready"

end Lifecycle

section Reopening

variable [Sha256] [SerdeJson]

/-- The run was at work when the process ended. -/
def wasInterrupted (run : Run) : Bool :=
  match run.state with
  | .running | .cancelling | .recovering | .awaitingApproval => true
  | .starting => run.startedAt.isSome
  | _ => false

/-- A run that waits for its approval is proved to do so; one that was at work is uncertain. -/
def recoverRun (db : Database) (updatedAt : String) (run : Run) : StoreResult Run :=
  if run.state = .awaitingApproval ∧ run.startedAt = none then do
    validateStagedRun db run
    return run
  else if wasInterrupted run then do
    let _ ← nextRevision run.metadata.revision
    return run.enter .uncertain updatedAt
  else return run

/-- Recover the runs one after another. -/
def recoverRuns (db : Database) (updatedAt : String) : List Run → StoreResult (List Run)
  | [] => return []
  | run :: rest => do
    let recovered ← recoverRun db updatedAt run
    let others ← recoverRuns db updatedAt rest
    return recovered :: others

omit [Sha256] [SerdeJson] in
/-- The runs that recovery changes. -/
def interruptedRuns (catalog : IdentityCatalog) : Nat :=
  catalog.runs.countP fun run => !(run.state = .awaitingApproval && run.startedAt.isNone) && wasInterrupted run

def reconcileCatalogForRecovery (db : Database) (now : Nat) : StoreResult Database := do
  let catalog ← loadCatalog db
  let runs ← recoverRuns db (timestamp now) catalog.runs
  if interruptedRuns catalog = 0 then return db
  else do
    let recovered := { catalog with runs }
    lift .invalidCatalog recovered.validate
    let revision ← nextRevision db.identity.revision
    let db ← db.writeIdentity revision recovered
    return db.insertEvent "catalog.runs_marked_uncertain"

omit [SerdeJson] in
/-- The nodes of one execution that were running are uncertain. -/
def reconcileGraph (now : Nat) (db : Database) (row : GraphRow) : StoreResult Database := do
  lift .invalidGraph row.execution.validate
  let (changed, execution) := row.execution.reconcileAfterRestart
  if changed = 0 then return db
  else do
    let db ← db.updateGraph (timestamp now) row.executionId execution
    return db.insertEvent "graph.running_nodes_marked_uncertain"

omit [Sha256] [SerdeJson] in
/-- `ORDER BY execution_id`. -/
def GraphRow.idPrecedes (first second : GraphRow) : Prop :=
  Json.uuidText first.executionId.value ≤ Json.uuidText second.executionId.value

instance : DecidableRel GraphRow.idPrecedes := fun first second =>
  inferInstanceAs (Decidable (Json.uuidText first.executionId.value ≤ Json.uuidText second.executionId.value))

omit [SerdeJson] in
def reconcileGraphsForRecovery (db : Database) (now : Nat) : StoreResult Database :=
  foldEach (reconcileGraph now) (db.graphs.rows.insertionSort GraphRow.idPrecedes) db

/-- `Store::open` on a database that has been opened before. -/
def reopen (db : Database) (now : Nat) : StoreResult Database := do
  let db ← db.writeDaemon (bump db.daemon.revision) .recovering
  let db := db.insertEvent "daemon.recovery_started"
  let db ← reconcileCatalogForRecovery db now
  let db ← reconcileGraphsForRecovery db now
  nowMs now
  expire (reconcileClaims db) now

end Reopening

end Bastet.Daemon
