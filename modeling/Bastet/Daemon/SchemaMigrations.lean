import Bastet.Daemon.Database
import Bastet.Library.DoublyKeyed
import Bastet.Library.Migrations

/-! The database file through its thirteen schemas: which tables exist, how their rows
are laid out, and the transaction that leads from each schema to the next. -/

set_option autoImplicit false

namespace Bastet.Daemon

open Fallible Bastet.Core

/-- `graph_node_runs` of the schemas 6 and 7, with one run for each node. -/
structure FirstRunRow where
  executionId : GraphRunId
  nodeId : GraphNodeId
  runId : RunId
  createdAt : String
  deriving DecidableEq, Repr

def FirstRunRow.place (row : FirstRunRow) : GraphRunId × GraphNodeId :=
  (row.executionId, row.nodeId)

/-- `graph_node_runs` of schema 8. -/
structure AttemptRow where
  executionId : GraphRunId
  nodeId : GraphNodeId
  runId : RunId
  attempt : Nat
  createdAt : String
  finishedAt : Option String
  terminalState : Option NormalizedRunState
  failure : Option AdapterFailure
  deriving DecidableEq, Repr

def AttemptRow.place (row : AttemptRow) : GraphRunId × GraphNodeId × Nat :=
  (row.executionId, row.nodeId, row.attempt)

def NodeRunRow.place (row : NodeRunRow) : GraphRunId × GraphNodeId × Nat :=
  (row.executionId, row.nodeId, row.attempt)

def OutputRow.place (row : OutputRow) : GraphRunId × GraphNodeId :=
  (row.executionId, row.nodeId)

/-- A run of the first schemas is its node's first attempt; what the new columns hold is not known of it. -/
def FirstRunRow.attempted (row : FirstRunRow) : AttemptRow :=
  ⟨row.executionId, row.nodeId, row.runId, 1, row.createdAt, none, none, none⟩

/-- The new column is `NULL` in the rows that exist. -/
def AttemptRow.identified (row : AttemptRow) : NodeRunRow :=
  ⟨row.executionId, row.nodeId, row.runId, row.attempt, row.createdAt, row.finishedAt, row.terminalState, row.failure,
    .absent⟩

abbrev AttemptRuns := DoublyKeyed AttemptRow.runId AttemptRow.place

/-- The layouts of `graph_node_runs`. -/
inductive NodeRunsTable where
  | first (rows : DoublyKeyed FirstRunRow.runId FirstRunRow.place)
  | attempts (rows : AttemptRuns)
  | identified (rows : DoublyKeyed NodeRunRow.runId NodeRunRow.place)

/-- The layouts of `graph_node_outputs`: at first a node had one output. -/
inductive OutputsTable where
  | first (rows : DoublyKeyed OutputRow.place OutputRow.runId)
  | current (rows : Table OutputRow.runId)

/-- The layouts of `staged_provider_launches`, which differ in the states they allow. -/
inductive StagedTable where
  | first (rows : DoublyKeyed StagedRow.runId StagedRow.requestId)
  | current (rows : DoublyKeyed StagedRow.runId StagedRow.requestId)

/-- The tables of a file, each if it exists. A table of one row is its row; of `daemon_state` the row comes later
than the table. -/
structure DatabaseFile where
  daemonState : Option (Option DaemonState)
  eventJournal : Option (List String)
  checkpoints : Bool
  identityCatalog : Option (Versioned IdentityCatalog)
  approvalRequests : Option (DoublyKeyed ApprovalRow.requestId ApprovalRow.requestHash)
  graphExecutions : Option (Table GraphRow.executionId)
  m3Catalog : Option (Versioned M3Catalog)
  graphNodeRuns : Option NodeRunsTable
  graphNodeOutputs : Option OutputsTable
  credentialGrants : Option (Table GrantRow.requestId)
  providerLaunchPlans : Option (Table PlanRow.runId)
  stagedProviderLaunches : Option StagedTable
  providerDispatchClaims : Option (DoublyKeyed ClaimRow.runId ClaimRow.requestId)

/-- A file that has just been made. -/
def DatabaseFile.new : DatabaseFile :=
  ⟨none, none, false, none, none, none, none, none, none, none, none, none, none⟩

/-- The `CHECK` constraints of `staged_provider_launches`. -/
def StagedRow.valid (row : StagedRow) : Bool :=
  decide ((row.state = .cancelled) ↔ row.finishedAtMs.isSome) && decide ((row.state = .cancelled) ↔ row.cancelReason.isSome) &&
    (row.finishedAtMs.all fun finished => row.stagedAtMs ≤ finished)

/-- `CREATE TABLE`. -/
def createTable {α : Type} (table : Option α) : StoreResult Unit :=
  reject table.isSome .database

def insertAttempt (runs : AttemptRuns) (row : AttemptRow) : StoreResult AttemptRuns := do
  reject (decide (row.attempt < 1)) .database
  required (runs.insert row) .database

/-- The row's run is recorded, and its text fits the `CHECK` of the table. -/
def insertCurrentOutput (runs : AttemptRuns) (outputs : Table OutputRow.runId) (row : OutputRow) :
    StoreResult (Table OutputRow.runId) := do
  reject (decide (byteLength row.markdown < 1) || decide (262144 < byteLength row.markdown)) .database
  reject (runs.toTable.find? row.runId).isNone .database
  required (outputs.insert row) .database

def insertCurrentStaged (staged : DoublyKeyed StagedRow.runId StagedRow.requestId) (row : StagedRow) :
    StoreResult (DoublyKeyed StagedRow.runId StagedRow.requestId) := do
  reject (!row.valid) .database
  required (staged.insert row) .database

namespace DatabaseFile

variable (file : DatabaseFile)

def schema1 : StoreResult DatabaseFile :=
  return { file with
    daemonState := some (file.daemonState.getD none), eventJournal := some (file.eventJournal.getD []),
    checkpoints := true }

def schema2 : StoreResult DatabaseFile := do
  createTable file.identityCatalog
  return { file with identityCatalog := some ⟨0, .empty⟩ }

def schema3 : StoreResult DatabaseFile := do
  createTable file.approvalRequests
  return { file with approvalRequests := some .empty }

def schema4 : StoreResult DatabaseFile := do
  createTable file.graphExecutions
  return { file with graphExecutions := some .empty }

def schema5 : StoreResult DatabaseFile := do
  createTable file.m3Catalog
  return { file with m3Catalog := some ⟨0, .empty⟩ }

def schema6 : StoreResult DatabaseFile := do
  createTable file.graphNodeRuns
  return { file with graphNodeRuns := some (.first .empty) }

def schema7 : StoreResult DatabaseFile :=
  return { file with
    graphNodeRuns := some (file.graphNodeRuns.getD (.first .empty)),
    graphNodeOutputs := some (file.graphNodeOutputs.getD (.first .empty)) }

/-- The old tables are renamed, copied into new ones under their names, and dropped. -/
def schema8 : StoreResult DatabaseFile :=
  match file.graphNodeOutputs, file.graphNodeRuns with
  | some (.first outputsV7), some (.first runsV7) => do
    let runs ← foldEach insertAttempt (runsV7.rows.map FirstRunRow.attempted) .empty
    let outputs ← foldEach (insertCurrentOutput runs) outputsV7.rows .empty
    return { file with graphNodeRuns := some (.attempts runs), graphNodeOutputs := some (.current outputs) }
  | _, _ => .error (.error .database)

def schema9 : StoreResult DatabaseFile :=
  match file.graphNodeRuns with
  | some (.attempts runs) =>
    return { file with
      graphNodeRuns := some (.identified (runs.convert AttemptRow.identified (fun _ => rfl) fun _ => rfl)) }
  | _ => .error (.error .database)

def schema10 : StoreResult DatabaseFile := do
  createTable file.credentialGrants
  return { file with credentialGrants := some .empty }

def schema11 : StoreResult DatabaseFile := do
  createTable file.providerLaunchPlans
  return { file with providerLaunchPlans := some .empty }

def schema12 : StoreResult DatabaseFile := do
  createTable file.stagedProviderLaunches
  return { file with stagedProviderLaunches := some (.first .empty) }

/-- The staged launches are copied into a table that allows more states, which then takes the name of the old one. -/
def schema13 : StoreResult DatabaseFile :=
  match file.stagedProviderLaunches with
  | some (.first stagedV12) => do
    let staged ← foldEach insertCurrentStaged stagedV12.rows .empty
    createTable file.providerDispatchClaims
    return { file with stagedProviderLaunches := some (.current staged), providerDispatchClaims := some .empty }
  | _ => .error (.error .database)

/-- `SCHEMA_VERSION`. -/
def schemaVersion : Nat := 13

/-- The transactions of `apply_migrations`, in their order. -/
def migrations : List (Migrations.Migration DatabaseFile (Fault StoreError)) :=
  [⟨1, schema1⟩, ⟨2, schema2⟩, ⟨3, schema3⟩, ⟨4, schema4⟩, ⟨5, schema5⟩, ⟨6, schema6⟩, ⟨7, schema7⟩, ⟨8, schema8⟩,
    ⟨9, schema9⟩, ⟨10, schema10⟩, ⟨11, schema11⟩, ⟨12, schema12⟩, ⟨13, schema13⟩]

theorem migrations_increasing : Migrations.Increasing migrations schemaVersion where
  sorted := by decide
  positive := by decide
  bounded := by decide

end DatabaseFile

end Bastet.Daemon
