import Bastet.Daemon.ProviderPreflight
import Bastet.Daemon.RunControl

/-! The requests to execute what is ready of a graph, and the workers of the runs they begin, as one machine. A request
begins at most two runs and starts a worker for each; the workers share a registry of controllers and the counter that a
shutdown looks at. -/

set_option autoImplicit false

namespace Bastet.Daemon

open Fallible Bastet.Core

structure ExecuteReadyGraphCommand where
  expectedCatalogRevision : Nat
  expectedGraphRevision : Nat
  deriving DecidableEq, Repr

/-- What a request has done when it takes its next step. -/
inductive ExecutePhase where
  | arrived
  | serving
  | catalogRead (catalog : IdentityCatalog)
  | graphRead (catalog : IdentityCatalog) (execution : GraphExecution) (ready : List GraphNodeId)
  /-- The nodes to begin, and the receipt of the run begun last. -/
  | beginning (pending : List (GraphNodeId × ProviderRunBinding)) (previous : Option BeginGraphNodeRunReceipt)
  | launching (runIds : List RunId)
  | answered (result : Except StoreError (List RunId))
  /-- The connection has ended, with a panic or with the process. -/
  | lost

/-- The handler goes on with what it has read, or answers the error. -/
def ExecutePhase.ofResult {α : Type} (proceed : α → ExecutePhase) : StoreResult α → ExecutePhase
  | .ok value => proceed value
  | .error (.error error) => .answered (.error error)
  | .error (.panic _) => .lost

/-- The runs of the receipt that the client gets. -/
def ExecutePhase.runIds? : ExecutePhase → Option (List RunId)
  | .answered (.ok runIds) => some runIds
  | _ => none

def ExecutePhase.closed : ExecutePhase → Bool
  | .answered _ | .lost => true
  | _ => false

structure ExecuteRequest where
  executionId : GraphRunId
  command : ExecuteReadyGraphCommand
  phase : ExecutePhase

/-- Where a run that was begun has got to. -/
inductive LaunchPhase where
  | begun
  /-- An account is selected: the run waits in the store and has no worker. -/
  | intent
  | registered
  /-- Counted as active; its thread is to be spawned. -/
  | counted
  /-- The thread could not be spawned. -/
  | unspawned
  | uncounted
  /-- In `persist_start_failure`. -/
  | failing (stage : PersistStage)
  | abandoned
  /-- The worker is to look at its token. -/
  | spawned
  | preflighting
  /-- In the runner. -/
  | entered
  /-- The launch is checked again; the policy of its plan is to be looked at. -/
  | authorising
  | atProvider
  /-- In the loop of `try_recv`. -/
  | draining
  | persisting (stage : PersistStage)
  /-- The registration is about to be dropped. -/
  | closing
  | unregistered
  | gone
  | lost
  deriving DecidableEq, Repr

namespace LaunchPhase

/-- The request is to take the next step. -/
def starting : LaunchPhase → Bool
  | .begun | .registered | .counted | .unspawned | .uncounted | .failing _ => true
  | _ => false

/-- The registry has the controller of the run. -/
def isRegistered : LaunchPhase → Bool
  | .registered | .counted | .unspawned | .uncounted | .spawned | .preflighting | .entered | .authorising | .atProvider
  | .draining | .persisting _ | .closing => true
  | _ => false

/-- The run is one of those the counter has. -/
def isCounted : LaunchPhase → Bool
  | .counted | .unspawned | .spawned | .preflighting | .entered | .authorising | .atProvider | .draining | .persisting _
  | .closing | .unregistered => true
  | _ => false

/-- The outcome of the run is still to be recorded. -/
def atStake : LaunchPhase → Bool
  | .begun | .registered | .counted | .unspawned | .uncounted | .failing _ | .spawned | .preflighting | .entered
  | .authorising | .atProvider | .draining | .persisting _ => true
  | _ => false

/-- No step was taken towards a worker. -/
def isUnworked : LaunchPhase → Bool
  | .begun | .intent | .lost => true
  | _ => false

def closed : LaunchPhase → Bool
  | .intent | .abandoned | .gone | .lost => true
  | _ => false

end LaunchPhase

structure Launch where
  /-- The request that has begun the run. -/
  request : Nat
  receipt : BeginGraphNodeRunReceipt
  phase : LaunchPhase
  /-- The token. -/
  cancelled : Bool
  /-- What the runner has left. -/
  outcome : Option ProviderOutcome

namespace Launch

def runId (self : Launch) : RunId :=
  self.receipt.runId

/-- The launch identity of the receipt has an account. -/
def selectsAccount (self : Launch) : Bool :=
  self.receipt.launchIdentity.any fun identity => identity.account.isSome

def isRegistered (self : Launch) : Bool :=
  self.phase.isRegistered

def isCounted (self : Launch) : Bool :=
  self.phase.isCounted

/-- The worker has its outcome, and looks for requests to answer. -/
def drain (outcome : ProviderOutcome) (self : Launch) : Launch :=
  { self with phase := .draining, outcome := some outcome }

/-- The process ends. -/
def lose (self : Launch) : Launch :=
  if self.phase.closed then self else { self with phase := .lost }

end Launch

/-- A shutdown looks at the counter, and then asks the store. -/
inductive ShutdownPhase where
  | arrived
  | unopposed
  | answered (result : Except StoreError Unit)
  | lost

structure ShutdownRequest where
  checkpointId : Uuid
  expectedRevision : Nat
  phase : ShutdownPhase

structure GraphExecutor where
  process : DaemonProcess
  requests : List ExecuteRequest
  launches : List Launch
  shutdowns : List ShutdownRequest
  /-- `RunControllerRegistry`. -/
  registry : List RunId
  active : Nat

/-- The identifiers and the clock a step of the executor may use, and whether its thread is spawned. -/
structure Means where
  now : Nat
  ids : RunIds
  costId : CostRecordId
  spawns : Bool

inductive ExecutorAction where
  | request (executionId : GraphRunId) (command : ExecuteReadyGraphCommand)
  /-- A request takes its next step. -/
  | handle (index : Nat) (means : Means)
  /-- A worker takes its next step, and its runner answers none. -/
  | work (index : Nat) (now : Nat) (costId : CostRecordId)
  /-- The provider, or a panic, ends the runner of a worker. -/
  | finishRunner (index : Nat) (ending : RunnerEnd)
  /-- The controller of a run sets its token. -/
  | signal (runId : RunId)
  | requestShutdown (checkpointId : Uuid) (expectedRevision : Nat)
  | shutDown (index : Nat)
  /-- Any other step of the daemon; a restart ends the process. -/
  | store (action : Action)

/-- The ends a provider brings about. -/
def RunnerEnd.byProvider : RunnerEnd → Bool
  | .cancelled | .cleanedUp _ _ | .terminal _ _ _ _ _ | .failed => true
  | .rejected | .unsupported | .permissionDenied => false

namespace GraphExecutor

def start (process : DaemonProcess) : GraphExecutor :=
  ⟨process, [], [], [], [], 0⟩

/-- `has_active`. -/
def hasActive (self : GraphExecutor) : Bool :=
  decide (self.active ≠ 0)

def setRequest (self : GraphExecutor) (index : Nat) (request : ExecuteRequest) (phase : ExecutePhase) : GraphExecutor :=
  { self with requests := self.requests.set index { request with phase } }

def setLaunch (self : GraphExecutor) (position : Nat) (launch : Launch) : GraphExecutor :=
  { self with launches := self.launches.set position launch }

/-- `RunControllerRegistry::unregister`. -/
def unregister (self : GraphExecutor) (runId : RunId) : GraphExecutor :=
  { self with registry := self.registry.filter fun other => other ≠ runId }

variable [Sha256] [SerdeJson]

section Handler

/-- The catalog, at the revision the client expects. -/
def readCatalog (db : Database) (command : ExecuteReadyGraphCommand) : StoreResult IdentityCatalog := do
  let catalog ← loadCatalog db
  expectRevision command.expectedCatalogRevision db.identity.revision
  return catalog

/-- The execution, at the revision the client expects, and the nodes that are ready. -/
def readGraph (db : Database) (executionId : GraphRunId) (command : ExecuteReadyGraphCommand) :
    StoreResult (GraphExecution × List GraphNodeId) := do
  let execution ← graphExecution db executionId
  expectRevision command.expectedGraphRevision execution.revision
  let ready ← lift .invalidGraph (execution.claimReady "daemon-provider-readiness" 2).1
  reject ready.isEmpty (.invalidGraph .invalidExecution)
  return (execution, ready)

/-- The bindings of the nodes that are ready. -/
def readBindings (db : Database) (catalog : IdentityCatalog) (execution : GraphExecution) (ready : List GraphNodeId) :
    StoreResult (List (GraphNodeId × ProviderRunBinding)) := do
  validateM3Catalog db.m3.content db.identity.content
  let bindings ← ready.mapM (resolveProviderRunBinding catalog db.m3.content execution)
  return ready.zip bindings

/-- The revisions the next run is begun at: those the client expects, or those the last run left. -/
def beginCommand (request : ExecuteRequest) (nodeId : GraphNodeId) (previous : Option BeginGraphNodeRunReceipt) :
    BeginGraphNodeRunCommand where
  expectedCatalogRevision := previous.elim request.command.expectedCatalogRevision (·.catalogRevision)
  expectedGraphRevision := previous.elim request.command.expectedGraphRevision (·.graphRevision)
  nodeId
  owner := providerOwner nodeId

/-- A node that is ready is begun; after the first, an error ends the loop. -/
def beginNext (self : GraphExecutor) (index : Nat) (request : ExecuteRequest) (now : Nat) (ids : RunIds)
    (nodeId : GraphNodeId) (binding : ProviderRunBinding) (pending : List (GraphNodeId × ProviderRunBinding))
    (previous : Option BeginGraphNodeRunReceipt) : GraphExecutor :=
  let command := beginCommand request nodeId previous
  let begun := { self with
    process := self.process.next (.command (.beginGraphNodeRun now ids request.executionId command (some binding))) }
  match self.process.read fun db => beginGraphNodeRunInner db now ids request.executionId command (some binding) with
  | .ok (_, receipt) =>
    ({ begun with launches := begun.launches ++ [⟨index, receipt, .begun, false, none⟩] } : GraphExecutor).setRequest index
      request (.beginning pending (some receipt))
  | .error (.error error) =>
    -- the runs begun before the error stay begun, and are started
    begun.setRequest index request (if previous.isSome then .launching [] else .answered (.error error))
  | .error (.panic _) => begun.setRequest index request .lost

/-- The next step of `ProviderExecutor::start`, or of what follows its failure, for a run that was begun. -/
def startNext (self : GraphExecutor) (index : Nat) (request : ExecuteRequest) (means : Means) (runIds : List RunId)
    (position : Nat) (launch : Launch) : GraphExecutor :=
  let accepted := fun executor : GraphExecutor => executor.setRequest index request (.launching (runIds ++ [launch.runId]))
  match launch.phase with
  | .begun =>
    if launch.selectsAccount then accepted (self.setLaunch position { launch with phase := .intent })
    -- `register` refuses a run that has a controller
    else if launch.runId ∈ self.registry then self.setLaunch position { launch with phase := .failing .catalog }
    else ({ self with registry := self.registry ++ [launch.runId] } : GraphExecutor).setLaunch position { launch with phase := .registered }
  | .registered => { self with active := self.active + 1 }.setLaunch position { launch with phase := .counted }
  | .counted =>
    if means.spawns then accepted (self.setLaunch position { launch with phase := .spawned })
    else self.setLaunch position { launch with phase := .unspawned }
  | .unspawned => { self with active := self.active - 1 }.setLaunch position { launch with phase := .uncounted }
  -- what was registered and counted is undone before `persist_start_failure`
  | .uncounted => (self.unregister launch.runId).setLaunch position { launch with phase := .failing .catalog }
  | .failing stage =>
    let stepped := persistStep self.process launch.receipt .unavailable means.now means.costId stage
    { self with process := stepped.1 }.setLaunch position { launch with phase := stepped.2.elim .abandoned .failing }
  | _ => self

/-- `execute_ready_graph`, step by step. -/
def handle (self : GraphExecutor) (index : Nat) (means : Means) : GraphExecutor :=
  match self.requests[index]? with
  | none => self
  | some request =>
    let put := self.setRequest index request
    match request.phase with
    | .arrived => put (.ofResult (fun _ => .serving)
        (self.process.read fun db => reject (decide (db.daemon.lifecycle ≠ .ready))
          (.invalidLifecycle .ready db.daemon.lifecycle)))
    | .serving => put (.ofResult .catalogRead (self.process.read fun db => readCatalog db request.command))
    | .catalogRead catalog => put (.ofResult (fun (execution, ready) => .graphRead catalog execution ready)
        (self.process.read fun db => readGraph db request.executionId request.command))
    | .graphRead catalog execution ready => put (.ofResult (fun pending => .beginning pending none)
        (self.process.read fun db => readBindings db catalog execution ready))
    | .beginning [] _ => put (.launching [])
    | .beginning ((nodeId, binding) :: pending) previous =>
      self.beginNext index request means.now means.ids nodeId binding pending previous
    | .launching runIds =>
      match self.launches.findIdx? fun launch => launch.request = index && launch.phase.starting with
      | none => put (.answered (if runIds.isEmpty then .error .runControlRejected else .ok runIds))
      | some position => (self.launches[position]?).elim self (self.startNext index request means runIds position)
    | .answered _ | .lost => self

end Handler

section Worker

/-- The worker of a run, and `SystemProviderRunner::run` as far as the provider. -/
def work (self : GraphExecutor) (position : Nat) (now : Nat) (costId : CostRecordId) : GraphExecutor :=
  match self.launches[position]? with
  | none => self
  | some launch =>
    let receipt := launch.receipt
    let put := self.setLaunch position
    match launch.phase with
    | .spawned => put (if launch.cancelled then launch.drain .cancelled else { launch with phase := .preflighting })
    | .preflighting =>
      if isOk (self.process.read fun db => preflightProviderLaunch db receipt) then put { launch with phase := .entered }
      else put (launch.drain (if launch.cancelled then .cancelled else .unavailable))
    | .entered =>
      if receipt.launchIdentity.all (fun identity => identity.account.isSome) then
        put (launch.drain (.blocked .unsupported "adapter.failure.unsupported"))
      else if isOk (self.process.read fun db => preflightProviderLaunch db receipt) then
        put { launch with phase := .authorising }
      else put (launch.drain (.blocked .permissionDenied "adapter.failure.permission_denied"))
    | .authorising =>
      let authorised := self.process.read fun db => do
        let plan ← ProviderLaunchPlan.load db receipt.runId
        plan.validateOnlineCliRequirements
      if !isOk authorised then put (launch.drain (.blocked .permissionDenied "adapter.failure.permission_denied"))
      else if receipt.adapterKind = "codex_cli" ∨ receipt.adapterKind = "agy_cli" then
        put { launch with phase := .atProvider }
      else put (launch.drain .unavailable)
    | .draining => put { launch with phase := .persisting .catalog }
    | .persisting stage =>
      let stepped := persistStep self.process receipt (launch.outcome.getD .unavailable) now costId stage
      { self with process := stepped.1 }.setLaunch position { launch with phase := stepped.2.elim .closing .persisting }
    -- the registration guard is dropped last: the controller goes before the count
    | .closing => (self.unregister launch.runId).setLaunch position { launch with phase := .unregistered }
    | .unregistered => { self with active := self.active - 1 }.setLaunch position { launch with phase := .gone }
    | _ => self

/-- The provider ends the runner: it can say that it was cancelled only after the token was set. -/
def finishRunner (self : GraphExecutor) (position : Nat) (ending : RunnerEnd) : GraphExecutor :=
  match self.launches[position]? with
  | none => self
  | some launch =>
    match launch.phase, ending.byProvider, ending.outcome launch.cancelled with
    | .atProvider, true, some outcome => self.setLaunch position (launch.drain outcome)
    | _, _, _ => self

/-- The token of a run whose controller is registered. -/
def signal (self : GraphExecutor) (runId : RunId) : GraphExecutor :=
  match self.launches.findIdx? fun launch => launch.runId = runId && launch.isRegistered with
  | none => self
  | some position =>
    (self.launches[position]?).elim self fun launch => self.setLaunch position { launch with cancelled := true }

end Worker

/-- The handler of `shutdown`, step by step. -/
def shutDown (self : GraphExecutor) (index : Nat) : GraphExecutor :=
  match self.shutdowns[index]? with
  | none => self
  | some request =>
    let put := fun (executor : GraphExecutor) phase =>
      { executor with shutdowns := executor.shutdowns.set index { request with phase } }
    match request.phase with
    | .arrived => put self (if self.hasActive then .answered (.error .providerRunsActive) else .unopposed)
    | .unopposed =>
      let command := .shutdown request.checkpointId request.expectedRevision
      put { self with process := self.process.next (.command command) }
        (match self.process.read fun db => execute db command with
        | .ok _ => .answered (.ok ())
        | .error (.error error) => .answered (.error error)
        | .error (.panic _) => .lost)
    | .answered _ | .lost => self

def next (self : GraphExecutor) : ExecutorAction → GraphExecutor
  | .request executionId command => { self with requests := self.requests ++ [⟨executionId, command, .arrived⟩] }
  | .handle index means => self.handle index means
  | .work position now costId => self.work position now costId
  | .finishRunner position ending => self.finishRunner position ending
  | .signal runId => self.signal runId
  | .requestShutdown checkpointId expectedRevision =>
    { self with shutdowns := self.shutdowns ++ [⟨checkpointId, expectedRevision, .arrived⟩] }
  | .shutDown index => self.shutDown index
  | .store (.restart now) =>
    { process := self.process.next (.restart now)
      requests := self.requests.map fun request => if request.phase.closed then request else { request with phase := .lost }
      launches := self.launches.map Launch.lose
      shutdowns := self.shutdowns.map fun request => { request with phase :=
        match request.phase with
        | .answered result => .answered result
        | _ => .lost }
      registry := []
      active := 0 }
  | .store action => { self with process := self.process.next action }

/-- The executor after a list of actions. -/
def run (self : GraphExecutor) (actions : List ExecutorAction) : GraphExecutor :=
  Machine.run next self actions

end GraphExecutor

end Bastet.Daemon
