import Bastet.Daemon.ProviderExecutor

/-! The cancel requests on one run and the worker of the run, as one machine. A request
reaches the worker through a channel of one slot, asks its runner to stop by a token that
stays set, and waits for an acknowledgement on a channel of its own. -/

set_option autoImplicit false

namespace Bastet.Daemon

open Fallible Bastet.Core

/-- `CANCEL_ACK_TIMEOUT`, in milliseconds. -/
def cancelAckTimeout : Nat := 2000

/-- `Ok` or `Err` of a cancel request. -/
inductive CancelAnswer where
  | accepted
  | refused
  deriving DecidableEq, Repr

inductive CancelPhase where
  /-- No launch waits for the run. -/
  | routed
  /-- `preflight_provider_cancel` has passed. -/
  | checked
  /-- The registry is locked for reading, and has the controller of the run. -/
  | entered
  /-- The request is in the channel; the token is not set for it yet. -/
  | sent
  /-- In `recv_timeout`, since a reading of the clock. -/
  | waiting (since : Nat)
  /-- The controller has returned `Ok`; the cancellation is not recorded yet. -/
  | confirmed
  | answered (answer : CancelAnswer)
  /-- The connection has ended with the process. -/
  | lost
  deriving DecidableEq, Repr

namespace CancelPhase

/-- The registry is locked for reading until the controller returns. -/
def holdsLock : CancelPhase → Bool
  | .entered | .sent | .waiting _ => true
  | _ => false

/-- The receiver of the acknowledgement is there. -/
def listens : CancelPhase → Bool
  | .sent | .waiting _ => true
  | _ => false

def closed : CancelPhase → Bool
  | .answered _ | .lost => true
  | _ => false

end CancelPhase

structure CancelRequest where
  expectedCatalogRevision : Nat
  phase : CancelPhase
  /-- The slot of its own channel. -/
  acknowledgement : Option CancelAnswer
  deriving DecidableEq, Repr

namespace CancelRequest

def refuse (self : CancelRequest) : CancelRequest :=
  { self with phase := .answered .refused }

/-- `acknowledgement.try_send`. -/
def acknowledge (answer : CancelAnswer) (self : CancelRequest) : CancelRequest :=
  if self.phase.listens && self.acknowledgement.isNone then { self with acknowledgement := some answer } else self

/-- The controller returns what it has received, and an error when that is nothing. -/
def settle (self : CancelRequest) : CancelRequest :=
  match self.acknowledgement with
  | some .accepted => { self with phase := .confirmed }
  | _ => self.refuse

/-- A request whose wait is over at a reading of the clock. -/
def overdue (clock : Nat) (self : CancelRequest) : Bool :=
  match self.phase with
  | .waiting since => decide (since + cancelAckTimeout ≤ clock)
  | _ => false

/-- The process ends. -/
def lose (self : CancelRequest) : CancelRequest :=
  if self.phase.closed then self else { self with phase := .lost }

end CancelRequest

inductive WorkerPhase where
  | running
  /-- In the loop of `try_recv`. -/
  | draining
  | persisting (stage : PersistStage)
  /-- The registration is about to be dropped. -/
  | closing
  /-- The receiver of the channel is about to be dropped. -/
  | unregistered
  | gone
  deriving DecidableEq, Repr

/-- A worker persists stage after stage, and closes when there is none. -/
def WorkerPhase.persist : Option PersistStage → WorkerPhase
  | some stage => .persisting stage
  | none => .closing

structure RunControl where
  process : DaemonProcess
  receipt : BeginGraphNodeRunReceipt
  worker : WorkerPhase
  /-- What the runner has left. -/
  outcome : Option ProviderOutcome
  /-- The registry has the controller of the run. -/
  registered : Bool
  /-- The token. -/
  cancelled : Bool
  /-- The request in the channel. -/
  channel : Option Nat
  requests : List CancelRequest
  /-- Milliseconds. -/
  clock : Nat

inductive ControlAction where
  /-- A request arrives: `cancel_staged_run` comes first. -/
  | request (now expectedCatalogRevision : Nat)
  | preflight (index : Nat)
  | enter (index : Nat)
  | send (index : Nat)
  | signal (index : Nat)
  | receive (index : Nat)
  | record (now index : Nat)
  | elapse (milliseconds : Nat)
  | finishRunner (ending : RunnerEnd)
  | drain
  | persist (now : Nat) (costId : CostRecordId)
  | unregister
  | release
  /-- Any other step of the daemon. -/
  | store (action : Action)

/-- The run a step of the daemon finishes. -/
def Action.finishes : Action → Option RunId
  | .command (.finishGraphNodeRun _ _ _ submitted) => some submitted.runId
  | _ => none

namespace RunControl

/-- `ProviderExecutor::start`: the controller is registered and the worker runs. -/
def start (process : DaemonProcess) (receipt : BeginGraphNodeRunReceipt) : RunControl :=
  ⟨process, receipt, .running, none, true, false, none, [], 0⟩

/-- The request at an index, if it is in a phase. -/
def requestIn? (self : RunControl) (index : Nat) (phase : CancelPhase) : Option CancelRequest :=
  self.requests[index]?.filter fun request => request.phase = phase

def update (self : RunControl) (index : Nat) (change : CancelRequest → CancelRequest) : RunControl :=
  { self with requests := self.requests.modify index change }

def moveTo (self : RunControl) (index : Nat) (phase : CancelPhase) : RunControl :=
  self.update index fun request => { request with phase }

/-- A request takes a step out of a phase. -/
def inPhase (self : RunControl) (index : Nat) (phase : CancelPhase) (step : CancelRequest → RunControl) : RunControl :=
  match self.requestIn? index phase with
  | some request => step request
  | none => self

variable [Sha256] [SerdeJson]

/-- `cancel_staged_run` answers a request when the launch of the run waits. -/
def routeRequest (self : RunControl) (now expectedCatalogRevision : Nat) : CancelPhase :=
  match self.process.read fun db => cancelStagedRun db now self.receipt.runId expectedCatalogRevision with
  | .ok (_, some _) => .answered .accepted
  | .ok (_, none) => .routed
  | .error _ => .answered .refused

def next (self : RunControl) : ControlAction → RunControl
  | .request now expectedCatalogRevision =>
    { self with
      process := self.process.next (.command (.cancelStagedRun now self.receipt.runId expectedCatalogRevision))
      requests := self.requests ++
        [⟨expectedCatalogRevision, self.routeRequest now expectedCatalogRevision, none⟩] }
  | .preflight index => self.inPhase index .routed fun request =>
    match self.process.read fun db => preflightProviderCancel db self.receipt.runId request.expectedCatalogRevision with
    | .ok _ => self.moveTo index .checked
    | .error _ => self.update index .refuse
  | .enter index => self.inPhase index .checked fun _ =>
    if self.registered then self.moveTo index .entered else self.update index .refuse
  | .send index => self.inPhase index .entered fun _ =>
    -- `try_send` fails on a full slot, and when the receiver has been dropped
    if self.channel.isNone ∧ self.worker ≠ .gone then
      { self with channel := some index }.moveTo index .sent
    else self.update index .refuse
  | .signal index => self.inPhase index .sent fun _ =>
    { self with cancelled := true }.moveTo index (.waiting self.clock)
  | .receive index =>
    match self.requests[index]? with
    | some ⟨_, .waiting _, acknowledgement⟩ =>
      -- the sender is in the channel with the request, and is dropped after it is used
      if acknowledgement.isSome ∨ self.channel ≠ some index then self.update index .settle else self
    | _ => self
  | .record now index => self.inPhase index .confirmed fun _ =>
    let answer := if isOk (self.process.read fun db => recordProviderCancelAfterPreflight db now self.receipt.runId)
      then .accepted else .refused
    { self with
      process := self.process.next (.command (.recordProviderCancelAfterPreflight now self.receipt.runId)) }.moveTo
      index (.answered answer)
  | .elapse milliseconds =>
    { self with
      clock := self.clock + milliseconds
      requests := self.requests.map fun request =>
        if request.overdue (self.clock + milliseconds) then request.settle else request }
  | .finishRunner ending =>
    match self.worker, ending.outcome self.cancelled with
    | .running, some outcome => { self with worker := .draining, outcome := some outcome }
    | _, _ => self
  | .drain =>
    match self.worker, self.outcome, self.channel with
    | .draining, some outcome, some index =>
      { self with channel := none }.update index
        (.acknowledge (if outcome.terminalState = NormalizedRunState.cancelled then .accepted else .refused))
    | .draining, some _, none => { self with worker := .persisting .catalog }
    | _, _, _ => self
  | .persist now costId =>
    match self.worker, self.outcome with
    | .persisting stage, some outcome =>
      let (process, later) := persistStep self.process self.receipt outcome now costId stage
      { self with process, worker := .persist later }
    | _, _ => self
  | .unregister =>
    -- the registry is written when no request reads it
    if self.worker = .closing ∧ ∀ request ∈ self.requests, request.phase.holdsLock = false then
      { self with worker := .unregistered, registered := false }
    else self
  | .release =>
    if self.worker = .unregistered then { self with worker := .gone, channel := none } else self
  | .store (.restart now) =>
    { self with
      process := self.process.next (.restart now)
      worker := .gone
      registered := false
      channel := none
      requests := self.requests.map .lose }
  | .store action => { self with process := self.process.next action }

def run (self : RunControl) (actions : List ControlAction) : RunControl :=
  Machine.run next self actions

omit [Sha256] [SerdeJson] in
/-- The worker is the only one that finishes its run. -/
def WorkerFinishes (self : RunControl) : ControlAction → Prop
  | .store action => action.finishes ≠ some self.receipt.runId
  | _ => True

end RunControl

end Bastet.Daemon
