import Bastet.Daemon.Commands

/-! The worker of one provider run: the outcome its runner leaves, and the loop that
records it against the newest revisions of the store. -/

set_option autoImplicit false

namespace Bastet.Daemon

open Fallible Bastet.Core

structure ProviderOutcome where
  terminalState : NormalizedRunState
  providerSessionId : Option String
  cost : CostEvidence
  outputMarkdown : Option String
  failure : Option AdapterFailure
  deriving DecidableEq, Repr

def unknownCost : CostEvidence :=
  ⟨.unknown, none, none, none, none, .finite 0⟩

namespace ProviderOutcome

def cancelled : ProviderOutcome :=
  ⟨.cancelled, none, unknownCost, none, some ⟨.cancelled, "adapter.failure.cancelled", false, none, none⟩⟩

def cancelledWithEvidence (providerSessionId : Option String) (cost : CostEvidence) : ProviderOutcome :=
  { cancelled with providerSessionId, cost }

def unavailable : ProviderOutcome :=
  ⟨.uncertain, none, unknownCost, none, some ⟨.unknown, "mvp.failure.unknown", false, none, none⟩⟩

/-- A launch the runner refuses before it looks for a provider. -/
def blocked (kind : AdapterFailureKind) (messageKey : String) : ProviderOutcome :=
  ⟨.blocked, none, unknownCost, none, some ⟨kind, messageKey, false, none, none⟩⟩

/-- A provider that says it succeeded and leaves no output has failed. -/
def outcome (terminalState : NormalizedRunState) (providerSessionId : Option String) (cost : CostEvidence)
    (output : Option String) (failure : Option AdapterFailure) : ProviderOutcome :=
  let outputMissing := decide (terminalState = .succeeded) && output.all isBlank
  { terminalState := if outputMissing then .failed else terminalState
    providerSessionId
    cost
    outputMarkdown := output
    failure :=
      if outputMissing then some ⟨.malformedOutput, "mvp.failure.invalid_output", true, none, none⟩ else failure }

/-- The output goes with a run that succeeded or failed. -/
def withoutStrayOutput (self : ProviderOutcome) : ProviderOutcome :=
  if self.terminalState = .succeeded ∨ self.terminalState = .failed then self
  else { self with outputMarkdown := none }

@[simp] theorem withoutStrayOutput_terminalState (self : ProviderOutcome) :
    self.withoutStrayOutput.terminalState = self.terminalState := by
  unfold withoutStrayOutput
  split <;> rfl

end ProviderOutcome

/-- How the runner of a worker comes to its end. -/
inductive RunnerEnd where
  /-- The token is seen before the provider has a session. -/
  | cancelled
  /-- The token is seen at work, and the cleanup is confirmed. -/
  | cleanedUp (providerSessionId : Option String) (cost : CostEvidence)
  /-- `preflight_provider_launch` fails. -/
  | rejected
  | unsupported
  | permissionDenied
  /-- The provider reports its terminal state. -/
  | terminal (state : NormalizedRunState) (providerSessionId : Option String) (cost : CostEvidence)
      (output : Option String) (failure : Option AdapterFailure)
  /-- An error of the provider or of its cleanup, or a panic. -/
  | failed
  deriving DecidableEq, Repr

/-- The outcome of an end, where it can come about: only a set token ends a runner as cancelled, and only a
terminal state is reported as one. -/
def RunnerEnd.outcome (cancelled : Bool) : RunnerEnd → Option ProviderOutcome
  | .cancelled => if cancelled then some .cancelled else none
  | .cleanedUp providerSessionId cost =>
    if cancelled then some (.cancelledWithEvidence providerSessionId cost) else none
  | .rejected => some (if cancelled then .cancelled else .unavailable)
  | .unsupported => some (.blocked .unsupported "adapter.failure.unsupported")
  | .permissionDenied => some (.blocked .permissionDenied "adapter.failure.permission_denied")
  | .terminal state providerSessionId cost output failure =>
    if state.isTerminal then some (.outcome state providerSessionId cost output failure) else none
  | .failed => some .unavailable

section Persist

/-- A read through the store's lock. -/
def DaemonProcess.read {α : Type} (self : DaemonProcess) (query : Database → StoreResult α) : StoreResult α :=
  if self.service = .serving then query self.db else .error (.error .poisoned)

/-- What `persist_outcome` has read when it takes its next step. -/
inductive PersistStage where
  | catalog
  | m3 (catalogRevision : Nat)
  | graph (catalogRevision m3Revision : Nat)
  | finish (catalogRevision m3Revision graphRevision : Nat)
  deriving DecidableEq, Repr

/-- After a read: the next one, the first one again, or none because the error is final. -/
def afterRead (proceed : Nat → PersistStage) : StoreResult Nat → Option PersistStage
  | .ok revision => some (proceed revision)
  | .error (.error .database) | .error (.error .poisoned) => some .catalog
  | .error _ => none

/-- After the command: the reads begin again on a conflict and on an error of the database. -/
def afterFinish {α : Type} : StoreResult α → Option PersistStage
  | .error (.error (.revisionConflict _ _)) | .error (.error .database) | .error (.error .poisoned) => some .catalog
  | _ => none

def providerOwner (nodeId : GraphNodeId) : String :=
  "daemon-provider-" ++ Json.uuidText nodeId.value

def finishCommand (receipt : BeginGraphNodeRunReceipt) (outcome : ProviderOutcome)
    (catalogRevision m3Revision graphRevision : Nat) : FinishGraphNodeRunCommand where
  expectedCatalogRevision := catalogRevision
  expectedGraphRevision := graphRevision
  expectedM3Revision := m3Revision
  nodeId := receipt.nodeId
  runId := receipt.runId
  owner := providerOwner receipt.nodeId
  terminalState := outcome.terminalState
  failure := outcome.failure
  providerSessionId := outcome.providerSessionId
  outputMarkdown := outcome.outputMarkdown
  cost := outcome.cost

variable [Sha256] [SerdeJson]

omit [Sha256] [SerdeJson] in
/-- `Store::catalog`, as far as its revision is used. -/
def catalogRevision (db : Database) : StoreResult Nat := do
  lift .invalidCatalog db.identity.content.validate
  return db.identity.revision

omit [Sha256] [SerdeJson] in
/-- `Store::m3_catalog`, as far as its revision is used. -/
def m3Revision (db : Database) : StoreResult Nat := do
  validateM3Catalog db.m3.content db.identity.content
  return db.m3.revision

/-- One access of `persist_outcome` to the store, with the stage it leaves; none when it returns. -/
def persistStep (process : DaemonProcess) (receipt : BeginGraphNodeRunReceipt) (outcome : ProviderOutcome) (now : Nat)
    (costId : CostRecordId) : PersistStage → DaemonProcess × Option PersistStage
  | .catalog => (process, afterRead .m3 (process.read catalogRevision))
  | .m3 catalog => (process, afterRead (.graph catalog) (process.read m3Revision))
  | .graph catalog m3 =>
    (process, afterRead (.finish catalog m3)
      (process.read fun db => (graphExecution db receipt.executionId).map (·.revision)))
  | .finish catalog m3 graph =>
    let command := finishCommand receipt outcome.withoutStrayOutput catalog m3 graph
    (process.next (.command (.finishGraphNodeRun now costId receipt.executionId command)),
      afterFinish (process.read fun db => finishGraphNodeRun db now costId receipt.executionId command))

end Persist

end Bastet.Daemon
