import Bastet.Daemon.Recovery
import Bastet.Library.Machine

/-! The daemon as a machine. A command is one transaction of the store: it commits, or
leaves the database as it was. Times and random identifiers are part of a command. -/

set_option autoImplicit false

namespace Bastet.Daemon

open Fallible Bastet.Core

inductive Command where
  | replaceCatalog (command : ReplaceCatalogCommand)
  | replaceM3Catalog (command : ReplaceM3CatalogCommand)
  | prepareMvp (ids : MvpDraftIds) (directory : Bool) (command : PrepareMvpCommand)
  | acceptMvpDecision (now : Nat) (ids : DecisionIds) (command : AcceptDecisionBaselineCommand)
  | createMvpDocument (now : Nat) (artifactId : ArtifactId) (versionId : ArtifactVersionId)
      (command : CreateDocumentCommand)
  | acceptMvpDocument (command : AcceptDocumentCommand)
  | prepareKnowledgeDelivery (now : Nat) (deliveryId : KnowledgeDeliveryId)
      (command : PrepareKnowledgeDeliveryCommand)
  | completeKnowledgeDelivery (command : CompleteKnowledgeDeliveryCommand)
  | recordCost (command : RecordCostCommand)
  | recordProviderRunning (now : Nat) (runId : RunId) (providerSessionId : Option String)
  | recordProviderCancelAfterPreflight (now : Nat) (runId : RunId)
  | recordProviderCancelAccepted (now : Nat) (runId : RunId) (expectedCatalogRevision : Nat)
  | createGraphExecution (now : Nat) (execution : GraphExecution)
  | restartMissingOutputGraph (now : Nat) (restartedId originalId : GraphRunId) (expectedGraphRevision : Nat)
  | retryFailedGraphNode (now : Nat) (id : GraphRunId) (command : RetryFailedGraphNodeCommand)
  | claimGraphNodes (now : Nat) (id : GraphRunId) (expectedRevision : Nat) (owner : String) (limit : Nat)
  | completeGraphNode (now : Nat) (id : GraphRunId) (expectedRevision : Nat) (nodeId : GraphNodeId) (owner : String)
      (succeeded : Bool)
  | beginGraphNodeRun (now : Nat) (ids : RunIds) (id : GraphRunId) (command : BeginGraphNodeRunCommand)
      (expectedBinding : Option ProviderRunBinding)
  | finishGraphNodeRun (now : Nat) (costId : CostRecordId) (id : GraphRunId) (command : FinishGraphNodeRunCommand)
  | createApproval (now : Nat) (request : ApprovalRequest)
  | decideApproval (now : Nat) (command : DecideApprovalCommand)
  | expireStagedLaunches (now : Nat)
  | cancelStagedRun (now : Nat) (runId : RunId) (expectedRevision : Nat)
  | consumeCredentialGrant (now : Nat) (id : ApprovalRequestId) (action : ApprovalAction)
  | revokeCredentialGrant (now : Nat) (id : ApprovalRequestId) (actor : String)
  | enterReady
  | checkpoint (checkpointId : Uuid) (expectedRevision : Nat)
  | shutdown (checkpointId : Uuid) (expectedRevision : Nat)
  | suspend (checkpointId : Uuid) (expectedRevision : Nat)
  | resume (expectedRevision : Nat)

variable [Sha256] [SerdeJson]

/-- The database a command commits. -/
def execute (db : Database) : Command → StoreResult Database
  | .replaceCatalog command => do return (← replaceCatalog db command).1
  | .replaceM3Catalog command => do return (← replaceM3Catalog db command).1
  | .prepareMvp ids directory command => do return (← prepareMvp db ids directory command).1
  | .acceptMvpDecision now ids command => do return (← acceptMvpDecision db now ids command).1
  | .createMvpDocument now artifactId versionId command => do
    return (← createMvpDocument db now artifactId versionId command).1
  | .acceptMvpDocument command => do return (← acceptMvpDocument db command).1
  | .prepareKnowledgeDelivery now deliveryId command => do
    return (← prepareKnowledgeDelivery db now deliveryId command).1
  | .completeKnowledgeDelivery command => do return (← completeKnowledgeDelivery db command).1
  | .recordCost command => do return (← recordCost db command).1
  | .recordProviderRunning now runId providerSessionId => do
    return (← recordProviderRunning db now runId providerSessionId).1
  | .recordProviderCancelAfterPreflight now runId => do
    return (← recordProviderCancelAfterPreflight db now runId).1
  | .recordProviderCancelAccepted now runId expectedCatalogRevision => do
    return (← recordProviderCancelAccepted db now runId expectedCatalogRevision).1
  | .createGraphExecution now execution => do return (← createGraphExecution db now execution).1
  | .restartMissingOutputGraph now restartedId originalId expectedGraphRevision => do
    return (← restartMissingOutputGraph db now restartedId originalId expectedGraphRevision).1
  | .retryFailedGraphNode now id command => do return (← retryFailedGraphNode db now id command).1
  | .claimGraphNodes now id expectedRevision owner limit => do
    return (← claimGraphNodes db now id expectedRevision owner limit).1
  | .completeGraphNode now id expectedRevision nodeId owner succeeded => do
    return (← completeGraphNode db now id expectedRevision nodeId owner succeeded).1
  | .beginGraphNodeRun now ids id command expectedBinding => do
    return (← beginGraphNodeRunInner db now ids id command expectedBinding).1
  | .finishGraphNodeRun now costId id command => do return (← finishGraphNodeRun db now costId id command).1
  | .createApproval now request => do return (← createApproval db now request).1
  | .decideApproval now command => do return (← decideApproval db now command).1
  | .expireStagedLaunches now => expireStagedLaunches db now
  | .cancelStagedRun now runId expectedRevision => do return (← cancelStagedRun db now runId expectedRevision).1
  | .consumeCredentialGrant now id action => do return (← consumeCredentialGrant db now id action).1
  | .revokeCredentialGrant now id actor => do return (← revokeCredentialGrant db now id actor).1
  | .enterReady => do return (← transition db .ready "daemon.ready").1
  | .checkpoint checkpointId expectedRevision => do return (← checkpoint db checkpointId expectedRevision).1
  | .shutdown checkpointId expectedRevision => do return (← shutdown db checkpointId expectedRevision).1
  | .suspend checkpointId expectedRevision => do return (← suspend db checkpointId expectedRevision).1
  | .resume expectedRevision => do return (← resume db expectedRevision).1

/-- The process that serves the store: at work, with a lock a panic has poisoned, or not
started because its recovery failed. -/
inductive Service where
  | serving
  | poisoned
  | stopped
  deriving DecidableEq, Repr

structure DaemonProcess where
  db : Database
  service : Service
  /-- The dispatch claims of this process whose credential has not been looked up yet. -/
  opportunities : List (ApprovalRequestId × RunId)
  /-- The runs of this process whose lookup failed. -/
  failures : List RunId
  /-- History: the native lookups, by the request they were for. -/
  lookups : List ApprovalRequestId
  /-- History: the executions that a decision or a restart for missing output created. -/
  created : List GraphRunId

inductive Action where
  | command (command : Command)
  /-- The transaction of `prepare_staged_credentials`. -/
  | claim (now : Nat) (readable : ProviderCredentialSelection → Bool) (requestId : ApprovalRequestId)
  /-- Its native lookup. -/
  | lookUp (requestId : ApprovalRequestId) (succeeds : Bool)
  /-- Its transaction after a lookup that failed. -/
  | failClaim (now : Nat) (runId : RunId)
  | restart (now : Nat)

omit [Sha256] [SerdeJson] in
/-- The execution a command creates when it commits. -/
def Command.creates : Command → Option GraphRunId
  | .acceptMvpDecision _ ids _ => some ids.executionId
  | .restartMissingOutputGraph _ restartedId _ _ => some restartedId
  | _ => none

namespace DaemonProcess

omit [Sha256] [SerdeJson] in
def fresh : DaemonProcess :=
  ⟨Database.fresh, .serving, [], [], [], []⟩

omit [Sha256] [SerdeJson] in
/-- Commit what a transaction returns; an assertion that fails inside it poisons the lock. -/
def commit {α : Type} (self : DaemonProcess) (result : StoreResult α) (committed : α → DaemonProcess) : DaemonProcess :=
  match self.service, result with
  | .serving, .ok value => committed value
  | .serving, .error (.panic _) => { self with service := .poisoned }
  | _, _ => self

omit [Sha256] [SerdeJson] in
/-- The execution is stored now and was not before. -/
def newExecution (before after : Database) (id : GraphRunId) : Bool :=
  (before.graphs.find? id).isNone && (after.graphs.find? id).isSome

def next (self : DaemonProcess) : Action → DaemonProcess
  | .command command =>
    self.commit (execute self.db command) fun db =>
      { self with db, created := self.created ++ command.creates.toList.filter (newExecution self.db db) }
  | .claim now readable requestId =>
    self.commit (claimStagedDispatch self.db now readable requestId) fun (db, claim) =>
      { self with db, opportunities := self.opportunities ++ [(requestId, claim.receipt.runId)] }
  | .lookUp requestId succeeds =>
    match self.opportunities.find? fun opportunity => opportunity.1 = requestId with
    | none => self
    | some opportunity =>
      { self with
        opportunities := self.opportunities.erase opportunity
        lookups := self.lookups ++ [requestId]
        failures := if succeeds then self.failures else self.failures ++ [opportunity.2] }
  | .failClaim now runId =>
    if runId ∈ self.failures then
      self.commit (failDispatchClaim self.db now runId) fun db =>
        { self with db, failures := self.failures.erase runId }
    else self
  | .restart now =>
    match reopen self.db now with
    | .ok db => { self with db, service := .serving, opportunities := [], failures := [] }
    | .error _ => { self with service := .stopped, opportunities := [], failures := [] }

/-- The daemon after a list of actions. -/
def run (self : DaemonProcess) (actions : List Action) : DaemonProcess :=
  Machine.run next self actions

end DaemonProcess

end Bastet.Daemon
