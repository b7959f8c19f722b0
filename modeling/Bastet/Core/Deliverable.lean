import Bastet.Library.Lookup
import Bastet.Core.Graph

/-! What a project delivers: versioned documents, cost records and knowledge deliveries. -/

set_option autoImplicit false

namespace Bastet.Core

open Fallible

structure DocumentVersion where
  id : ArtifactVersionId
  version : Nat
  parentId : Option ArtifactVersionId
  markdown : String
  contentHash : String
  sourceNodeIds : List GraphNodeId
  sourceExecutionId : Option GraphRunId
  sourceJoinNodeId : Option GraphNodeId
  sourceJoinOutputHash : Option String
  acceptedBy : Option String
  acceptedAt : Option String
  deriving DecidableEq, Repr

structure DocumentArtifact where
  metadata : EntityMetadata ArtifactId
  projectId : ProjectId
  title : String
  versions : List DocumentVersion
  deriving DecidableEq, Repr

structure CostLedgerRecord where
  metadata : EntityMetadata CostRecordId
  projectId : ProjectId
  nodeId : GraphNodeId
  runId : RunId
  provider : String
  account : String
  model : String
  currency : Option String
  amount : Option Floating
  inputTokens : Option Nat
  outputTokens : Option Nat
  evidenceClass : EvidenceClass
  source : String
  formulaVersion : Option String
  confidence : Floating
  reconciliationState : String
  deriving DecidableEq, Repr

inductive KnowledgeTarget where
  | agentMemoryOs
  | bastetMind
  deriving DecidableEq, Repr

inductive DeliveryState where
  | prepared
  | delivered
  deriving DecidableEq, Repr

structure KnowledgeDelivery where
  metadata : EntityMetadata KnowledgeDeliveryId
  projectId : ProjectId
  artifactVersionId : ArtifactVersionId
  target : KnowledgeTarget
  preview : String
  redacted : Bool
  state : DeliveryState
  destinationReceipt : Option String
  deriving DecidableEq, Repr

structure DeliverableCatalog where
  documents : List DocumentArtifact
  costs : List CostLedgerRecord
  knowledgeDeliveries : List KnowledgeDelivery
  deriving DecidableEq, Repr

inductive DeliverableError where
  | invalidDocumentVersion
  | invalidAcceptance
  | invalidVersionChain
  | invalidJoinReceipt
  | invalidCost
  | invalidKnowledgeDelivery
  | unacceptedArtifact
  deriving DecidableEq, Repr

namespace DocumentVersion

variable [Sha256]

def hash (content : String) : String :=
  "sha256:" ++ Sha256.hex content

def create (id : ArtifactVersionId) (version : Nat) (parentId : Option ArtifactVersionId) (markdown : String)
    (sourceNodeIds : List GraphNodeId) : Except DeliverableError DocumentVersion := do
  rejectIf (decide (version = 0) || isBlank markdown) .invalidDocumentVersion
  return ⟨id, version, parentId, markdown, hash markdown, sourceNodeIds, none, none, none, none, none⟩

omit [Sha256] in
def bindJoinReceipt (self : DocumentVersion) (executionId : GraphRunId) (joinNodeId : GraphNodeId)
    (joinOutputHash : String) : Except DeliverableError DocumentVersion := do
  rejectIf (isBlank joinOutputHash || self.sourceExecutionId.isSome || self.sourceJoinNodeId.isSome ||
    self.sourceJoinOutputHash.isSome) .invalidJoinReceipt
  return { self with
    sourceExecutionId := some executionId
    sourceJoinNodeId := some joinNodeId
    sourceJoinOutputHash := some joinOutputHash }

/-- The three parts of a join receipt are all absent, or all present with a hash. -/
def receiptComplete (self : DocumentVersion) : Bool :=
  match self.sourceExecutionId, self.sourceJoinNodeId, self.sourceJoinOutputHash with
  | none, none, none => true
  | some _, some _, some hash => !isBlank hash
  | _, _, _ => false

def validateUnchanged (self : DocumentVersion) : Except DeliverableError Unit :=
  rejectIf (decide (self.version = 0) || isBlank self.markdown || decide (self.contentHash ≠ hash self.markdown) ||
    decide (self.acceptedBy.isSome ≠ self.acceptedAt.isSome) || !self.receiptComplete) .invalidDocumentVersion

def accept (self : DocumentVersion) (actor acceptedAt : String) : Except DeliverableError DocumentVersion := do
  self.validateUnchanged
  rejectIf (self.acceptedBy.isSome || isBlank actor || isBlank acceptedAt) .invalidAcceptance
  return { self with acceptedBy := some actor, acceptedAt := some acceptedAt }

end DocumentVersion

def KnowledgeDelivery.prepare (metadata : EntityMetadata KnowledgeDeliveryId) (projectId : ProjectId)
    (artifactVersionId : ArtifactVersionId) (target : KnowledgeTarget) (preview : String) :
    Except DeliverableError KnowledgeDelivery := do
  rejectIf (isBlank preview) .invalidKnowledgeDelivery
  return ⟨metadata, projectId, artifactVersionId, target, preview, true, .prepared, none⟩

def KnowledgeDelivery.recordDelivered (self : KnowledgeDelivery) (receipt : String) :
    Except DeliverableError KnowledgeDelivery := do
  rejectIf (decide (self.state ≠ .prepared) || isBlank receipt) .invalidKnowledgeDelivery
  return { self with state := .delivered, destinationReceipt := some receipt }

namespace DeliverableCatalog

/-- The versions of a document form a chain numbered from one; the state of the loop is the
version before and the place in the chain. -/
def validateVersion [Sha256] (chain : Option ArtifactVersionId × Nat) (version : DocumentVersion) :
    Except DeliverableError (Option ArtifactVersionId × Nat) := do
  version.validateUnchanged
  rejectIf (decide (version.version ≠ min (chain.2 + 1) (2 ^ 32 - 1)) || decide (version.parentId ≠ chain.1))
    .invalidVersionChain
  rejectIf (decide (version.sourceNodeIds.toFinset.card ≠ 2)) .invalidJoinReceipt
  return (some version.id, chain.2 + 1)

def validateDocument [Sha256] (document : DocumentArtifact) : Except DeliverableError Unit := do
  rejectIf (isBlank document.title || document.versions.isEmpty) .invalidDocumentVersion
  let _ ← foldEach validateVersion document.versions (none, 0)

/-- The ids of all accepted versions. -/
def acceptedVersions (self : DeliverableCatalog) : List ArtifactVersionId :=
  (self.documents.flatMap fun document => document.versions.filter fun version => version.acceptedBy.isSome).map (·.id)

def costInvalid (cost : CostLedgerRecord) : Bool :=
  isBlank cost.provider || isBlank cost.account || isBlank cost.model || isBlank cost.source ||
    isBlank cost.reconciliationState || !cost.confidence.inUnitInterval ||
    (cost.amount.any fun amount => !amount.isFinite || amount.isNegative) ||
    (decide (cost.evidenceClass = .unknown) &&
      (cost.amount.isSome || cost.inputTokens.isSome || cost.outputTokens.isSome))

def deliveryInvalid (delivery : KnowledgeDelivery) : Bool :=
  isBlank delivery.preview || !delivery.redacted ||
    match delivery.state with
    | .prepared => delivery.destinationReceipt.isSome
    | .delivered => delivery.destinationReceipt.all isBlank

def validateDelivery (self : DeliverableCatalog) (delivery : KnowledgeDelivery) : Except DeliverableError Unit := do
  rejectIf (deliveryInvalid delivery) .invalidKnowledgeDelivery
  rejectIf (decide (delivery.artifactVersionId ∉ self.acceptedVersions)) .unacceptedArtifact

def validate [Sha256] (self : DeliverableCatalog) : Except DeliverableError Unit := do
  forEach validateDocument self.documents
  forEach (fun cost => rejectIf (costInvalid cost) .invalidCost) self.costs
  forEach self.validateDelivery self.knowledgeDeliveries

end DeliverableCatalog

end Bastet.Core
