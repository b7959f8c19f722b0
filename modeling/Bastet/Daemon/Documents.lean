import Bastet.Daemon.Catalogs

/-! The commands of the document workflow: the accepted decision, documents, knowledge
deliveries and cost records. Each of them stores the M3 catalog only after the whole state
has been checked. -/

set_option autoImplicit false

namespace Bastet.Daemon

open Fallible Bastet.Core Lookup

variable [Sha256]

/-- The last steps of a command on the M3 catalog. -/
def storeM3 (db : Database) (convert : Message → StoreError) (catalog : M3Catalog)
    (executions : List GraphExecution) (kind : String) : StoreResult (Database × Nat) := do
  validateM3State convert catalog executions db.identity.content
  let revision ← nextRevision db.m3.revision
  let db ← db.writeM3 revision catalog
  return (db.insertEvent kind, revision)

section Decision

structure AcceptDecisionBaselineCommand where
  expectedM3Revision : Nat
  meetingId : MeetingId
  content : String
  acceptedBy : String
  acceptedAt : String
  deriving DecidableEq, Repr

structure AcceptDecisionBaselineReceipt where
  baselineId : DecisionBaselineId
  graphExecutionId : GraphRunId
  m3Revision : Nat
  eventSequence : Nat
  deriving DecidableEq, Repr

def acceptMvpDecision (db : Database) (now : Nat) (ids : DecisionIds) (command : AcceptDecisionBaselineCommand) :
    StoreResult (Database × AcceptDecisionBaselineReceipt) := do
  expectRevision command.expectedM3Revision db.m3.revision
  let (catalog, execution) ← lift (fun error => .invalidMvp (.mvp error))
    (Core.acceptMvpDecision ids db.m3.content db.identity.content command.meetingId command.content
      command.acceptedBy command.acceptedAt)
  let executions ← loadGraphExecutions db
  validateM3State .invalidMvp catalog (executions ++ [execution]) db.identity.content
  let revision ← nextRevision db.m3.revision
  let db ← db.writeM3 revision catalog
  let db ← db.insertGraph now execution .database
  let db := db.insertEvent "mvp.decision_accepted"
  return (db, ⟨ids.baselineId, execution.id, revision, db.events.length⟩)

end Decision

section Artifacts

structure CreateDocumentCommand where
  expectedM3Revision : Nat
  graphExecutionId : GraphRunId
  title : String
  markdown : String
  deriving DecidableEq, Repr

structure DocumentReceipt where
  artifactId : ArtifactId
  versionId : ArtifactVersionId
  contentHash : String
  m3Revision : Nat
  eventSequence : Nat
  deriving DecidableEq, Repr

structure AcceptDocumentCommand where
  expectedM3Revision : Nat
  artifactId : ArtifactId
  versionId : ArtifactVersionId
  contentHash : String
  acceptedBy : String
  acceptedAt : String
  deriving DecidableEq, Repr

def invalidDocument (text : String) : StoreError :=
  .invalidDocument (.text text)

omit [Sha256] in
/-- The research nodes of a complete execution, and its join node with its output. -/
def documentSources (execution : GraphExecution) :
    StoreResult (List GraphNodeId × GraphNode × GraphNodeOutput) := do
  reject (execution.nodes.any fun node => node.state ≠ .succeeded) (invalidDocument "graph is not complete")
  let sourceNodeIds := (execution.graph.nodes.filter fun node => node.kind = .research).map (·.id)
  reject (sourceNodeIds.any fun nodeId => (execution.output nodeId).isNone)
    (invalidDocument "research source output evidence is missing")
  let joinNode ← required (execution.graph.nodes.find? fun node => node.kind = .join)
    (invalidDocument "join node not found")
  let joinOutput ← required (execution.output joinNode.id)
    (invalidDocument "completed join output evidence is missing")
  return (sourceNodeIds, joinNode, joinOutput)

omit [Sha256] in
/-- The project of the meeting whose decision started an execution. -/
def projectOfExecution (catalog : M3Catalog) (execution : GraphExecution) : StoreResult ProjectId := do
  let baseline ← required
    (catalog.meetings.decisionBaselines.find? fun baseline =>
      baseline.metadata.id = execution.graph.decisionBaselineId)
    (invalidDocument "DecisionBaseline not found")
  let meeting ← required (catalog.meetings.meetings.find? fun meeting => meeting.metadata.id = baseline.meetingId)
    (invalidDocument "meeting not found")
  return meeting.projectId

omit [Sha256] in
def addDocument (catalog : M3Catalog) (document : DocumentArtifact) : M3Catalog :=
  { catalog with deliverables :=
    { catalog.deliverables with documents := catalog.deliverables.documents ++ [document] } }

def createMvpDocument (db : Database) (now : Nat) (artifactId : ArtifactId) (versionId : ArtifactVersionId)
    (command : CreateDocumentCommand) : StoreResult (Database × DocumentReceipt) := do
  expectRevision command.expectedM3Revision db.m3.revision
  let executions ← loadGraphExecutions db
  let execution ← required (executions.find? fun item => item.id = command.graphExecutionId) .graphNotFound
  let (sourceNodeIds, joinNode, joinOutput) ← documentSources execution
  let projectId ← projectOfExecution db.m3.content execution
  let created ← lift (fun error => .invalidDocument (.deliverable error))
    (DocumentVersion.create versionId 1 none command.markdown sourceNodeIds)
  let version ← lift (fun error => .invalidDocument (.deliverable error))
    (created.bindJoinReceipt execution.id joinNode.id joinOutput.contentHash)
  let catalog := addDocument db.m3.content
    ⟨entityMetadata now artifactId "mvp_document", projectId, command.title, [version]⟩
  let (after, revision) ← storeM3 db .invalidDocument catalog executions "artifact.document_created"
  return (after, ⟨artifactId, versionId, version.contentHash, revision, after.events.length⟩)

omit [Sha256] in
/-- Change one version of one document. -/
def updateVersion (catalog : M3Catalog) (artifactId : ArtifactId) (versionId : ArtifactVersionId)
    (change : DocumentVersion → DocumentVersion) : M3Catalog :=
  let documents := modifyFirst (·.metadata.id) artifactId
    (fun document => { document with versions := modifyFirst (·.id) versionId change document.versions })
    catalog.deliverables.documents
  { catalog with deliverables := { catalog.deliverables with documents } }

def acceptMvpDocument (db : Database) (command : AcceptDocumentCommand) :
    StoreResult (Database × DocumentReceipt) := do
  expectRevision command.expectedM3Revision db.m3.revision
  let version ← required
    ((db.m3.content.deliverables.documents.find? fun document => document.metadata.id = command.artifactId).bind
      fun document => document.versions.find? fun version => version.id = command.versionId)
    (invalidDocument "artifact version not found")
  reject (decide (version.contentHash ≠ command.contentHash)) (invalidDocument "content hash mismatch")
  let accepted ← lift (fun error => .invalidDocument (.deliverable error))
    (version.accept command.acceptedBy command.acceptedAt)
  let executions ← loadGraphExecutions db
  let catalog := updateVersion db.m3.content command.artifactId command.versionId fun _ => accepted
  let (after, revision) ← storeM3 db .invalidDocument catalog executions "artifact.document_accepted"
  return (after, ⟨command.artifactId, command.versionId, command.contentHash, revision, after.events.length⟩)

end Artifacts

section Deliveries

structure PrepareKnowledgeDeliveryCommand where
  expectedM3Revision : Nat
  projectId : ProjectId
  artifactVersionId : ArtifactVersionId
  target : KnowledgeTarget
  preview : String
  deriving DecidableEq, Repr

structure CompleteKnowledgeDeliveryCommand where
  expectedM3Revision : Nat
  deliveryId : KnowledgeDeliveryId
  destinationReceipt : String
  deriving DecidableEq, Repr

structure KnowledgeDeliveryReceipt where
  deliveryId : KnowledgeDeliveryId
  state : DeliveryState
  m3Revision : Nat
  eventSequence : Nat
  deriving DecidableEq, Repr

omit [Sha256] in
def withDeliveries (catalog : M3Catalog) (deliveries : List KnowledgeDelivery) : M3Catalog :=
  { catalog with deliverables := { catalog.deliverables with knowledgeDeliveries := deliveries } }

def prepareKnowledgeDelivery (db : Database) (now : Nat) (deliveryId : KnowledgeDeliveryId)
    (command : PrepareKnowledgeDeliveryCommand) : StoreResult (Database × KnowledgeDeliveryReceipt) := do
  expectRevision command.expectedM3Revision db.m3.revision
  reject (!(db.m3.content.deliverables.documents.any fun document =>
      document.projectId = command.projectId &&
        document.versions.any fun version => version.id = command.artifactVersionId && version.acceptedBy.isSome))
    (invalidDocument "knowledge delivery requires an accepted artifact version")
  let delivery ← lift (fun error => .invalidDocument (.deliverable error))
    (KnowledgeDelivery.prepare (entityMetadata now deliveryId "knowledge_delivery") command.projectId
      command.artifactVersionId command.target command.preview)
  let catalog := withDeliveries db.m3.content (db.m3.content.deliverables.knowledgeDeliveries ++ [delivery])
  let executions ← loadGraphExecutions db
  let (after, revision) ← storeM3 db .invalidDocument catalog executions "knowledge.delivery_prepared"
  return (after, ⟨deliveryId, delivery.state, revision, after.events.length⟩)

def completeKnowledgeDelivery (db : Database) (command : CompleteKnowledgeDeliveryCommand) :
    StoreResult (Database × KnowledgeDeliveryReceipt) := do
  expectRevision command.expectedM3Revision db.m3.revision
  let delivery ← required
    (db.m3.content.deliverables.knowledgeDeliveries.find? fun delivery => delivery.metadata.id = command.deliveryId)
    (invalidDocument "knowledge delivery not found")
  let delivered ← lift (fun error => .invalidDocument (.deliverable error))
    (delivery.recordDelivered command.destinationReceipt)
  let catalog := withDeliveries db.m3.content
    (modifyFirst (·.metadata.id) command.deliveryId (fun _ => delivered)
      db.m3.content.deliverables.knowledgeDeliveries)
  let executions ← loadGraphExecutions db
  let (after, revision) ← storeM3 db .invalidDocument catalog executions "knowledge.delivery_completed"
  return (after, ⟨command.deliveryId, delivered.state, revision, after.events.length⟩)

end Deliveries

section Costs

structure RecordCostCommand where
  expectedM3Revision : Nat
  record : CostLedgerRecord
  deriving DecidableEq, Repr

structure CostReceipt where
  costRecordId : CostRecordId
  m3Revision : Nat
  eventSequence : Nat
  deriving DecidableEq, Repr

omit [Sha256] in
def addCost (catalog : M3Catalog) (record : CostLedgerRecord) : M3Catalog :=
  { catalog with deliverables := { catalog.deliverables with costs := catalog.deliverables.costs ++ [record] } }

def recordCost (db : Database) (command : RecordCostCommand) : StoreResult (Database × CostReceipt) := do
  expectRevision command.expectedM3Revision db.m3.revision
  reject (db.m3.content.deliverables.costs.any fun record => record.metadata.id = command.record.metadata.id)
    (.invalidCost (.text "duplicate cost record id"))
  let executions ← loadGraphExecutions db
  let (after, revision) ← storeM3 db .invalidCost (addCost db.m3.content command.record) executions "cost.recorded"
  return (after, ⟨command.record.metadata.id, revision, after.events.length⟩)

end Costs

end Bastet.Daemon
