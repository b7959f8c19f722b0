import Bastet.Core.Deliverable
import Bastet.Core.Execution
import Bastet.Core.Meeting

/-! The combined state of offices, meetings, deliverables and graph executions, and the
references between them. -/

set_option autoImplicit false

namespace Bastet.Core

open Fallible

structure M3Catalog where
  office : OfficeCatalog
  meetings : MeetingCatalog
  deliverables : DeliverableCatalog
  deriving DecidableEq, Repr

/-- `M3Catalog::default()`. -/
def M3Catalog.empty : M3Catalog :=
  ⟨⟨[], [], []⟩, ⟨[], []⟩, ⟨[], [], []⟩⟩

structure M3State where
  catalog : M3Catalog
  graphExecutions : List GraphExecution
  deriving DecidableEq, Repr

inductive M3Error where
  | office (error : OfficeError)
  | meeting (error : MeetingError)
  | graph (error : GraphError)
  | deliverable (error : DeliverableError)
  | missingDecisionBaseline
  | missingRole
  | missingDeliverableReference
  | duplicateGraphExecution
  deriving DecidableEq, Repr

namespace M3State

variable [Sha256]

/-- An execution is valid, its baseline was accepted and its roles are known. -/
def validateExecution (self : M3State) (identity : IdentityCatalog) (execution : GraphExecution) :
    Except M3Error Unit := do
  execution.validate.mapError .graph
  rejectIf (decide (execution.graph.decisionBaselineId ∉
    self.catalog.meetings.decisionBaselines.map (·.metadata.id))) .missingDecisionBaseline
  forEach (fun node => rejectIf (!(identity.roles.any fun role => role.metadata.id = node.roleId)) .missingRole)
    execution.graph.nodes

omit [Sha256] in
/-- The join receipt of a version does not match a join node of a stored execution. -/
def receiptInvalid (self : M3State) (version : DocumentVersion) : Bool :=
  match version.sourceExecutionId, version.sourceJoinNodeId, version.sourceJoinOutputHash with
  | some executionId, some joinNodeId, some joinHash =>
    match self.graphExecutions.find? (fun execution => execution.id = executionId) with
    | none => true
    | some execution =>
      match execution.graph.nodes.find? (fun node => node.id = joinNodeId && node.kind = .join) with
      | none => true
      | some joinNode =>
        decide (version.sourceNodeIds.toFinset ≠ joinNode.needs.toFinset) ||
          (joinNode.needs.any fun nodeId => (execution.output nodeId).isNone ||
            (execution.definition? nodeId).all fun node => node.kind ≠ .research) ||
          (execution.output joinNodeId).all fun output => output.contentHash ≠ joinHash
  | executionId, joinNodeId, joinHash => executionId.isSome || joinNodeId.isSome || joinHash.isSome

omit [Sha256] in
/-- A document, cost or delivery names something that is not stored. -/
def referenceMissing (self : M3State) (identity : IdentityCatalog) : Bool :=
  let projectIds := identity.projects.map (·.metadata.id)
  let runIds := identity.runs.map (·.metadata.id)
  let graphNodes := self.graphExecutions.flatMap fun execution => execution.graph.nodes.map (·.id)
  let versions := self.catalog.deliverables.documents.flatMap (·.versions)
  (self.catalog.deliverables.documents.any fun document =>
    decide (document.projectId ∉ projectIds) ||
      (document.versions.flatMap (·.sourceNodeIds)).any fun node => node ∉ graphNodes) ||
  versions.any self.receiptInvalid ||
  (self.catalog.deliverables.costs.any fun cost =>
    decide (cost.projectId ∉ projectIds) || decide (cost.runId ∉ runIds) || decide (cost.nodeId ∉ graphNodes)) ||
  self.catalog.deliverables.knowledgeDeliveries.any fun delivery =>
    decide (delivery.projectId ∉ projectIds) || decide (delivery.artifactVersionId ∉ versions.map (·.id))

def validate (self : M3State) (identity : IdentityCatalog) : Except M3Error Unit := do
  identity.validate.mapError fun _ => .missingDeliverableReference
  (self.catalog.office.validate identity).mapError .office
  (self.catalog.meetings.validate identity self.catalog.office).mapError .meeting
  self.catalog.deliverables.validate.mapError .deliverable
  rejectIf (decide ((self.graphExecutions.map (·.id)).toFinset.card ≠ self.graphExecutions.length))
    .duplicateGraphExecution
  forEach (self.validateExecution identity) self.graphExecutions
  rejectIf ((self.graphExecutions.flatMap (·.outputs)).any fun output =>
    output.runId ∉ identity.runs.map (·.metadata.id)) .missingDeliverableReference
  rejectIf (self.referenceMissing identity) .missingDeliverableReference

end M3State

end Bastet.Core
