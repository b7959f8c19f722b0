import Bastet.Core.Text

/-! Stable identifiers and the metadata every stored entity carries. -/

set_option autoImplicit false

namespace Bastet.Core

abbrev Uuid := BitVec 128

inductive EntityKind where
  | agentProvider
  | modelProvider
  | account
  | model
  | agentInstance
  | project
  | role
  | session
  | run
  | credentialReference
  | approvalRequest
  | petProfile
  | petAssignment
  | room
  | meeting
  | decisionBaseline
  | graphNode
  | graphRun
  | artifact
  | artifactVersion
  | costRecord
  | knowledgeDelivery
  deriving DecidableEq, Repr

/-- An identifier of one kind of entity; ids of different kinds are different types. -/
structure StableId (kind : EntityKind) where
  value : Uuid
  deriving DecidableEq, Repr

instance (kind : EntityKind) : LawfulBEq (StableId kind) := inferInstance

abbrev AgentProviderId := StableId .agentProvider
abbrev ModelProviderId := StableId .modelProvider
abbrev AccountId := StableId .account
abbrev ModelId := StableId .model
abbrev AgentInstanceId := StableId .agentInstance
abbrev ProjectId := StableId .project
abbrev RoleId := StableId .role
abbrev SessionId := StableId .session
abbrev RunId := StableId .run
abbrev CredentialReferenceId := StableId .credentialReference
abbrev ApprovalRequestId := StableId .approvalRequest
abbrev PetProfileId := StableId .petProfile
abbrev PetAssignmentId := StableId .petAssignment
abbrev RoomId := StableId .room
abbrev MeetingId := StableId .meeting
abbrev DecisionBaselineId := StableId .decisionBaseline
abbrev GraphNodeId := StableId .graphNode
abbrev GraphRunId := StableId .graphRun
abbrev ArtifactId := StableId .artifact
abbrev ArtifactVersionId := StableId .artifactVersion
abbrev CostRecordId := StableId .costRecord
abbrev KnowledgeDeliveryId := StableId .knowledgeDelivery

theorem StableId.value_injective {kind : EntityKind} :
    Function.Injective (@StableId.value kind) := by
  rintro ⟨first⟩ ⟨second⟩ same
  exact congrArg StableId.mk same

inductive EntityLifecycle where
  | active
  | disabled
  | archived
  deriving DecidableEq, Repr

structure Provenance where
  sourceKind : String
  sourceId : String
  recordedBy : String
  deriving DecidableEq, Repr

structure EntityMetadata (Id : Type) where
  id : Id
  revision : Nat
  createdAt : String
  updatedAt : String
  provenance : Provenance
  lifecycle : EntityLifecycle
  deriving DecidableEq, Repr

/-- The increment of a `u64` counter. -/
def bump (revision : Nat) : Nat :=
  (revision + 1) % 2 ^ 64

end Bastet.Core
