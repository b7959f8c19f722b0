import Bastet.Core.Adapter
import Bastet.Core.Policy

/-! The identity catalog: providers, accounts, models, agents, projects, roles,
sessions and runs, and the checks it passes before it is stored. -/

set_option autoImplicit false

namespace Bastet.Core

open Fallible

inductive CredentialBackend where
  | macosKeychain
  | windowsCredentialManager
  | linuxSecretService
  deriving DecidableEq, Repr

structure CredentialReference where
  metadata : EntityMetadata CredentialReferenceId
  backend : CredentialBackend
  service : String
  accountLabel : String
  deriving DecidableEq, Repr

structure AgentProvider where
  metadata : EntityMetadata AgentProviderId
  adapterKind : String
  displayName : String
  deriving DecidableEq, Repr

structure ModelProvider where
  metadata : EntityMetadata ModelProviderId
  providerKey : String
  displayName : String
  deriving DecidableEq, Repr

structure Account where
  metadata : EntityMetadata AccountId
  agentProviderId : AgentProviderId
  providerIdentity : String
  credentialReferenceId : Option CredentialReferenceId
  deriving DecidableEq, Repr

structure Model where
  metadata : EntityMetadata ModelId
  modelProviderId : ModelProviderId
  providerModelId : String
  reasoningControls : List String
  deriving DecidableEq, Repr

structure AgentInstance where
  metadata : EntityMetadata AgentInstanceId
  agentProviderId : AgentProviderId
  accountId : Option AccountId
  defaultModelId : Option ModelId
  deriving DecidableEq, Repr

structure Project where
  metadata : EntityMetadata ProjectId
  name : String
  workspaceRoot : String
  policy : ScopedPolicy
  deriving DecidableEq, Repr

structure Role where
  metadata : EntityMetadata RoleId
  name : String
  responsibilities : List String
  policy : ScopedPolicy
  deriving DecidableEq, Repr

structure Session where
  metadata : EntityMetadata SessionId
  agentInstanceId : AgentInstanceId
  projectId : ProjectId
  providerSessionId : Option String
  deriving DecidableEq, Repr

structure Run where
  metadata : EntityMetadata RunId
  sessionId : SessionId
  modelId : ModelId
  state : NormalizedRunState
  startedAt : Option String
  finishedAt : Option String
  deriving DecidableEq, Repr

structure IdentityCatalog where
  credentialReferences : List CredentialReference
  agentProviders : List AgentProvider
  modelProviders : List ModelProvider
  accounts : List Account
  models : List Model
  agentInstances : List AgentInstance
  projects : List Project
  roles : List Role
  sessions : List Session
  runs : List Run
  deriving DecidableEq, Repr

/-- `IdentityCatalog::default()`. -/
def IdentityCatalog.empty : IdentityCatalog :=
  ⟨[], [], [], [], [], [], [], [], [], []⟩

inductive CatalogError where
  | duplicateId (entity : String) (id : Uuid)
  | missingReference (entity field : String) (id : Uuid)
  | agentProviderMismatch
  | emptyField (entity field : String)
  | invalidPolicyLayer (entity : String) (expected : PolicyLayer)
  | invalidRunTiming (state : NormalizedRunState)
  deriving DecidableEq, Repr

/-- A run in one of these states has a start time. -/
def NormalizedRunState.needsStart (state : NormalizedRunState) : Bool :=
  !(state = .starting || state = .awaitingApproval || state = .cancelled)

/-- A run in one of these states has a finish time. -/
def NormalizedRunState.needsFinish (state : NormalizedRunState) : Bool :=
  state = .cancelled || state = .failed || state = .succeeded

def validateRunTiming (run : Run) : Except CatalogError Unit :=
  rejectIf ((run.state.needsStart && run.startedAt.isNone) || (run.state.needsFinish && run.finishedAt.isNone))
    (.invalidRunTiming run.state)

def unique (entity : String) (ids : List Uuid) : Except CatalogError Unit :=
  distinctFrom (CatalogError.duplicateId entity) [] ids

theorem distinctValues_ok {ε α : Type} {kind : EntityKind} {error : Uuid → ε} {key : α → StableId kind}
    {items : List α} :
    distinctFrom error [] (items.map fun item => (key item).value) = .ok () ↔ (items.map key).Nodup := by
  have values : (items.map fun item => (key item).value) = (items.map key).map StableId.value := by
    rw [List.map_map]
    rfl
  rw [distinct_ok, values]
  exact List.nodup_map_iff StableId.value_injective

def require (holds : Bool) (entity field : String) (id : Uuid) : Except CatalogError Unit :=
  rejectIf (!holds) (.missingReference entity field id)

def nonempty (entity field value : String) : Except CatalogError Unit :=
  rejectIf (isBlank value) (.emptyField entity field)

def validateMetadata {Id : Type} (entity : String) (metadata : EntityMetadata Id) : Except CatalogError Unit := do
  nonempty entity "created_at" metadata.createdAt
  nonempty entity "updated_at" metadata.updatedAt
  nonempty entity "provenance.source_kind" metadata.provenance.sourceKind
  nonempty entity "provenance.source_id" metadata.provenance.sourceId
  nonempty entity "provenance.recorded_by" metadata.provenance.recordedBy

namespace IdentityCatalog

variable (self : IdentityCatalog)

def validateRequiredFields : Except CatalogError Unit := do
  forEach (fun (provider : AgentProvider) => do
    validateMetadata "AgentProvider" provider.metadata
    nonempty "AgentProvider" "adapter_kind" provider.adapterKind
    nonempty "AgentProvider" "display_name" provider.displayName) self.agentProviders
  forEach (fun (provider : ModelProvider) => do
    validateMetadata "ModelProvider" provider.metadata
    nonempty "ModelProvider" "provider_key" provider.providerKey) self.modelProviders
  forEach (fun (account : Account) => do
    validateMetadata "Account" account.metadata
    nonempty "Account" "provider_identity" account.providerIdentity) self.accounts
  forEach (fun (model : Model) => do
    validateMetadata "Model" model.metadata
    nonempty "Model" "provider_model_id" model.providerModelId) self.models
  forEach (fun (agent : AgentInstance) => validateMetadata "AgentInstance" agent.metadata) self.agentInstances
  forEach (fun (project : Project) => do
    validateMetadata "Project" project.metadata
    nonempty "Project" "name" project.name
    nonempty "Project" "workspace_root" project.workspaceRoot
    rejectIf (decide (project.policy.layer ≠ .project)) (.invalidPolicyLayer "Project" .project)) self.projects
  forEach (fun (role : Role) => do
    validateMetadata "Role" role.metadata
    nonempty "Role" "name" role.name
    rejectIf (decide (role.policy.layer ≠ .roleOrAgent)) (.invalidPolicyLayer "Role" .roleOrAgent)) self.roles
  forEach (fun (session : Session) => do
    validateMetadata "Session" session.metadata
    match session.providerSessionId with
    | some providerSessionId => nonempty "Session" "provider_session_id" providerSessionId
    | none => .ok ()) self.sessions
  forEach (fun (run : Run) => validateMetadata "Run" run.metadata) self.runs
  forEach (fun (reference : CredentialReference) => do
    validateMetadata "CredentialReference" reference.metadata
    nonempty "CredentialReference" "service" reference.service
    nonempty "CredentialReference" "account_label" reference.accountLabel) self.credentialReferences

def validateAccount (account : Account) : Except CatalogError Unit := do
  require (self.agentProviders.any fun item => item.metadata.id = account.agentProviderId)
    "Account" "agent_provider_id" account.agentProviderId.value
  match account.credentialReferenceId with
  | some referenceId =>
    require (self.credentialReferences.any fun item => item.metadata.id = referenceId)
      "Account" "credential_reference_id" referenceId.value
  | none => .ok ()

def validateModel (model : Model) : Except CatalogError Unit :=
  require (self.modelProviders.any fun item => item.metadata.id = model.modelProviderId)
    "Model" "model_provider_id" model.modelProviderId.value

def validateAgentInstance (agent : AgentInstance) : Except CatalogError Unit := do
  require (self.agentProviders.any fun item => item.metadata.id = agent.agentProviderId)
    "AgentInstance" "agent_provider_id" agent.agentProviderId.value
  match agent.accountId with
  | some accountId => do
    let account ← okOr (self.accounts.find? fun item => item.metadata.id = accountId)
      (.missingReference "AgentInstance" "account_id" accountId.value)
    rejectIf (decide (account.agentProviderId ≠ agent.agentProviderId)) .agentProviderMismatch
  | none => .ok ()
  match agent.defaultModelId with
  | some modelId =>
    require (self.models.any fun item => item.metadata.id = modelId)
      "AgentInstance" "default_model_id" modelId.value
  | none => .ok ()

def validateSession (session : Session) : Except CatalogError Unit := do
  require (self.agentInstances.any fun item => item.metadata.id = session.agentInstanceId)
    "Session" "agent_instance_id" session.agentInstanceId.value
  require (self.projects.any fun item => item.metadata.id = session.projectId)
    "Session" "project_id" session.projectId.value

def validateRun (run : Run) : Except CatalogError Unit := do
  require (self.sessions.any fun item => item.metadata.id = run.sessionId)
    "Run" "session_id" run.sessionId.value
  require (self.models.any fun item => item.metadata.id = run.modelId)
    "Run" "model_id" run.modelId.value
  validateRunTiming run

def validate : Except CatalogError Unit := do
  unique "CredentialReference" (self.credentialReferences.map (·.metadata.id.value))
  unique "AgentProvider" (self.agentProviders.map (·.metadata.id.value))
  unique "ModelProvider" (self.modelProviders.map (·.metadata.id.value))
  unique "Account" (self.accounts.map (·.metadata.id.value))
  unique "Model" (self.models.map (·.metadata.id.value))
  unique "AgentInstance" (self.agentInstances.map (·.metadata.id.value))
  unique "Project" (self.projects.map (·.metadata.id.value))
  unique "Role" (self.roles.map (·.metadata.id.value))
  unique "Session" (self.sessions.map (·.metadata.id.value))
  unique "Run" (self.runs.map (·.metadata.id.value))
  self.validateRequiredFields
  forEach self.validateAccount self.accounts
  forEach self.validateModel self.models
  forEach self.validateAgentInstance self.agentInstances
  forEach self.validateSession self.sessions
  forEach self.validateRun self.runs

end IdentityCatalog

end Bastet.Core
