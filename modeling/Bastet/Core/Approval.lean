import Bastet.Core.Catalog
import Bastet.Core.Graph
import Bastet.Core.Json

/-! Approval requests: their immutable hash, their validation against the identity
catalog, and the decisions recorded for them. -/

set_option autoImplicit false

namespace Bastet.Core

open Fallible

inductive ApprovalRisk where
  | low
  | medium
  | high
  | critical
  deriving DecidableEq, Repr

structure CredentialGrantBinding where
  agentProviderId : AgentProviderId
  accountId : AccountId
  adapterKind : String
  providerIdentity : String
  credentialReferenceId : CredentialReferenceId
  backend : CredentialBackend
  service : String
  accountLabel : String
  capabilityKey : String
  deriving DecidableEq, Repr

structure ApprovalScope where
  projectId : ProjectId
  runId : Option RunId
  filesystemRoots : List String
  dataScopes : List String
  networkDestinations : List String
  credentialReferenceIds : List CredentialReferenceId
  destination : Option String
  credentialBinding : Option CredentialGrantBinding
  deriving DecidableEq, Repr

structure ApprovalAction where
  agentInstanceId : AgentInstanceId
  roleId : Option RoleId
  actionKey : String
  reasonKey : String
  consequenceKey : String
  risk : ApprovalRisk
  scope : ApprovalScope
  requestedPolicy : ScopedPolicy
  deriving DecidableEq, Repr

structure ApprovalRequest where
  id : ApprovalRequestId
  requestHash : String
  createdAtMs : Nat
  expiresAtMs : Nat
  action : ApprovalAction
  deriving DecidableEq, Repr

inductive ApprovalDecisionKind where
  | approve
  | deny
  deriving DecidableEq, Repr

structure ApprovalDecision where
  requestId : ApprovalRequestId
  requestHash : String
  kind : ApprovalDecisionKind
  decidedAtMs : Nat
  actor : String
  deriving DecidableEq, Repr

inductive ApprovalError where
  | emptyField (name : String)
  | invalidExpiry
  | invalidPolicyLayer
  | policy (error : PolicyError)
  | persistentHighRisk
  | hashMismatch
  | expired
  | emptyActor
  | missingReference (name : String)
  | credentialAccountRequired
  | accountCredentialRequired
  | credentialAccountMismatch
  | runAgentMismatch
  | runProjectMismatch
  | credentialUseBindingRequired
  | credentialBindingReferenceMismatch
  | credentialBindingRunRequired
  | credentialBindingRoleRequired
  | emptyCredentialCapability
  | unsupportedCredentialCapability
  | credentialPermissionRequired
  | credentialRiskRequired
  | persistentCredentialGrant
  | credentialBindingMismatch (name : String)
  | credentialBindingInactive (name : String)
  | invalidDecisionTime
  deriving DecidableEq, Repr

section Encoding

def PermissionLevel.toJson : PermissionLevel → Json
  | .deny => .string "deny"
  | .observe => .string "observe"
  | .use => .string "use"

def PolicyLayer.toJson : PolicyLayer → Json
  | .workstation => .string "workstation"
  | .project => .string "project"
  | .roleOrAgent => .string "role_or_agent"
  | .singleRun => .string "single_run"

def ScopedPolicy.toJson (self : ScopedPolicy) : Json :=
  .object [("layer", self.layer.toJson), ("ceiling", .object
    [("filesystem", self.ceiling.filesystem.toJson), ("network", self.ceiling.network.toJson),
      ("process", self.ceiling.process.toJson), ("device", self.ceiling.device.toJson),
      ("credential", self.ceiling.credential.toJson),
      ("persistent_approval", .bool self.ceiling.persistentApproval)])]

def CredentialBackend.toJson : CredentialBackend → Json
  | .macosKeychain => .string "macos_keychain"
  | .windowsCredentialManager => .string "windows_credential_manager"
  | .linuxSecretService => .string "linux_secret_service"

def ApprovalRisk.toJson : ApprovalRisk → Json
  | .low => .string "low"
  | .medium => .string "medium"
  | .high => .string "high"
  | .critical => .string "critical"

def CredentialGrantBinding.toJson (self : CredentialGrantBinding) : Json :=
  .object [("agent_provider_id", Json.uuid self.agentProviderId), ("account_id", Json.uuid self.accountId),
    ("adapter_kind", .string self.adapterKind), ("provider_identity", .string self.providerIdentity),
    ("credential_reference_id", Json.uuid self.credentialReferenceId), ("backend", self.backend.toJson),
    ("service", .string self.service), ("account_label", .string self.accountLabel),
    ("capability_key", .string self.capabilityKey)]

def ApprovalScope.toJson (self : ApprovalScope) : Json :=
  .object ([("project_id", Json.uuid self.projectId), ("run_id", Json.option Json.uuid self.runId),
    ("filesystem_roots", .array (self.filesystemRoots.map .string)),
    ("data_scopes", .array (self.dataScopes.map .string)),
    ("network_destinations", .array (self.networkDestinations.map .string)),
    ("credential_reference_ids", .array (self.credentialReferenceIds.map Json.uuid)),
    ("destination", Json.option .string self.destination)] ++
    Json.optionalField "credential_binding" CredentialGrantBinding.toJson self.credentialBinding)

def ApprovalAction.toJson (self : ApprovalAction) : Json :=
  .object [("agent_instance_id", Json.uuid self.agentInstanceId), ("role_id", Json.option Json.uuid self.roleId),
    ("action_key", .string self.actionKey), ("reason_key", .string self.reasonKey),
    ("consequence_key", .string self.consequenceKey), ("risk", self.risk.toJson),
    ("scope", self.scope.toJson), ("requested_policy", self.requestedPolicy.toJson)]

/-- The hashed value of a request. -/
def hashInput (id : ApprovalRequestId) (createdAtMs expiresAtMs : Nat) (action : ApprovalAction) : Json :=
  .object [("schema", .string "bastet.approval-request.v1"), ("id", Json.uuid id),
    ("created_at_ms", .number createdAtMs), ("expires_at_ms", .number expiresAtMs), ("action", action.toJson)]

end Encoding

def canonicalHash [Sha256] [SerdeJson] (id : ApprovalRequestId) (createdAtMs expiresAtMs : Nat)
    (action : ApprovalAction) : String :=
  Sha256.hex (SerdeJson.text (hashInput id createdAtMs expiresAtMs action))

/-- High and critical risks. -/
def ApprovalRisk.isHigh : ApprovalRisk → Bool
  | .high | .critical => true
  | .low | .medium => false

def validateActionBinding (action : ApprovalAction) (binding : CredentialGrantBinding) : Except ApprovalError Unit := do
  rejectIf (decide (action.actionKey ≠ "credential.use")) .credentialUseBindingRequired
  rejectIf (isBlank binding.capabilityKey) .emptyCredentialCapability
  rejectIf (decide (binding.capabilityKey ≠ "provider.authenticate")) .unsupportedCredentialCapability
  rejectIf action.scope.runId.isNone .credentialBindingRunRequired
  rejectIf action.roleId.isNone .credentialBindingRoleRequired
  rejectIf (decide (action.scope.credentialReferenceIds ≠ [binding.credentialReferenceId]))
    .credentialBindingReferenceMismatch
  rejectIf (decide (action.requestedPolicy.ceiling.credential ≠ .use)) .credentialPermissionRequired
  rejectIf (!action.risk.isHigh) .credentialRiskRequired
  rejectIf action.requestedPolicy.ceiling.persistentApproval .persistentCredentialGrant

def validateAction (action : ApprovalAction) (parent : ScopedPolicy) : Except ApprovalError Unit := do
  forEach (fun (name, value) => rejectIf (isBlank value) (.emptyField name))
    [("action_key", action.actionKey), ("reason_key", action.reasonKey), ("consequence_key", action.consequenceKey)]
  rejectIf (decide (action.requestedPolicy.layer ≠ .singleRun)) .invalidPolicyLayer
  let _ ← (parent.restrict action.requestedPolicy).mapError .policy
  rejectIf (action.risk.isHigh && action.requestedPolicy.ceiling.persistentApproval) .persistentHighRisk
  rejectIf (decide (action.actionKey = "credential.use") && action.scope.credentialBinding.isNone)
    .credentialUseBindingRequired
  match action.scope.credentialBinding with
  | some binding => validateActionBinding action binding
  | none => .ok ()

def active (lifecycle : EntityLifecycle) (name : String) : Except ApprovalError Unit :=
  rejectIf (decide (lifecycle ≠ .active)) (.credentialBindingInactive name)

def matching (holds : Bool) (name : String) : Except ApprovalError Unit :=
  rejectIf (!holds) (.credentialBindingMismatch name)

/-- The first part of `validate_credential_binding`: the binding names the active agent, provider,
account and credential reference. -/
def validateBindingLocator (catalog : IdentityCatalog) (agent : AgentInstance) (project : Project)
    (binding : CredentialGrantBinding) : Except ApprovalError Unit := do
  active agent.metadata.lifecycle "agent_instance"
  active project.metadata.lifecycle "project"
  matching (agent.agentProviderId = binding.agentProviderId) "agent_provider_id"
  let provider ← okOr (catalog.agentProviders.find? fun item => item.metadata.id = binding.agentProviderId)
    (.missingReference "agent_provider_id")
  active provider.metadata.lifecycle "agent_provider"
  matching (provider.adapterKind = binding.adapterKind) "adapter_kind"
  matching (agent.accountId = some binding.accountId) "account_id"
  let account ← okOr (catalog.accounts.find? fun item => item.metadata.id = binding.accountId)
    (.missingReference "account_id")
  active account.metadata.lifecycle "account"
  matching (account.agentProviderId = binding.agentProviderId) "account.agent_provider_id"
  matching (account.providerIdentity = binding.providerIdentity) "provider_identity"
  matching (account.credentialReferenceId = some binding.credentialReferenceId) "credential_reference_id"
  let reference ← okOr (catalog.credentialReferences.find? fun item => item.metadata.id = binding.credentialReferenceId)
    (.missingReference "credential_reference_id")
  active reference.metadata.lifecycle "credential_reference"
  matching (reference.backend = binding.backend) "backend"
  matching (reference.service = binding.service) "service"
  matching (reference.accountLabel = binding.accountLabel) "account_label"

/-- The second part of `validate_credential_binding`: the run the binding is for. -/
def validateBindingRun (action : ApprovalAction) (catalog : IdentityCatalog) (runId : RunId) :
    Except ApprovalError Unit := do
  let run ← okOr (catalog.runs.find? fun item => item.metadata.id = runId) (.missingReference "run_id")
  active run.metadata.lifecycle "run"
  let session ← okOr (catalog.sessions.find? fun item => item.metadata.id = run.sessionId)
    (.missingReference "session_id")
  active session.metadata.lifecycle "session"
  rejectIf (decide (session.agentInstanceId ≠ action.agentInstanceId)) .runAgentMismatch
  rejectIf (decide (session.projectId ≠ action.scope.projectId)) .runProjectMismatch
  match action.roleId with
  | some roleId => do
    let role ← okOr (catalog.roles.find? fun item => item.metadata.id = roleId) (.missingReference "role_id")
    active role.metadata.lifecycle "role"
  | none => .ok ()

/-- Between its two parts the source asserts that the request carries a run id. -/
def validateCredentialBinding (action : ApprovalAction) (catalog : IdentityCatalog) (agent : AgentInstance)
    (project : Project) (binding : CredentialGrantBinding) : Except (Fault ApprovalError) Unit := do
  checked (validateBindingLocator catalog agent project binding)
  let runId ← expect action.scope.runId "validated credential run scope"
  checked (validateBindingRun action catalog runId)

def validateRunScope (action : ApprovalAction) (catalog : IdentityCatalog) : Except ApprovalError Unit :=
  match action.scope.runId with
  | some runId => do
    let run ← okOr (catalog.runs.find? fun item => item.metadata.id = runId) (.missingReference "run_id")
    let session ← okOr (catalog.sessions.find? fun item => item.metadata.id = run.sessionId)
      (.missingReference "session_id")
    rejectIf (decide (session.agentInstanceId ≠ action.agentInstanceId)) .runAgentMismatch
    rejectIf (decide (session.projectId ≠ action.scope.projectId)) .runProjectMismatch
  | none => .ok ()

def validateCredentialScope (action : ApprovalAction) (catalog : IdentityCatalog) (agent : AgentInstance) :
    Except ApprovalError Unit :=
  if action.scope.credentialReferenceIds.isEmpty then .ok ()
  else do
    forEach (fun referenceId =>
      rejectIf (!(catalog.credentialReferences.any fun item => item.metadata.id = referenceId))
        (.missingReference "credential_reference_id")) action.scope.credentialReferenceIds
    let accountId ← okOr agent.accountId .credentialAccountRequired
    let account ← okOr (catalog.accounts.find? fun item => item.metadata.id = accountId)
      (.missingReference "account_id")
    let accountReference ← okOr account.credentialReferenceId .accountCredentialRequired
    forEach (fun referenceId => rejectIf (decide (referenceId ≠ accountReference)) .credentialAccountMismatch)
      action.scope.credentialReferenceIds

/-- The policy an action must stay below: its role's, or its project's when it names no role. -/
def parentPolicy (action : ApprovalAction) (catalog : IdentityCatalog) (project : Project) :
    Except ApprovalError ScopedPolicy :=
  match action.roleId with
  | some roleId => do
    let role ← okOr (catalog.roles.find? fun item => item.metadata.id = roleId) (.missingReference "role_id")
    return role.policy
  | none => .ok project.policy

/-- The checks of `validate_against` before the credential binding is looked at. -/
def validateReferences (action : ApprovalAction) (catalog : IdentityCatalog) :
    Except ApprovalError (AgentInstance × Project × ScopedPolicy) := do
  let agent ← okOr (catalog.agentInstances.find? fun item => item.metadata.id = action.agentInstanceId)
    (.missingReference "agent_instance_id")
  let project ← okOr (catalog.projects.find? fun item => item.metadata.id = action.scope.projectId)
    (.missingReference "project_id")
  let _ ← (project.policy.restrict action.requestedPolicy).mapError .policy
  let parent ← parentPolicy action catalog project
  validateRunScope action catalog
  validateCredentialScope action catalog agent
  return (agent, project, parent)

namespace ApprovalRequest

variable [Sha256] [SerdeJson]

def create (id : ApprovalRequestId) (createdAtMs expiresAtMs : Nat) (action : ApprovalAction)
    (parentPolicy : ScopedPolicy) : Except ApprovalError ApprovalRequest := do
  validateAction action parentPolicy
  rejectIf (decide (expiresAtMs ≤ createdAtMs)) .invalidExpiry
  return ⟨id, canonicalHash id createdAtMs expiresAtMs action, createdAtMs, expiresAtMs, action⟩

omit [Sha256] [SerdeJson] in
def verifyDecision (self : ApprovalRequest) (decision : ApprovalDecision) : Except ApprovalError Unit := do
  rejectIf (isBlank decision.actor) .emptyActor
  rejectIf (decide (decision.requestId ≠ self.id) || decide (decision.requestHash ≠ self.requestHash)) .hashMismatch
  rejectIf (decide (decision.decidedAtMs < self.createdAtMs)) .invalidDecisionTime
  rejectIf (decide (self.expiresAtMs ≤ decision.decidedAtMs)) .expired

def validateUnchanged (self : ApprovalRequest) : Except ApprovalError Unit :=
  rejectIf (decide (canonicalHash self.id self.createdAtMs self.expiresAtMs self.action ≠ self.requestHash)) .hashMismatch

def validateAgainst (self : ApprovalRequest) (catalog : IdentityCatalog) : Except (Fault ApprovalError) Unit := do
  checked self.validateUnchanged
  let (agent, project, parent) ← checked (validateReferences self.action catalog)
  match self.action.scope.credentialBinding with
  | some binding => validateCredentialBinding self.action catalog agent project binding
  | none => .ok ()
  checked (validateAction self.action parent)

end ApprovalRequest

end Bastet.Core
