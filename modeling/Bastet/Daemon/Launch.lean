import Bastet.Daemon.Store

/-! The selected identity of a provider run and its immutable launch plan. -/

set_option autoImplicit false

namespace Bastet.Daemon

open Fallible Bastet.Core

structure ProviderCredentialSelection where
  referenceId : CredentialReferenceId
  backend : CredentialBackend
  service : String
  accountLabel : String
  deriving DecidableEq, Repr

structure ProviderAccountSelection where
  accountId : AccountId
  providerIdentity : String
  credential : Option ProviderCredentialSelection
  deriving DecidableEq, Repr

structure ProviderLaunchIdentity where
  agentInstanceId : AgentInstanceId
  agentProviderId : AgentProviderId
  projectId : ProjectId
  modelId : ModelId
  adapterKind : String
  model : String
  account : Option ProviderAccountSelection
  deriving DecidableEq, Repr

structure LaunchPolicySnapshot where
  project : ScopedPolicy
  role : ScopedPolicy
  deriving DecidableEq, Repr

structure ProviderLaunchPlan where
  version : Nat
  executionId : GraphRunId
  nodeId : GraphNodeId
  sessionId : SessionId
  runId : RunId
  attempt : Nat
  roleId : RoleId
  owner : String
  identity : ProviderLaunchIdentity
  workspaceRoot : String
  prompt : String
  policy : Option LaunchPolicySnapshot
  deriving DecidableEq, Repr

section Encoding

def ProviderCredentialSelection.toJson (self : ProviderCredentialSelection) : Json :=
  .object [("reference_id", Json.uuid self.referenceId), ("backend", self.backend.toJson),
    ("service", .string self.service), ("account_label", .string self.accountLabel)]

def ProviderAccountSelection.toJson (self : ProviderAccountSelection) : Json :=
  .object [("account_id", Json.uuid self.accountId), ("provider_identity", .string self.providerIdentity),
    ("credential", Json.option ProviderCredentialSelection.toJson self.credential)]

def ProviderLaunchIdentity.toJson (self : ProviderLaunchIdentity) : Json :=
  .object [("agent_instance_id", Json.uuid self.agentInstanceId),
    ("agent_provider_id", Json.uuid self.agentProviderId), ("project_id", Json.uuid self.projectId),
    ("model_id", Json.uuid self.modelId), ("adapter_kind", .string self.adapterKind),
    ("model", .string self.model), ("account", Json.option ProviderAccountSelection.toJson self.account)]

def LaunchPolicySnapshot.toJson (self : LaunchPolicySnapshot) : Json :=
  .object [("project", self.project.toJson), ("role", self.role.toJson)]

def ProviderLaunchPlan.toJson (self : ProviderLaunchPlan) : Json :=
  .object ([("version", .number self.version), ("execution_id", Json.uuid self.executionId),
    ("node_id", Json.uuid self.nodeId), ("session_id", Json.uuid self.sessionId),
    ("run_id", Json.uuid self.runId), ("attempt", .number self.attempt), ("role_id", Json.uuid self.roleId),
    ("owner", .string self.owner), ("identity", self.identity.toJson),
    ("workspace_root", .string self.workspaceRoot), ("prompt", .string self.prompt)] ++
    Json.optionalField "policy" LaunchPolicySnapshot.toJson self.policy)

end Encoding

namespace LaunchPolicySnapshot

def validate (self : LaunchPolicySnapshot) : StoreResult Unit := do
  reject (decide (self.project.layer ≠ .project) || decide (self.role.layer ≠ .roleOrAgent))
    (.invalidRunState "launch policy layers invalid")
  let _ ← lift (fun _ => .invalidRunState "launch role policy exceeds project ceiling")
    (self.project.restrict self.role)

def capture (catalog : IdentityCatalog) (projectId : ProjectId) (roleId : RoleId) :
    StoreResult LaunchPolicySnapshot := do
  let project ← required
    (catalog.projects.find? fun value => value.metadata.id = projectId && value.metadata.lifecycle = .active)
    (.invalidRunState "launch project policy unavailable")
  let role ← required
    (catalog.roles.find? fun value => value.metadata.id = roleId && value.metadata.lifecycle = .active)
    (.invalidRunState "launch role policy unavailable")
  let snapshot : LaunchPolicySnapshot := ⟨project.policy, role.policy⟩
  snapshot.validate
  return snapshot

end LaunchPolicySnapshot

namespace ProviderLaunchPlan

/-- What the online command-line runner needs of a role. -/
def onlineCliCeiling : ScopedPolicy :=
  ⟨.singleRun, ⟨.observe, .use, .use, .deny, .use, false⟩⟩

def validateOnlineCliRequirements (self : ProviderLaunchPlan) : StoreResult Unit := do
  let saved ← required self.policy (.invalidRunState "launch policy unavailable")
  saved.validate
  let _ ← lift (fun _ => .invalidRunState "online CLI exceeds launch policy") (saved.role.restrict onlineCliCeiling)

def validateCurrentPolicy (self : ProviderLaunchPlan) (catalog : IdentityCatalog) : StoreResult Unit := do
  let saved ← required self.policy (.invalidRunState "legacy launch has no saved policy authority")
  reject (decide (self.version ≠ 2)) (.invalidRunState "launch policy changed")
  let current ← LaunchPolicySnapshot.capture catalog self.identity.projectId self.roleId
  reject (decide (saved ≠ current)) (.invalidRunState "launch policy changed")

def hash [Sha256] [SerdeJson] (self : ProviderLaunchPlan) : String :=
  "sha256:" ++ Sha256.hex (SerdeJson.text self.toJson)

end ProviderLaunchPlan

end Bastet.Daemon
