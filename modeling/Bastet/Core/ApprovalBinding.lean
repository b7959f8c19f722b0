import Bastet.Core.Approval

/-! When validating an approval request reaches the assertion on its run scope. -/

set_option autoImplicit false

namespace Bastet.Core

open Fallible

/-- The binding names the active provider, account and credential reference of an active agent
in an active project. -/
structure LocatesCredential (catalog : IdentityCatalog) (agent : AgentInstance) (project : Project)
    (binding : CredentialGrantBinding) (provider : AgentProvider) (account : Account)
    (reference : CredentialReference) : Prop where
  agentActive : agent.metadata.lifecycle = .active
  projectActive : project.metadata.lifecycle = .active
  agentProvider : agent.agentProviderId = binding.agentProviderId
  providerFound : (catalog.agentProviders.find? fun item => item.metadata.id = binding.agentProviderId) = some provider
  providerActive : provider.metadata.lifecycle = .active
  adapterKind : provider.adapterKind = binding.adapterKind
  agentAccount : agent.accountId = some binding.accountId
  accountFound : (catalog.accounts.find? fun item => item.metadata.id = binding.accountId) = some account
  accountActive : account.metadata.lifecycle = .active
  accountProvider : account.agentProviderId = binding.agentProviderId
  providerIdentity : account.providerIdentity = binding.providerIdentity
  accountReference : account.credentialReferenceId = some binding.credentialReferenceId
  referenceFound : (catalog.credentialReferences.find? fun item =>
    item.metadata.id = binding.credentialReferenceId) = some reference
  referenceActive : reference.metadata.lifecycle = .active
  backend : reference.backend = binding.backend
  service : reference.service = binding.service
  accountLabel : reference.accountLabel = binding.accountLabel

@[simp] theorem active_ok {lifecycle : EntityLifecycle} {name : String} {result : Unit} :
    active lifecycle name = .ok result ↔ lifecycle = .active := by
  simp [active]

@[simp] theorem matching_ok {holds : Bool} {name : String} {result : Unit} :
    matching holds name = .ok result ↔ holds = true := by
  simp [matching]

theorem validateBindingLocator_ok {catalog : IdentityCatalog} {agent : AgentInstance} {project : Project}
    {binding : CredentialGrantBinding} :
    validateBindingLocator catalog agent project binding = .ok () ↔
      ∃ provider account reference, LocatesCredential catalog agent project binding provider account reference := by
  simp only [validateBindingLocator, bind_ok, exists_unit, active_ok, matching_ok, okOr_ok, decide_eq_true_eq]
  constructor
  · rintro ⟨agentActive, projectActive, agentProvider, provider, providerFound, providerActive, adapterKind,
      agentAccount, account, accountFound, accountActive, accountProvider, providerIdentity, accountReference,
      reference, referenceFound, referenceActive, backend, service, accountLabel⟩
    exact ⟨provider, account, reference, agentActive, projectActive, agentProvider, providerFound, providerActive,
      adapterKind, agentAccount, accountFound, accountActive, accountProvider, providerIdentity, accountReference,
      referenceFound, referenceActive, backend, service, accountLabel⟩
  · rintro ⟨provider, account, reference, located⟩
    exact ⟨located.agentActive, located.projectActive, located.agentProvider, provider, located.providerFound,
      located.providerActive, located.adapterKind, located.agentAccount, account, located.accountFound,
      located.accountActive, located.accountProvider, located.providerIdentity, located.accountReference,
      reference, located.referenceFound, located.referenceActive, located.backend, located.service,
      located.accountLabel⟩

/-- Every credential reference of the scope is stored and is the one of the agent's account. -/
def CredentialScopeHeld (catalog : IdentityCatalog) (agent : AgentInstance) (scope : ApprovalScope) : Prop :=
  scope.credentialReferenceIds = [] ∨
    ∃ accountId account held, agent.accountId = some accountId ∧
      (catalog.accounts.find? fun item => item.metadata.id = accountId) = some account ∧
      account.credentialReferenceId = some held ∧
      ∀ referenceId ∈ scope.credentialReferenceIds,
        referenceId = held ∧ ∃ item ∈ catalog.credentialReferences, item.metadata.id = referenceId

theorem validateCredentialScope_ok {action : ApprovalAction} {catalog : IdentityCatalog} {agent : AgentInstance} :
    validateCredentialScope action catalog agent = .ok () ↔ CredentialScopeHeld catalog agent action.scope := by
  unfold validateCredentialScope CredentialScopeHeld
  by_cases none : action.scope.credentialReferenceIds = []
  · simp [none]
  · have some : action.scope.credentialReferenceIds.isEmpty = false := by simpa using none
    simp only [some, Bool.false_eq_true, if_false, none, false_or, bind_ok, exists_unit, forEach_ok, rejectIf_ok,
      okOr_ok, Bool.not_eq_false', List.any_eq_true, decide_eq_true_eq, decide_eq_false_iff_not, ne_eq, not_not]
    constructor
    · rintro ⟨stored, accountId, owned, account, found, held, refers, same⟩
      exact ⟨accountId, account, held, owned, found, refers, fun id member => ⟨same id member, stored id member⟩⟩
    · rintro ⟨accountId, account, held, owned, found, refers, each⟩
      exact ⟨fun id member => (each id member).2, accountId, owned, account, found, held, refers,
        fun id member => (each id member).1⟩

/-- A request that carries a credential binding and no run id, and passes every check made before
the binding's run is looked up. -/
def BindsWithoutRun [Sha256] [SerdeJson] (request : ApprovalRequest) (catalog : IdentityCatalog) : Prop :=
  canonicalHash request.id request.createdAtMs request.expiresAtMs request.action = request.requestHash ∧
    request.action.scope.runId = none ∧
    ∃ binding agent project provider account reference child,
      request.action.scope.credentialBinding = some binding ∧
      (catalog.agentInstances.find? fun item => item.metadata.id = request.action.agentInstanceId) = some agent ∧
      (catalog.projects.find? fun item => item.metadata.id = request.action.scope.projectId) = some project ∧
      project.policy.restrict request.action.requestedPolicy = .ok child ∧
      (∀ roleId, request.action.roleId = some roleId → ∃ role ∈ catalog.roles, role.metadata.id = roleId) ∧
      CredentialScopeHeld catalog agent request.action.scope ∧
      LocatesCredential catalog agent project binding provider account reference

theorem parentPolicy_isOk {action : ApprovalAction} {catalog : IdentityCatalog} {project : Project} :
    (∃ policy, parentPolicy action catalog project = .ok policy) ↔
      ∀ roleId, action.roleId = some roleId → ∃ role ∈ catalog.roles, role.metadata.id = roleId := by
  unfold parentPolicy
  cases action.roleId with
  | none => simp
  | some roleId =>
    simp only [bind_ok, okOr_ok, pure_ok, Option.some.injEq, forall_eq']
    constructor
    · rintro ⟨_, role, found, -⟩
      exact ⟨role, List.mem_of_find?_eq_some found, by simpa using List.find?_some found⟩
    · rintro ⟨role, member, same⟩
      cases found : catalog.roles.find? (fun item => item.metadata.id = roleId) with
      | some other => exact ⟨other.policy, other, rfl, rfl⟩
      | none => exact absurd same (by simpa using List.find?_eq_none.mp found role member)

theorem validateReferences_unscoped {action : ApprovalAction} {catalog : IdentityCatalog}
    (unscoped : action.scope.runId = none) {agent : AgentInstance} {project : Project} :
    (∃ policy, validateReferences action catalog = .ok (agent, project, policy)) ↔
      (catalog.agentInstances.find? fun item => item.metadata.id = action.agentInstanceId) = some agent ∧
      (catalog.projects.find? fun item => item.metadata.id = action.scope.projectId) = some project ∧
      (∃ child, project.policy.restrict action.requestedPolicy = .ok child) ∧
      (∀ roleId, action.roleId = some roleId → ∃ role ∈ catalog.roles, role.metadata.id = roleId) ∧
      CredentialScopeHeld catalog agent action.scope := by
  have runScope : validateRunScope action catalog = .ok () := by
    simp [validateRunScope, unscoped]
  simp only [validateReferences, bind_ok, exists_unit, okOr_ok, mapError_ok, runScope, pure_ok, true_and,
    Prod.mk.injEq, validateCredentialScope_ok]
  constructor
  · rintro ⟨policy, _, found, _, named, child, restricted, _, parent, held, rfl, rfl, -⟩
    exact ⟨found, named, ⟨child, restricted⟩, parentPolicy_isOk.mp ⟨_, parent⟩, held⟩
  · rintro ⟨found, named, ⟨child, restricted⟩, roles, held⟩
    obtain ⟨policy, parent⟩ := parentPolicy_isOk.mpr roles
    exact ⟨policy, agent, found, project, named, child, restricted, policy, parent, held, rfl, rfl, rfl⟩

section Validation

variable [Sha256] [SerdeJson]

theorem validateAgainst_panic {request : ApprovalRequest} {catalog : IdentityCatalog} {message : String} :
    request.validateAgainst catalog = .error (.panic message) ↔
      message = "validated credential run scope" ∧ BindsWithoutRun request catalog := by
  have last : ∀ parent, ¬checked (validateAction request.action parent) = .error (.panic message) :=
    fun _ => checked_panic
  simp only [ApprovalRequest.validateAgainst, bind_error, checked_panic, checked_ok, false_or, exists_unit]
  constructor
  · rintro ⟨unchanged, ⟨agent, project, policy⟩, references, stopped⟩
    have binds : ∃ binding, request.action.scope.credentialBinding = some binding ∧
        validateCredentialBinding request.action catalog agent project binding = .error (.panic message) := by
      cases carried : request.action.scope.credentialBinding with
      | none => simp [carried, last] at stopped
      | some binding =>
        simp only [carried] at stopped
        rcases bind_error.mp stopped with asserted | ⟨_, -, rejected⟩
        · exact ⟨binding, rfl, asserted⟩
        · exact absurd rejected (last policy)
    obtain ⟨binding, carried, asserted⟩ := binds
    simp only [validateCredentialBinding, bind_error, checked_panic, checked_ok, false_or, exists_unit,
      expect_panic, and_false, exists_false, or_false] at asserted
    obtain ⟨located, unscoped, rfl⟩ := asserted
    obtain ⟨provider, account, reference, locates⟩ := validateBindingLocator_ok.mp located
    obtain ⟨found, named, ⟨child, restricted⟩, roles, held⟩ :=
      (validateReferences_unscoped unscoped).mp ⟨policy, references⟩
    refine ⟨rfl, ?_, unscoped, binding, agent, project, provider, account, reference, child, carried, found, named,
      restricted, roles, held, locates⟩
    simpa [ApprovalRequest.validateUnchanged] using unchanged
  · rintro ⟨rfl, same, unscoped, binding, agent, project, provider, account, reference, child, carried, found,
      named, restricted, roles, held, locates⟩
    obtain ⟨policy, references⟩ :=
      (validateReferences_unscoped unscoped).mpr ⟨found, named, ⟨child, restricted⟩, roles, held⟩
    have located := validateBindingLocator_ok.mpr ⟨provider, account, reference, locates⟩
    refine ⟨by simpa [ApprovalRequest.validateUnchanged] using same, ⟨agent, project, policy⟩, references, ?_⟩
    have asserted : validateCredentialBinding request.action catalog agent project binding =
        .error (.panic "validated credential run scope") := by
      simp [validateCredentialBinding, located, checked, Except.mapError, unscoped, expect]
    simp [carried, asserted]

/-- Validation ends with a result or an error of its own exactly for the requests that do not
bind a credential without a run. -/
theorem validateAgainst_returns (request : ApprovalRequest) (catalog : IdentityCatalog) :
    (request.validateAgainst catalog = .ok () ∨
        ∃ error, request.validateAgainst catalog = .error (.error error)) ↔
      ¬BindsWithoutRun request catalog := by
  cases result : request.validateAgainst catalog with
  | ok value =>
    have safe : ¬BindsWithoutRun request catalog := fun binds => by
      rw [validateAgainst_panic.mpr ⟨rfl, binds⟩] at result
      cases result
    simp [safe]
  | error fault =>
    cases fault with
    | error error =>
      have safe : ¬BindsWithoutRun request catalog := fun binds => by
        rw [validateAgainst_panic.mpr ⟨rfl, binds⟩] at result
        cases result
      simp [safe]
    | panic message =>
      have binds := (validateAgainst_panic.mp result).2
      simp [binds]

end Validation

section Unscoped

theorem table_first (content digest : String) (rest : List (String × String)) :
    (Sha256.table ((content, digest) :: rest)).hex content = digest := by
  simp [Sha256.hex]

theorem table_rest {first content : String} (apart : first ≠ content) (digest : String)
    (rest : List (String × String)) :
    (Sha256.table ((first, digest) :: rest)).hex content = (Sha256.table rest).hex content := by
  simp [Sha256.hex, apart]

def recorded {Id : Type} (id : Id) : EntityMetadata Id :=
  ⟨id, 0, "2026-09-03T00:00:00Z", "2026-09-03T00:00:00Z", ⟨"user", "console", "bastet-workstation"⟩, .active⟩

def useCeiling : PolicyCeiling :=
  ⟨.use, .use, .use, .use, .use, false⟩

/-- One agent with an account that holds a credential reference, in one project. -/
def credentialCatalog : IdentityCatalog where
  credentialReferences := [⟨recorded ⟨1⟩, .macosKeychain, "dev.bastet.workstation.codex", "default"⟩]
  agentProviders := [⟨recorded ⟨2⟩, "codex_cli", "Codex CLI"⟩]
  modelProviders := [⟨recorded ⟨3⟩, "openai", "OpenAI"⟩]
  accounts := [⟨recorded ⟨4⟩, ⟨2⟩, "codex-default", some ⟨1⟩⟩]
  models := [⟨recorded ⟨5⟩, ⟨3⟩, "gpt-fixture", []⟩]
  agentInstances := [⟨recorded ⟨6⟩, ⟨2⟩, some ⟨4⟩, some ⟨5⟩⟩]
  projects := [⟨recorded ⟨7⟩, "Project", "/workspace", ⟨.project, useCeiling⟩⟩]
  roles := []
  sessions := []
  runs := []

/-- The use of that credential, asked for without a run. -/
def unscopedAction : ApprovalAction where
  agentInstanceId := ⟨6⟩
  roleId := none
  actionKey := "credential.use"
  reasonKey := "approval.reason.authenticate"
  consequenceKey := "approval.consequence.credential"
  risk := .high
  scope := ⟨⟨7⟩, none, [], [], [], [⟨1⟩], none, some ⟨⟨2⟩, ⟨4⟩, "codex_cli", "codex-default", ⟨1⟩, .macosKeychain,
    "dev.bastet.workstation.codex", "default", "provider.authenticate"⟩⟩
  requestedPolicy := ⟨.singleRun, useCeiling⟩

def unscopedRequest : ApprovalRequest :=
  ⟨⟨9⟩, "65c17d07f06076cf25964bf7b1b0f323dd376693b1e9119620d9e5c5c1b6d6b0", 1000, 2000, unscopedAction⟩

abbrev unscopedDigest : Sha256 :=
  .table [(Json.compact (hashInput ⟨9⟩ 1000 2000 unscopedAction),
    "65c17d07f06076cf25964bf7b1b0f323dd376693b1e9119620d9e5c5c1b6d6b0")]

theorem unscoped_binding_panics :
    credentialCatalog.validate = .ok () ∧
      @ApprovalRequest.validateUnchanged unscopedDigest SerdeJson.compact unscopedRequest = .ok () ∧
      @ApprovalRequest.validateAgainst unscopedDigest SerdeJson.compact unscopedRequest credentialCatalog =
        .error (.panic "validated credential run scope") := by
  -- The digest is found by its text, so the text is never computed.
  have same : @canonicalHash unscopedDigest SerdeJson.compact ⟨9⟩ 1000 2000 unscopedAction = unscopedRequest.requestHash :=
    table_first _ _ _
  have unchanged : @ApprovalRequest.validateUnchanged unscopedDigest SerdeJson.compact unscopedRequest = .ok () := by
    unfold ApprovalRequest.validateUnchanged
    rw [rejectIf_ok, decide_eq_false_iff_not, not_not]
    exact same
  refine ⟨by decide +kernel, unchanged, ?_⟩
  unfold ApprovalRequest.validateAgainst
  rw [unchanged]
  decide +kernel

end Unscoped

end Bastet.Core
