import Bastet.Core.ApprovalBinding
import Bastet.Library.Lookup

/-! What an approval request that validates against a catalog is known to satisfy. -/

set_option autoImplicit false

namespace Bastet.Core

open Fallible Lookup

/-- The ceiling asks for nothing that the other one withholds. -/
structure PolicyCeiling.Within (ceiling parent : PolicyCeiling) : Prop where
  filesystem : ceiling.filesystem.rank ≤ parent.filesystem.rank
  network : ceiling.network.rank ≤ parent.network.rank
  process : ceiling.process.rank ≤ parent.process.rank
  device : ceiling.device.rank ≤ parent.device.rank
  credential : ceiling.credential.rank ≤ parent.credential.rank
  persistentApproval : ceiling.persistentApproval = true → parent.persistentApproval = true

theorem ScopedPolicy.restrict_ok {parent child result : ScopedPolicy} :
    parent.restrict child = .ok result ↔
      result = child ∧ parent.layer.rank < child.layer.rank ∧ child.ceiling.Within parent.ceiling := by
  simp only [restrict, PolicyCeiling.levels, bind_ok, exists_unit, rejectIf_ok, forEach_ok, pure_ok,
    List.forall_mem_cons, List.not_mem_nil, false_implies, implies_true, and_true, decide_eq_false_iff_not, not_le,
    not_lt, Bool.and_eq_false_imp, Bool.not_eq_false']
  constructor
  · rintro ⟨layered, ⟨filesystem, network, process, device, credential⟩, persistent, rfl⟩
    exact ⟨rfl, layered, filesystem, network, process, device, credential, persistent⟩
  · rintro ⟨rfl, layered, within⟩
    exact ⟨layered, ⟨within.filesystem, within.network, within.process, within.device, within.credential⟩,
      within.persistentApproval, rfl⟩

namespace IdentityCatalog

/-- No two entities of a kind share an id. -/
structure DistinctIds (catalog : IdentityCatalog) : Prop where
  credentialReferences : (catalog.credentialReferences.map (·.metadata.id)).Nodup
  agentProviders : (catalog.agentProviders.map (·.metadata.id)).Nodup
  accounts : (catalog.accounts.map (·.metadata.id)).Nodup
  agentInstances : (catalog.agentInstances.map (·.metadata.id)).Nodup
  projects : (catalog.projects.map (·.metadata.id)).Nodup
  roles : (catalog.roles.map (·.metadata.id)).Nodup
  sessions : (catalog.sessions.map (·.metadata.id)).Nodup
  runs : (catalog.runs.map (·.metadata.id)).Nodup

theorem unique_ok {kind : EntityKind} {α : Type} {entity : String} {key : α → StableId kind} {items : List α} :
    unique entity (items.map fun item => (key item).value) = .ok () ↔ (items.map key).Nodup :=
  distinctValues_ok

theorem validate_distinct {catalog : IdentityCatalog} (valid : catalog.validate = .ok ()) : catalog.DistinctIds := by
  simp only [validate, bind_ok, exists_unit, unique_ok] at valid
  obtain ⟨references, providers, -, accounts, -, agents, projects, roles, sessions, runs, -⟩ := valid
  exact ⟨references, providers, accounts, agents, projects, roles, sessions, runs⟩

end IdentityCatalog

section Parts

variable {catalog : IdentityCatalog} {action : ApprovalAction}

/-- The run is one of the acting agent's, in the project of the request. -/
structure RunHeld (catalog : IdentityCatalog) (action : ApprovalAction) (run : Run) (session : Session) : Prop where
  found : Resolves (·.metadata.id) catalog.sessions run.sessionId session
  agent : session.agentInstanceId = action.agentInstanceId
  project : session.projectId = action.scope.projectId

theorem validateRunScope_ok (distinct : catalog.DistinctIds) (accepted : validateRunScope action catalog = .ok ())
    {runId : RunId} (named : action.scope.runId = some runId) :
    ∃ run session, Resolves (·.metadata.id) catalog.runs runId run ∧ RunHeld catalog action run session := by
  simp only [validateRunScope, named, bind_ok, exists_unit, okOr_ok, rejectIf_ok, decide_eq_false_iff_not,
    not_not] at accepted
  obtain ⟨run, found, session, opened, agent, project⟩ := accepted
  exact ⟨run, session, resolves_of_find distinct.runs found, resolves_of_find distinct.sessions opened, agent, project⟩

/-- What the checks on the action alone establish. -/
structure ActionHeld (action : ApprovalAction) (parent : ScopedPolicy) : Prop where
  within : action.requestedPolicy.ceiling.Within parent.ceiling
  lasting : action.risk.isHigh = true → action.requestedPolicy.ceiling.persistentApproval = false
  bound : ∀ binding, action.scope.credentialBinding = some binding → validateActionBinding action binding = .ok ()

theorem validateAction_held {parent : ScopedPolicy} (accepted : validateAction action parent = .ok ()) :
    ActionHeld action parent := by
  simp only [validateAction, bind_ok, exists_unit, mapError_ok, ScopedPolicy.restrict_ok, rejectIf_ok] at accepted
  obtain ⟨-, -, _, ⟨-, -, within⟩, lasting, -, bound⟩ := accepted
  refine ⟨within, fun risky => by simpa [risky] using lasting, fun binding carried => ?_⟩
  simpa only [carried] using bound

theorem validateBindingRun_ok (distinct : catalog.DistinctIds) {runId : RunId}
    (accepted : validateBindingRun action catalog runId = .ok ()) {roleId : RoleId}
    (named : action.roleId = some roleId) :
    ∃ run session role, Resolves (·.metadata.id) catalog.runs runId run ∧ run.metadata.lifecycle = .active ∧
      RunHeld catalog action run session ∧ session.metadata.lifecycle = .active ∧
      Resolves (·.metadata.id) catalog.roles roleId role ∧ role.metadata.lifecycle = .active := by
  simp only [validateBindingRun, named, bind_ok, exists_unit, okOr_ok, active_ok, rejectIf_ok,
    decide_eq_false_iff_not, not_not] at accepted
  obtain ⟨run, found, running, session, opened, live, agent, project, role, held, acting⟩ := accepted
  exact ⟨run, session, role, resolves_of_find distinct.runs found, running,
    ⟨resolves_of_find distinct.sessions opened, agent, project⟩, live, resolves_of_find distinct.roles held, acting⟩

end Parts

/-- The account an agent acts with carries the credential reference. -/
def AgentInstance.Carries (catalog : IdentityCatalog) (agent : AgentInstance) (referenceId : CredentialReferenceId) :
    Prop :=
  ∃ accountId account, agent.accountId = some accountId ∧
    Resolves (·.metadata.id) catalog.accounts accountId account ∧ account.credentialReferenceId = some referenceId

/-- What a request with a credential binding asks for, and the active entities the binding spells out. -/
structure BindingHeld (catalog : IdentityCatalog) (action : ApprovalAction) (binding : CredentialGrantBinding)
    (agent : AgentInstance) (project : Project) (provider : AgentProvider) (account : Account)
    (reference : CredentialReference) (role : Role) (run : Run) (session : Session) : Prop where
  actionKey : action.actionKey = "credential.use"
  capability : binding.capabilityKey = "provider.authenticate"
  references : action.scope.credentialReferenceIds = [reference.metadata.id]
  permission : action.requestedPolicy.ceiling.credential = .use
  risk : action.risk = .high ∨ action.risk = .critical
  agentActive : agent.metadata.lifecycle = .active
  projectActive : project.metadata.lifecycle = .active
  roleNamed : action.roleId = some role.metadata.id
  roleFound : Resolves (·.metadata.id) catalog.roles role.metadata.id role
  roleActive : role.metadata.lifecycle = .active
  runNamed : action.scope.runId = some run.metadata.id
  runFound : Resolves (·.metadata.id) catalog.runs run.metadata.id run
  runActive : run.metadata.lifecycle = .active
  sessionHeld : RunHeld catalog action run session
  sessionActive : session.metadata.lifecycle = .active
  providerFound : Resolves (·.metadata.id) catalog.agentProviders agent.agentProviderId provider
  providerActive : provider.metadata.lifecycle = .active
  agentAccount : agent.accountId = some account.metadata.id
  accountFound : Resolves (·.metadata.id) catalog.accounts account.metadata.id account
  accountActive : account.metadata.lifecycle = .active
  accountProvider : account.agentProviderId = provider.metadata.id
  accountReference : account.credentialReferenceId = some reference.metadata.id
  referenceFound : Resolves (·.metadata.id) catalog.credentialReferences reference.metadata.id reference
  referenceActive : reference.metadata.lifecycle = .active
  fields : binding = ⟨provider.metadata.id, account.metadata.id, provider.adapterKind, account.providerIdentity,
    reference.metadata.id, reference.backend, reference.service, reference.accountLabel, binding.capabilityKey⟩

/-- What holds of the action of an approval request that validates. -/
structure ApprovalSound (catalog : IdentityCatalog) (action : ApprovalAction) (agent : AgentInstance)
    (project : Project) : Prop where
  agentFound : Resolves (·.metadata.id) catalog.agentInstances action.agentInstanceId agent
  projectFound : Resolves (·.metadata.id) catalog.projects action.scope.projectId project
  belowProject : action.requestedPolicy.ceiling.Within project.policy.ceiling
  belowRole : ∀ roleId, action.roleId = some roleId → ∃ role, Resolves (·.metadata.id) catalog.roles roleId role ∧
    action.requestedPolicy.ceiling.Within role.policy.ceiling
  references : ∀ referenceId ∈ action.scope.credentialReferenceIds, agent.Carries catalog referenceId
  run : ∀ runId, action.scope.runId = some runId → ∃ run session,
    Resolves (·.metadata.id) catalog.runs runId run ∧ RunHeld catalog action run session
  lasting : action.risk = .high ∨ action.risk = .critical →
    action.requestedPolicy.ceiling.persistentApproval = false
  bound : ∀ binding, action.scope.credentialBinding = some binding → ∃ provider account reference role run session,
    BindingHeld catalog action binding agent project provider account reference role run session

section Soundness

variable {catalog : IdentityCatalog} {action : ApprovalAction} {agent : AgentInstance} {project : Project}

theorem ApprovalRisk.isHigh_iff {risk : ApprovalRisk} : risk.isHigh = true ↔ risk = .high ∨ risk = .critical := by
  cases risk <;> simp [isHigh]

theorem carries_of_held (distinct : catalog.DistinctIds) (held : CredentialScopeHeld catalog agent action.scope)
    {referenceId : CredentialReferenceId} (named : referenceId ∈ action.scope.credentialReferenceIds) :
    agent.Carries catalog referenceId := by
  rcases held with none | ⟨accountId, account, carried, owned, found, refers, each⟩
  · rw [none] at named
    cases named
  · have same := (each referenceId named).1
    exact ⟨accountId, account, owned, resolves_of_find distinct.accounts found, same ▸ refers⟩

theorem parentPolicy_role (distinct : catalog.DistinctIds) {parent : ScopedPolicy}
    (found : parentPolicy action catalog project = .ok parent) {roleId : RoleId}
    (named : action.roleId = some roleId) :
    ∃ role, Resolves (·.metadata.id) catalog.roles roleId role ∧ role.policy = parent := by
  simp only [parentPolicy, named, bind_ok, okOr_ok, pure_ok] at found
  obtain ⟨role, held, policy⟩ := found
  exact ⟨role, resolves_of_find distinct.roles held, policy⟩

/-- The chain the locator checks walk ends in the fields of the binding. -/
theorem LocatesCredential.fields {binding : CredentialGrantBinding} {provider : AgentProvider} {account : Account}
    {reference : CredentialReference}
    (located : LocatesCredential catalog agent project binding provider account reference) :
    binding = ⟨provider.metadata.id, account.metadata.id, provider.adapterKind, account.providerIdentity,
      reference.metadata.id, reference.backend, reference.service, reference.accountLabel, binding.capabilityKey⟩ := by
  have provided := (find_some located.providerFound).2
  have owned := (find_some located.accountFound).2
  have referred := (find_some located.referenceFound).2
  rw [provided, owned, referred, located.adapterKind, located.providerIdentity, located.backend, located.service,
    located.accountLabel]

theorem bindingHeld_of_accepted (distinct : catalog.DistinctIds) {binding : CredentialGrantBinding}
    (checks : validateActionBinding action binding = .ok ())
    (accepted : validateCredentialBinding action catalog agent project binding = .ok ()) :
    ∃ provider account reference role run session,
      BindingHeld catalog action binding agent project provider account reference role run session := by
  simp only [validateActionBinding, bind_ok, exists_unit, rejectIf_ok, decide_eq_false_iff_not, not_not,
    Bool.not_eq_false'] at checks
  obtain ⟨actionKey, -, capability, -, role, references, permission, risk, -⟩ := checks
  obtain ⟨roleId, named⟩ : ∃ roleId, action.roleId = some roleId :=
    Option.isSome_iff_exists.mp (by simpa using role)
  simp only [validateCredentialBinding, bind_ok, exists_unit, checked_ok, expect_ok, validateBindingLocator_ok]
    at accepted
  obtain ⟨⟨provider, account, reference, located⟩, runId, inRun, remaining⟩ := accepted
  obtain ⟨run, session, role, found, running, held, opened, acting, active⟩ :=
    validateBindingRun_ok distinct remaining named
  have provided := (find_some located.providerFound).2
  have owned := (find_some located.accountFound).2
  have referred := (find_some located.referenceFound).2
  have ran := (find_some found.found).2
  have acted := (find_some acting.found).2
  exact ⟨provider, account, reference, role, run, session, {
    actionKey, capability, permission
    references := by rw [references, referred]
    risk := ApprovalRisk.isHigh_iff.mp risk
    agentActive := located.agentActive
    projectActive := located.projectActive
    roleNamed := by rw [named, acted]
    roleFound := by rw [acted]; exact acting
    roleActive := active
    runNamed := by rw [inRun, ran]
    runFound := by rw [ran]; exact found
    runActive := running
    sessionHeld := held
    sessionActive := opened
    providerFound := by
      rw [located.agentProvider]
      exact resolves_of_find distinct.agentProviders located.providerFound
    providerActive := located.providerActive
    agentAccount := by rw [located.agentAccount, owned]
    accountFound := by
      rw [owned]
      exact resolves_of_find distinct.accounts located.accountFound
    accountActive := located.accountActive
    accountProvider := by rw [located.accountProvider, provided]
    accountReference := by rw [located.accountReference, referred]
    referenceFound := by
      rw [referred]
      exact resolves_of_find distinct.credentialReferences located.referenceFound
    referenceActive := located.referenceActive
    fields := located.fields }⟩

/-- Every check before the binding's establishes its part, whichever optional fields are absent. -/
theorem approvalSound_of_accepted (distinct : catalog.DistinctIds) {parent : ScopedPolicy}
    (references : validateReferences action catalog = .ok (agent, project, parent))
    (binding : ∀ binding, action.scope.credentialBinding = some binding →
      validateCredentialBinding action catalog agent project binding = .ok ())
    (checks : validateAction action parent = .ok ()) : ApprovalSound catalog action agent project := by
  simp only [validateReferences, bind_ok, exists_unit, okOr_ok, mapError_ok, pure_ok, Prod.mk.injEq,
    validateCredentialScope_ok, ScopedPolicy.restrict_ok] at references
  obtain ⟨_, found, _, named, _, ⟨-, -, below⟩, _, above, scope, held, rfl, rfl, rfl⟩ := references
  have held' := validateAction_held checks
  refine ⟨resolves_of_find distinct.agentInstances found, resolves_of_find distinct.projects named, below, ?_,
    fun _ => carries_of_held distinct held, fun _ => validateRunScope_ok distinct scope,
    fun risky => held'.lasting (ApprovalRisk.isHigh_iff.mpr risky), ?_⟩
  · intro roleId role
    obtain ⟨acting, resolved, policy⟩ := parentPolicy_role distinct above role
    exact ⟨acting, resolved, policy ▸ held'.within⟩
  · intro carried present
    exact bindingHeld_of_accepted distinct (held'.bound carried present) (binding carried present)

end Soundness

/-- A request that validates against a valid catalog stays below its ceilings, names only its agent's credential and
run, and carries only a binding the catalog spells out. -/
theorem approval_validation_sound [Sha256] [SerdeJson] (catalog : IdentityCatalog) (request : ApprovalRequest)
    (valid : catalog.validate = .ok ()) (accepted : request.validateAgainst catalog = .ok ()) :
    ∃ agent project, ApprovalSound catalog request.action agent project := by
  simp only [ApprovalRequest.validateAgainst, bind_ok, exists_unit, checked_ok] at accepted
  obtain ⟨-, ⟨agent, project, parent⟩, references, checks⟩ := accepted
  have distinct := IdentityCatalog.validate_distinct valid
  refine ⟨agent, project, ?_⟩
  cases carried : request.action.scope.credentialBinding with
  | none =>
    simp only [carried, ok_bind, checked_ok] at checks
    exact approvalSound_of_accepted distinct references (by simp [carried]) checks
  | some binding =>
    simp only [carried, bind_ok, exists_unit, checked_ok] at checks
    refine approvalSound_of_accepted distinct references (fun other present => ?_) checks.2
    cases carried.symm.trans present
    exact checks.1

section Accepted

/-- The catalog with one credential, a role, a session and a run in it. -/
def actingCatalog : IdentityCatalog :=
  { credentialCatalog with
    roles := [⟨recorded ⟨8⟩, "Operator", [], ⟨.roleOrAgent, useCeiling⟩⟩]
    sessions := [⟨recorded ⟨10⟩, ⟨6⟩, ⟨7⟩, none⟩]
    runs := [⟨recorded ⟨11⟩, ⟨10⟩, ⟨5⟩, .starting, none, none⟩] }

/-- The use of the credential in that run. -/
def runAction : ApprovalAction :=
  { unscopedAction with
    roleId := some ⟨8⟩
    scope := { unscopedAction.scope with runId := some ⟨11⟩ } }

def runRequest : ApprovalRequest :=
  ⟨⟨9⟩, "af4782812411c18d3888f8631154d23a79dcd4924fb73612dfa482bef7608f82", 1000, 2000, runAction⟩

abbrev runDigest : Sha256 :=
  .table [(Json.compact (hashInput ⟨9⟩ 1000 2000 runAction), "af4782812411c18d3888f8631154d23a79dcd4924fb73612dfa482bef7608f82")]

theorem approval_validation_sound_run :
    actingCatalog.validate = .ok () ∧
      ∃ agent project, ApprovalSound actingCatalog runRequest.action agent project :=
  have valid : actingCatalog.validate = .ok () := by decide +kernel
  have accepted : @ApprovalRequest.validateAgainst runDigest SerdeJson.compact runRequest actingCatalog = .ok () := by
    have unchanged : @ApprovalRequest.validateUnchanged runDigest SerdeJson.compact runRequest = .ok () := by
      unfold ApprovalRequest.validateUnchanged
      rw [rejectIf_ok, decide_eq_false_iff_not, not_not]
      exact table_first _ _ _
    unfold ApprovalRequest.validateAgainst
    rw [unchanged]
    decide +kernel
  ⟨valid, @approval_validation_sound runDigest SerdeJson.compact actingCatalog runRequest valid accepted⟩

end Accepted

end Bastet.Core
