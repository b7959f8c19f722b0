import Bastet.Daemon.UncertainLaunches

/-! The dispatch of a launch is authorised by what is stored when it is claimed, and a claim is one transaction:
it advances the grant, the launch, the run and the node together, or changes nothing. -/

set_option autoImplicit false

namespace Bastet.Daemon

open Fallible Bastet.Core Lookup

variable [Sha256] [SerdeJson]

/-- What a claim of the request `requestId` rests on at `now`. -/
structure Authority (db : Database) (now : Nat) (readable : ProviderCredentialSelection → Bool)
    (requestId : ApprovalRequestId) where
  approval : ApprovalRow
  decision : ApprovalDecision
  grant : GrantRow
  launch : StagedRow
  run : Run
  plan : ProviderLaunchPlan
  row : GraphRow
  definition : GraphNode
  node : GraphNodeExecution
  attempt : NodeRunRow
  binding : ProviderRunBinding
  policies : LaunchPolicySnapshot
  credential : ProviderCredentialSelection
  serving : db.daemon.lifecycle = .ready
  -- the request is unchanged and valid now, and asks for exactly this launch
  approvalFound : db.approvals.find? requestId = some approval
  identified : approval.request.id = requestId
  unchanged : approval.request.validateUnchanged = .ok ()
  created : approval.request.createdAtMs ≤ now
  unexpired : now < approval.request.expiresAtMs
  scope : approval.request.action.scope.runId = some run.metadata.id
  asks : approvalAction plan = .ok approval.request.action
  against : approval.request.validateAgainst db.identity.content = .ok ()
  -- the decision approves exactly this request
  decided : approval.decision = some decision
  approves : decision.kind = .approve
  addressed : decision.requestId = requestId
  exact_ : decision.requestHash = approval.request.requestHash
  -- its grant is neither consumed nor revoked
  grantFound : db.grants.find? requestId = some grant
  unconsumed : grant.consumedAtMs = none
  unrevoked : grant.revokedAtMs = none
  issued : grant.issuedAtMs = decision.decidedAtMs ∧ grant.issuedAtMs ≤ now
  -- launch, run, attempt and node wait for it
  launchFound : db.staged.find? run.metadata.id = some launch
  launchRequest : launch.requestId = requestId
  launchReady : launch.state = .ready
  runFound : db.identity.content.run? run.metadata.id = some run
  runAwaits : run.state = .awaitingApproval ∧ run.startedAt = none ∧ run.finishedAt = none
  latest : db.latestAttempt plan.executionId plan.nodeId = some attempt
  attemptOpen : attempt.runId = run.metadata.id ∧ attempt.attempt = plan.attempt ∧ attempt.finishedAt = none
  rowFound : db.graphs.find? plan.executionId = some row
  defined : row.execution.definition? plan.nodeId = some definition
  role : definition.roleId = plan.roleId
  nodeFound : row.execution.node? plan.nodeId = some node
  nodeAwaits : node.state = .awaitingApproval
  nodeOwner : node.owner = some plan.owner
  nodeRun : node.runId = some run.metadata.id
  -- the frozen plan is what the catalogs resolve to now
  planned : ProviderLaunchPlan.load db run.metadata.id = .ok plan
  planSession : plan.sessionId = run.sessionId
  planModel : plan.identity.modelId = run.modelId
  resolved : resolveProviderRunBinding db.identity.content db.m3.content row.execution plan.nodeId = .ok binding
  identity : plan.identity = binding.launchIdentity
  workspace : plan.workspaceRoot = binding.workspaceRoot
  prompt : plan.prompt = binding.prompt
  selected : plan.identity.account.bind (·.credential) = some credential
  accepted : readable credential = true
  -- its policies are the current ones, and permit the launch
  saved : plan.policy = some policies
  current : LaunchPolicySnapshot.capture db.identity.content plan.identity.projectId plan.roleId = .ok policies
  permits : isOk (policies.role.restrict ProviderLaunchPlan.onlineCliCeiling) = true

/-- A claim advances the grant, the claims, the launch, the run and its node, and nothing else. -/
structure Dispatches {db : Database} {now : Nat} {readable : ProviderCredentialSelection → Bool}
    {requestId : ApprovalRequestId} (authority : Authority db now readable requestId) (claim : DispatchClaim)
    (after : Database) : Prop where
  grants : after.grants = db.grants.update requestId (GrantRow.consume now) GrantRow.consume_requestId
  consumed : after.grants.find? requestId = some (authority.grant.consume now)
  claims : db.claims.insert ⟨authority.run.metadata.id, requestId, now⟩ = some after.claims
  staged : after.staged = db.staged.update authority.run.metadata.id (StagedRow.move .dispatching) StagedRow.move_runId
  dispatching : after.staged.find? authority.run.metadata.id = some (authority.launch.move .dispatching)
  identity : after.identity = ⟨db.identity.revision + 1,
    db.identity.content.updateRun authority.run.metadata.id (startRun (timestamp now))⟩
  starting : after.identity.content.run? authority.run.metadata.id = some (startRun (timestamp now) authority.run)
  graph : ∃ execution,
    authority.row.execution.activateStagedNode authority.plan.nodeId authority.plan.owner authority.run.metadata.id =
      .ok execution ∧
    after.graphs = db.graphs.update authority.plan.executionId (GraphRow.store execution (timestamp now))
      GraphRow.store_executionId ∧
    execution.node? authority.plan.nodeId = some (GraphExecution.activate authority.node)
  others : after.daemon = db.daemon ∧ after.m3 = db.m3 ∧ after.nodeRuns = db.nodeRuns ∧ after.outputs = db.outputs ∧
    after.approvals = db.approvals ∧ after.plans = db.plans
  receipt : claim.receipt.runId = authority.run.metadata.id ∧ claim.receipt.executionId = authority.plan.executionId ∧
    claim.receipt.nodeId = authority.plan.nodeId ∧ claim.receipt.launchIdentity = some authority.plan.identity ∧
    claim.receipt.workspaceRoot = authority.plan.workspaceRoot ∧ claim.receipt.prompt = authority.plan.prompt
  selection : claim.selection = authority.credential

variable {db : Database}

/-- The request of a planned run is valid against the catalogs, and they resolve to the plan and its policies. -/
theorem validateCurrentCatalog_planned {request : ApprovalRequest} {run : Run} {plan : ProviderLaunchPlan}
    (current : validateCurrentCatalog db request = .ok ()) (scope : request.action.scope.runId = some run.metadata.id)
    (found : db.identity.content.run? run.metadata.id = some run)
    (planned : ProviderLaunchPlan.load db run.metadata.id = .ok plan) :
    request.validateAgainst db.identity.content = .ok () ∧ plan.validateCurrentPolicy db.identity.content = .ok () ∧
      ∃ row binding, db.graphs.find? plan.executionId = some row ∧
        resolveProviderRunBinding db.identity.content db.m3.content row.execution plan.nodeId = .ok binding ∧
        plan.identity = binding.launchIdentity ∧ plan.workspaceRoot = binding.workspaceRoot ∧
        plan.prompt = binding.prompt := by
  have located : (db.identity.content.runs.find? fun other => other.metadata.id = run.metadata.id) = some run := found
  obtain ⟨attempt, recorded, execution, node⟩ := loadedPlan_attempt planned
  simp only [validateCurrentCatalog, bind_ok, exists_unit, lift_ok, liftFault_ok, required_ok, scope,
    Option.some.injEq] at current
  obtain ⟨_, against, other, same, _, roleId, _, _, _, attempted⟩ := current
  obtain rfl := Option.some.inj (located.symm.trans same)
  rw [recorded] at attempted
  simp only [validateCurrentAttempt, bind_ok, exists_unit, required_ok, lift_ok, reject_ok, Bool.not_eq_false']
    at attempted
  obtain ⟨_, row, rowFound, _, definition, defined, _, _, _, recorded', _, selected, rfl, binding, resolved, other,
    loaded, policy, same⟩ := attempted
  obtain rfl := Except.ok.inj (planned.symm.trans loaded)
  simp only [selectionCurrent, Bool.and_eq_true, decide_eq_true_eq] at same
  obtain ⟨⟨⟨⟨⟨⟨⟨⟨⟨⟨⟨bound, identity⟩, _⟩, placed⟩, _⟩, _⟩, _⟩, workspace⟩, prompt⟩, _⟩, _⟩, _⟩ := same
  rw [execution] at rowFound
  rw [← placed] at resolved
  exact ⟨against, policy, row, binding, rowFound, resolved, identity.trans bound, workspace, prompt⟩

omit [Sha256] [SerdeJson] in
theorem currentPolicy_saved {plan : ProviderLaunchPlan} {catalog : IdentityCatalog}
    (current : plan.validateCurrentPolicy catalog = .ok ()) :
    ∃ policies, plan.policy = some policies ∧
      LaunchPolicySnapshot.capture catalog plan.identity.projectId plan.roleId = .ok policies := by
  simp only [ProviderLaunchPlan.validateCurrentPolicy, bind_ok, exists_unit, required_ok, reject_ok,
    decide_eq_false_iff_not, not_not] at current
  obtain ⟨policies, saved, _, captured, found, rfl⟩ := current
  exact ⟨policies, saved, found⟩

omit [Sha256] [SerdeJson] in
theorem onlineCli_permits {plan : ProviderLaunchPlan} {policies : LaunchPolicySnapshot}
    (saved : plan.policy = some policies) (online : plan.validateOnlineCliRequirements = .ok ()) :
    isOk (policies.role.restrict ProviderLaunchPlan.onlineCliCeiling) = true := by
  simp only [ProviderLaunchPlan.validateOnlineCliRequirements, bind_ok, exists_unit, required_ok, lift_ok,
    pure_ok] at online
  obtain ⟨other, found, _, restricted, permitted, _⟩ := online
  obtain rfl := Option.some.inj (saved.symm.trans found)
  exact isOk_iff.mpr ⟨restricted, permitted⟩

/-- The grant of a loaded record, and the decision that verifies against its request. -/
theorem loadGrant_verified {id : ApprovalRequestId} {record : CredentialGrantRecord}
    (loaded : loadGrant db id = .ok record) :
    ∃ grant, db.grants.find? id = some grant ∧ record.request.validateUnchanged = .ok () ∧
      record.decision.requestId = id ∧ record.decision.requestHash = record.request.requestHash ∧
      grant.issuedAtMs = record.decision.decidedAtMs ∧ record.issuedAtMs = grant.issuedAtMs := by
  simp only [loadGrant, bind_ok, exists_unit, required_ok, lift_ok, reject_ok, Bool.or_eq_false_iff,
    decide_eq_false_iff_not, not_not, pure_ok] at loaded
  obtain ⟨grant, found, row, _, decision, _, unchanged, verified, ⟨⟨⟨same, _⟩, _⟩, issued⟩, rfl⟩ := loaded
  simp only [ApprovalRequest.verifyDecision, bind_ok, exists_unit, rejectIf_ok, Bool.or_eq_false_iff,
    decide_eq_false_iff_not, not_not] at verified
  exact ⟨grant, found, unchanged, verified.2.1.1.trans same, verified.2.1.2, issued, rfl⟩

omit [Sha256] [SerdeJson] in
theorem validateTime_ok {request : ApprovalRequest} {now : Nat} (timely : validateTime request now = .ok ()) :
    request.createdAtMs ≤ now ∧ now < request.expiresAtMs := by
  simp only [validateTime, reject_ok, Bool.or_eq_false_iff, decide_eq_false_iff_not, Nat.not_lt, Nat.not_le] at timely
  exact timely.1

theorem validateRequestForPlan_asks {plan : ProviderLaunchPlan} {request : ApprovalRequest}
    (requested : validateRequestForPlan plan request = .ok ()) : approvalAction plan = .ok request.action := by
  simp only [validateRequestForPlan, bind_ok, exists_unit, reject_ok, lift_ok, decide_eq_false_iff_not,
    not_not] at requested
  obtain ⟨action, asked, _, _, rfl⟩ := requested
  exact asked

/-- A claim that succeeds has its authority, and dispatches the launch. -/
theorem claimStagedDispatch_authority {now : Nat} {readable : ProviderCredentialSelection → Bool}
    {requestId : ApprovalRequestId} {after : Database} {claim : DispatchClaim}
    (committed : claimStagedDispatch db now readable requestId = .ok (after, claim)) :
    ∃ authority : Authority db now readable requestId, Dispatches authority claim after := by
  simp only [claimStagedDispatch, claimableGrant, claimedPlan, bind_ok, exists_unit, Prod.exists, required_ok,
    reject_ok, lift_ok, nextRevision_ok, pure_ok, Prod.mk.injEq, Option.any_eq_true, Bool.and_eq_true,
    decide_eq_true_eq, Bool.not_eq_eq_eq_not, Bool.not_false, decide_eq_false_iff_not, not_not, ne_eq] at committed
  obtain ⟨_, runId, ⟨serving, record, loaded, _, timely, usable, _, scope, ⟨launch, launchFound, launchRequest,
      launchReady⟩, rfl, rfl⟩, run, runFound, _, _, ⟨proved, current, plan, planned, online, credential, selected,
      accepted, rfl, rfl⟩, row, found, execution, activated, graphValid, _, _, catalogValid, _, ⟨_, rfl⟩, middle,
      written, rfl, rfl⟩ := committed
  obtain rfl : run.metadata.id = _ := (find_some runFound).2
  obtain ⟨grant, approval, grantFound, approvalFound, sameRequest, decided, identified, approves, _, unconsumed,
    unrevoked⟩ := loadGrant_ok loaded
  obtain ⟨_, same, unchanged, addressed, exact_, issued, issuedAt⟩ := loadGrant_verified loaded
  obtain rfl := Option.some.inj (grantFound.symm.trans same)
  simp only [CredentialGrantRecord.usableAt, Bool.and_eq_true, decide_eq_true_eq, Option.isNone_iff_eq_none] at usable
  obtain ⟨created, unexpired⟩ := validateTime_ok timely
  -- the records the staged run was proved with are the ones found here
  obtain ⟨waiting, -⟩ := validateStagedContext_ok.mp proved
  obtain rfl := Option.some.inj (launchFound.symm.trans waiting.launchFound)
  obtain rfl := Except.ok.inj (planned.symm.trans waiting.planned)
  obtain rfl := Option.some.inj (found.symm.trans waiting.rowFound)
  have approvalSame := waiting.approvalFound
  rw [launchRequest] at approvalSame
  obtain rfl := Option.some.inj (approvalFound.symm.trans approvalSame)
  obtain ⟨against, policy, _, binding, again, resolved, identity, workspace, prompt⟩ :=
    validateCurrentCatalog_planned current scope runFound planned
  obtain rfl := Option.some.inj (found.symm.trans again)
  obtain ⟨policies, saved, captured⟩ := currentPolicy_saved policy
  have open_ := waiting.attemptOpen
  simp only [isOpenAttempt, Bool.and_eq_true, decide_eq_true_eq, Option.isNone_iff_eq_none] at open_
  rw [← sameRequest] at unchanged exact_ created unexpired scope identified against
  obtain ⟨_, _, grants, claims, events, ⟨spentGrant, spentFound, _, _, rfl⟩, claimed, rfl⟩ := writeClaim_ok written
  obtain ⟨node, nodeFound, _, _, _, rfl⟩ := GraphExecution.activateStagedNode_ok activated
  obtain rfl := Option.some.inj (nodeFound.symm.trans waiting.nodeFound)
  have kept : ∀ node, (GraphExecution.activate node).nodeId = node.nodeId := fun _ => rfl
  have running : (waiting.row.execution.updateNode waiting.plan.nodeId GraphExecution.activate).node?
      waiting.plan.nodeId = some (GraphExecution.activate waiting.node) := by
    rw [GraphExecution.node?_updateNode kept, if_pos rfl, nodeFound, Option.map_some]
  have starting : (db.identity.content.updateRun run.metadata.id (startRun (timestamp now))).run? run.metadata.id =
      some (startRun (timestamp now) run) := by
    have same : ∀ run, (startRun (timestamp now) run).metadata.id = run.metadata.id := fun _ => rfl
    rw [IdentityCatalog.run?_updateRun same, if_pos rfl, runFound, Option.map_some]
  refine ⟨
    { approval := waiting.approval, decision := record.decision, grant, launch := waiting.launch, run,
      plan := waiting.plan, row := waiting.row, definition := waiting.definition, node := waiting.node,
      attempt := waiting.attempt, binding, policies, credential, serving, approvalFound, identified, unchanged, created,
      unexpired, scope, asks := validateRequestForPlan_asks waiting.requested, against, decided, approves, addressed,
      exact_, grantFound, unconsumed := unconsumed.trans usable.1.2, unrevoked := unrevoked.trans usable.2,
      issued := ⟨issued, issuedAt ▸ usable.1.1⟩, launchFound, launchRequest, launchReady, runFound,
      runAwaits := ⟨waiting.awaiting, waiting.unstarted, waiting.unfinished⟩, latest := waiting.latest,
      attemptOpen := ⟨open_.1.1.1.1.trans waiting.planRun, open_.1.1.1.2, open_.1.1.2⟩, rowFound := found,
      defined := waiting.defined, role := waiting.role, nodeFound := waiting.nodeFound,
      nodeAwaits := waiting.nodeAwaits, nodeOwner := waiting.nodeOwner,
      nodeRun := waiting.nodeRun.trans (congrArg some waiting.planRun), planned, planSession := waiting.planSession,
      planModel := waiting.planModel, resolved, identity, workspace, prompt, selected, accepted, saved,
      current := captured, permits := onlineCli_permits saved online }, ?_⟩
  exact
    { grants := rfl
      consumed := by
        dsimp only
        rw [Table.find?_update_self, grantFound]
        rfl
      claims := claimed
      staged := rfl
      dispatching := by
        dsimp only
        rw [Table.find?_update_self, launchFound]
        rfl
      identity := rfl
      starting
      graph := ⟨_, activated, rfl, running⟩
      others := ⟨rfl, rfl, rfl, rfl, rfl, rfl⟩
      receipt := ⟨rfl, rfl, rfl, rfl, rfl, rfl⟩
      selection := rfl }

/-- For every stored state, clock and request: a claim succeeds only with the authority for exactly this launch,
and then dispatches it; a claim that fails leaves the process with the database as it was. -/
theorem credential_dispatch_authorized (process : DaemonProcess) (now : Nat)
    (readable : ProviderCredentialSelection → Bool) (requestId : ApprovalRequestId) :
    (∀ after claim, claimStagedDispatch process.db now readable requestId = .ok (after, claim) →
      (∃ authority : Authority process.db now readable requestId, Dispatches authority claim after) ∧
        (process.service = .serving → (process.next (.claim now readable requestId)).db = after)) ∧
    (∀ fault, claimStagedDispatch process.db now readable requestId = .error fault →
      (process.next (.claim now readable requestId)).db = process.db) := by
  refine ⟨fun after claim committed => ⟨claimStagedDispatch_authority committed, fun serving => ?_⟩,
    fun fault failed => ?_⟩
  · simp only [DaemonProcess.next, DaemonProcess.commit, committed, serving]
  · simp only [DaemonProcess.next, failed]
    rcases process.commit_cases (.error fault : StoreResult (Database × DispatchClaim)) _ with
      ⟨_, _, impossible, _⟩ | ⟨service, same⟩
    · cases impossible
    · rw [same]

/-- The launch of `accountRun` is claimed. -/
example : isOk (@claimStagedDispatch accountDigests firstField
    (@DaemonProcess.run accountDigests firstField .fresh (accountRun.take 6)).db 8 (fun _ => true) (nth 32)) = true := by
  decide +kernel

end Bastet.Daemon
