import Bastet.Daemon.Effects

/-! What is proved about a launch that waits: everything recorded for its run agrees. -/

set_option autoImplicit false

namespace Bastet.Daemon

open Fallible Bastet.Core

variable [Sha256] [SerdeJson] {db : Database} {run : Run}

/-- The records of a run that waits for its approval or for its dispatch, and how they agree. -/
structure Waiting (db : Database) (run : Run) where
  launch : StagedRow
  plan : ProviderLaunchPlan
  session : Session
  row : GraphRow
  definition : GraphNode
  node : GraphNodeExecution
  attempt : NodeRunRow
  approval : ApprovalRow
  awaiting : run.state = .awaitingApproval
  unstarted : run.startedAt = none
  unfinished : run.finishedAt = none
  launchFound : db.staged.find? run.metadata.id = some launch
  launchWaits : launch.state.isWaiting = true
  launchUnfinished : launch.finishedAtMs = none
  launchUncancelled : launch.cancelReason = none
  planned : ProviderLaunchPlan.load db run.metadata.id = .ok plan
  planRun : plan.runId = run.metadata.id
  planSession : plan.sessionId = run.sessionId
  planModel : plan.identity.modelId = run.modelId
  catalogValid : db.identity.content.validate = .ok ()
  runFound : db.identity.content.run? run.metadata.id = some run
  sessionFound : db.identity.content.session? run.sessionId = some session
  sessionAgent : session.agentInstanceId = plan.identity.agentInstanceId
  sessionProject : session.projectId = plan.identity.projectId
  rowFound : db.graphs.find? plan.executionId = some row
  graphValid : row.execution.validate = .ok ()
  rowRevision : row.revision = row.execution.revision
  defined : row.execution.definition? plan.nodeId = some definition
  nodeFound : row.execution.node? plan.nodeId = some node
  role : definition.roleId = plan.roleId
  nodeAwaits : node.state = .awaitingApproval
  nodeOwner : node.owner = some plan.owner
  nodeRun : node.runId = some plan.runId
  latest : db.latestAttempt plan.executionId plan.nodeId = some attempt
  attemptOpen : isOpenAttempt plan attempt = true
  approvalFound : db.approvals.find? launch.requestId = some approval
  approvalId : approval.request.id = launch.requestId
  requested : validateRequestForPlan plan approval.request = .ok ()

section Checks

variable {launch : StagedRow} {plan : ProviderLaunchPlan} {catalog : IdentityCatalog} {execution : GraphExecution}
  {approval : ApprovalRow} {requestId : ApprovalRequestId}

omit [Sha256] [SerdeJson] in
theorem stagedLedger_ok : stagedLedger db run = .ok launch ↔
    (run.state = .awaitingApproval ∧ run.startedAt = none ∧ run.finishedAt = none) ∧
    db.staged.find? run.metadata.id = some launch ∧
    launch.state.isWaiting = true ∧ launch.finishedAtMs = none ∧ launch.cancelReason = none := by
  simp only [stagedLedger, bind_ok, exists_unit, reject_ok, required_ok, pure_ok, Bool.or_eq_false_iff,
    decide_eq_false_iff_not, not_not, ne_eq, Bool.not_eq_false', Option.isSome_eq_false_iff,
    Option.isNone_iff_eq_none, and_assoc]
  constructor
  · rintro ⟨awaiting, unstarted, unfinished, _, found, waits, open_, uncancelled, rfl⟩
    exact ⟨awaiting, unstarted, unfinished, found, waits, open_, uncancelled⟩
  · rintro ⟨awaiting, unstarted, unfinished, found, waits, open_, uncancelled⟩
    exact ⟨awaiting, unstarted, unfinished, _, found, waits, open_, uncancelled, rfl⟩

theorem stagedPlan_ok : stagedPlan db run = .ok plan ↔
    ProviderLaunchPlan.load db run.metadata.id = .ok plan ∧ plan.runId = run.metadata.id ∧
    plan.sessionId = run.sessionId ∧ plan.identity.modelId = run.modelId := by
  simp only [stagedPlan, bind_ok, exists_unit, reject_ok, pure_ok, Bool.or_eq_false_iff, decide_eq_false_iff_not,
    not_not, ne_eq, and_assoc]
  constructor
  · rintro ⟨_, planned, same, session, model, rfl⟩
    exact ⟨planned, same, session, model⟩
  · rintro ⟨planned, same, session, model⟩
    exact ⟨_, planned, same, session, model, rfl⟩

omit [Sha256] [SerdeJson] in
theorem stagedCatalog_ok : stagedCatalog db run plan = .ok catalog ↔
    catalog = db.identity.content ∧ db.identity.content.validate = .ok () ∧
    db.identity.content.run? run.metadata.id = some run ∧
    ∃ session, db.identity.content.session? run.sessionId = some session ∧
      session.agentInstanceId = plan.identity.agentInstanceId ∧ session.projectId = plan.identity.projectId := by
  simp only [stagedCatalog, bind_ok, exists_unit, loadCatalog_ok, reject_ok, required_ok, pure_ok,
    Bool.or_eq_false_iff, decide_eq_false_iff_not, not_not, ne_eq, and_assoc]
  constructor
  · rintro ⟨_, valid, rfl, _, found, rfl, session, located, agent, project, rfl⟩
    exact ⟨rfl, valid, found, session, located, agent, project⟩
  · rintro ⟨rfl, valid, found, session, located, agent, project⟩
    exact ⟨_, valid, rfl, _, found, rfl, session, located, agent, project, rfl⟩

omit [SerdeJson] in
theorem stagedGraph_ok : stagedGraph db plan = .ok execution ↔
    ∃ row definition node, db.graphs.find? plan.executionId = some row ∧ row.execution = execution ∧
      execution.validate = .ok () ∧ row.revision = execution.revision ∧
      execution.definition? plan.nodeId = some definition ∧ execution.node? plan.nodeId = some node ∧
      definition.roleId = plan.roleId ∧ node.state = .awaitingApproval ∧ node.owner = some plan.owner ∧
      node.runId = some plan.runId := by
  simp only [stagedGraph, bind_ok, exists_unit, lift_ok, reject_ok, required_ok, pure_ok, Bool.or_eq_false_iff,
    decide_eq_false_iff_not, not_not, ne_eq, and_assoc]
  constructor
  · rintro ⟨row, found, valid, revision, definition, defined, node, located, role, awaits, owner, bound, rfl⟩
    exact ⟨row, definition, node, found, rfl, valid, revision, defined, located, role, awaits, owner, bound⟩
  · rintro ⟨row, definition, node, found, rfl, valid, revision, defined, located, role, awaits, owner, bound⟩
    exact ⟨row, found, valid, revision, definition, defined, node, located, role, awaits, owner, bound, rfl⟩

theorem stagedRequest_ok : stagedRequest db requestId plan = .ok approval ↔
    db.approvals.find? requestId = some approval ∧ approval.request.id = requestId ∧
    validateRequestForPlan plan approval.request = .ok () := by
  simp only [stagedRequest, bind_ok, exists_unit, required_ok, reject_ok, pure_ok, decide_eq_false_iff_not, not_not,
    ne_eq]
  constructor
  · rintro ⟨_, found, same, requested, rfl⟩
    exact ⟨found, same, requested⟩
  · rintro ⟨found, same, requested⟩
    exact ⟨_, found, same, requested, rfl⟩

end Checks

/-- The checks of a staged context are exactly these. -/
theorem validateStagedContext_ok {decisionState live : Bool} :
    validateStagedContext db run decisionState live = .ok () ↔ ∃ waiting : Waiting db run,
      (live = true → liveAuthority db db.identity.content waiting.plan waiting.row.execution waiting.approval.request =
        .ok ()) ∧
      (decisionState = true → validateDecisionAndGrantState db waiting.approval.request waiting.launch.state
        waiting.approval.decision = .ok ()) := by
  have when : ∀ {holds : Bool} {check : StoreResult Unit},
      (if holds = true then check else .ok ()) = .ok () ↔ (holds = true → check = .ok ()) := by
    intro holds check
    cases holds <;> simp
  have whenThen : ∀ {holds : Bool} {check next : StoreResult Unit},
      (if holds = true then check >>= fun _ => next else .ok () >>= fun _ => next) = .ok () ↔
        (holds = true → check = .ok ()) ∧ next = .ok () := by
    intro holds check next
    cases holds <;> simp
  simp only [validateStagedContext, stagedAttempt, bind_ok, exists_unit, reject_ok, stagedLedger_ok, stagedPlan_ok,
    stagedCatalog_ok, stagedGraph_ok, stagedRequest_ok, Bool.not_eq_false', Option.any_eq_true, when, whenThen]
  constructor
  · rintro ⟨launch, ⟨⟨awaiting, unstarted, unfinished⟩, launchFound, launchWaits, launchUnfinished, launchUncancelled⟩,
      plan, ⟨planned, planRun, planSession, planModel⟩, _, ⟨rfl, catalogValid, runFound, session, sessionFound,
      sessionAgent, sessionProject⟩, _, ⟨row, definition, node, rowFound, rfl, graphValid, rowRevision, defined,
      nodeFound, role, nodeAwaits, nodeOwner, nodeRun⟩, ⟨attempt, latest, attemptOpen⟩, approval,
      ⟨approvalFound, approvalId, requested⟩, live, decided⟩
    exact ⟨⟨launch, plan, session, row, definition, node, attempt, approval, awaiting, unstarted, unfinished,
      launchFound, launchWaits, launchUnfinished, launchUncancelled, planned, planRun, planSession, planModel,
      catalogValid, runFound, sessionFound, sessionAgent, sessionProject, rowFound, graphValid, rowRevision, defined,
      nodeFound, role, nodeAwaits, nodeOwner, nodeRun, latest, attemptOpen, approvalFound, approvalId, requested⟩, live,
      decided⟩
  · rintro ⟨⟨launch, plan, session, row, definition, node, attempt, approval, awaiting, unstarted, unfinished,
      launchFound, launchWaits, launchUnfinished, launchUncancelled, planned, planRun, planSession, planModel,
      catalogValid, runFound, sessionFound, sessionAgent, sessionProject, rowFound, graphValid, rowRevision, defined,
      nodeFound, role, nodeAwaits, nodeOwner, nodeRun, latest, attemptOpen, approvalFound, approvalId, requested⟩, live,
      decided⟩
    exact ⟨launch, ⟨⟨awaiting, unstarted, unfinished⟩, launchFound, launchWaits, launchUnfinished, launchUncancelled⟩,
      plan, ⟨planned, planRun, planSession, planModel⟩, _, ⟨rfl, catalogValid, runFound, session, sessionFound,
      sessionAgent, sessionProject⟩, _, ⟨row, definition, node, rowFound, rfl, graphValid, rowRevision, defined,
      nodeFound, role, nodeAwaits, nodeOwner, nodeRun⟩, ⟨attempt, latest, attemptOpen⟩, approval,
      ⟨approvalFound, approvalId, requested⟩, live, decided⟩

/-- A run that waits has not started. -/
theorem validateStagedContext_run {decisionState live : Bool}
    (proved : validateStagedContext db run decisionState live = .ok ()) :
    run.state = .awaitingApproval ∧ run.startedAt = none ∧ db.identity.content.run? run.metadata.id = some run := by
  obtain ⟨waiting, _⟩ := validateStagedContext_ok.mp proved
  exact ⟨waiting.awaiting, waiting.unstarted, waiting.runFound⟩

end Bastet.Daemon
