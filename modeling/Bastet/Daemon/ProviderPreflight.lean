import Bastet.Daemon.OutcomeProgress
import Bastet.Daemon.StagedContext

/-! The check of a launch just before its provider is started. What the receipt of a run repeats of the store is never
changed, so that the check turns on what is current: the run, its node, its inputs and the policies. -/

set_option autoImplicit false

namespace Bastet.Daemon

open Fallible Bastet.Core

section Preflight

def ProviderLaunchPlan.matchesReceipt (self : ProviderLaunchPlan) (receipt : BeginGraphNodeRunReceipt) : Bool :=
  decide (self.executionId = receipt.executionId) && decide (self.nodeId = receipt.nodeId) &&
    decide (self.sessionId = receipt.sessionId) && decide (self.runId = receipt.runId) &&
    decide (some self.identity = receipt.launchIdentity) && decide (self.identity.adapterKind = receipt.adapterKind) &&
    decide (self.identity.model = receipt.model) && decide (self.workspaceRoot = receipt.workspaceRoot) &&
    decide (self.prompt = receipt.prompt)

variable [Sha256] [SerdeJson]

/-- `Store::preflight_provider_launch`. -/
def preflightProviderLaunch (db : Database) (receipt : BeginGraphNodeRunReceipt) : StoreResult Unit := do
  let plan ← ProviderLaunchPlan.load db receipt.runId
  reject (!plan.matchesReceipt receipt) (.invalidRunState "launch receipt differs from durable plan")
  let selection ← loadLaunchIdentity db receipt.runId
  let selected ← required selection (.invalidRunState "launch selection unavailable")
  reject (decide (receipt.launchIdentity ≠ some selected) || decide (receipt.adapterKind ≠ selected.adapterKind) ||
    decide (receipt.model ≠ selected.model)) (.invalidRunState "launch receipt differs from durable selection")
  let attempt ← required (db.nodeRuns.find? receipt.runId) .database
  reject (decide (attempt.executionId ≠ receipt.executionId) || decide (attempt.nodeId ≠ receipt.nodeId) ||
    decide (attempt.attempt ≠ plan.attempt) || attempt.finishedAt.isSome)
    (.invalidRunState "launch receipt belongs to another node")
  let run ← required (db.identity.content.run? receipt.runId) .runNotFound
  let session ← required (db.identity.content.session? run.sessionId) .runNotFound
  reject (decide (run.state ≠ .starting) || decide (run.sessionId ≠ receipt.sessionId) ||
    decide (run.modelId ≠ selected.modelId) || decide (session.agentInstanceId ≠ selected.agentInstanceId) ||
    decide (session.projectId ≠ selected.projectId)) (.invalidRunState "launch run identity changed")
  let row ← required (db.graphs.find? attempt.executionId) .database
  let binding ← resolveProviderRunBinding db.identity.content db.m3.content row.execution receipt.nodeId
  plan.validateCurrentPolicy db.identity.content
  let node ← required (row.execution.node? receipt.nodeId) .runNotFound
  let definition ← required (row.execution.definition? receipt.nodeId) .runNotFound
  reject (decide (binding.launchIdentity ≠ selected) || decide (node.state ≠ .running) ||
    decide (node.owner ≠ some plan.owner) || decide (definition.roleId ≠ plan.roleId) ||
    decide (binding.workspaceRoot ≠ receipt.workspaceRoot) || decide (binding.prompt ≠ receipt.prompt) ||
    decide (node.runId ≠ some receipt.runId)) (.invalidRunState "provider launch inputs changed")

/-- `Store::validate_online_cli_launch`. -/
def validateOnlineCliLaunch (db : Database) (receipt : BeginGraphNodeRunReceipt) : StoreResult Unit := do
  preflightProviderLaunch db receipt
  let plan ← ProviderLaunchPlan.load db receipt.runId
  plan.validateOnlineCliRequirements

end Preflight

section Origins

/-- A later record of the same attempt. -/
structure NodeRunRow.SameAttempt (row later : NodeRunRow) : Prop where
  executionId : later.executionId = row.executionId
  nodeId : later.nodeId = row.nodeId
  attempt : later.attempt = row.attempt
  launchIdentity : later.launchIdentity = row.launchIdentity

/-- The attempts keep what they were recorded with. -/
def KeepsAttempts (db after : Database) : Prop :=
  ∀ id row, db.nodeRuns.find? id = some row → ∃ later, after.nodeRuns.find? id = some later ∧ row.SameAttempt later

/-- The runs keep their session and their model. -/
def KeepsOrigins (catalog next : IdentityCatalog) : Prop :=
  ∀ id run, catalog.run? id = some run →
    ∃ later, next.run? id = some later ∧ later.sessionId = run.sessionId ∧ later.modelId = run.modelId

variable {db after last : Database} {catalog next final : IdentityCatalog}

theorem KeepsAttempts.of_same (same : after.nodeRuns = db.nodeRuns) : KeepsAttempts db after :=
  fun _ row found => ⟨row, same ▸ found, rfl, rfl, rfl, rfl⟩

theorem KeepsAttempts.trans (first : KeepsAttempts db after) (second : KeepsAttempts after last) :
    KeepsAttempts db last := by
  intro id row found
  obtain ⟨middle, reached, one⟩ := first id row found
  obtain ⟨later, arrived, two⟩ := second id middle reached
  exact ⟨later, arrived, two.executionId.trans one.executionId, two.nodeId.trans one.nodeId,
    two.attempt.trans one.attempt, two.launchIdentity.trans one.launchIdentity⟩

/-- The end of an attempt is no other attempt. -/
theorem KeepsAttempts.of_finish {runId : RunId} {finishedAt : String} {terminalState : NormalizedRunState}
    {failure : Option AdapterFailure} (same : after.nodeRuns =
      db.nodeRuns.update runId (NodeRunRow.finish finishedAt terminalState failure) NodeRunRow.finish_runId) :
    KeepsAttempts db after := by
  intro id row found
  rw [same, Table.find?_update, found]
  split
  · exact ⟨_, rfl, rfl, rfl, rfl, rfl⟩
  · exact ⟨row, rfl, rfl, rfl, rfl, rfl⟩

theorem KeepsOrigins.of_runs (same : ∀ id run, catalog.run? id = some run → next.run? id = some run) :
    KeepsOrigins catalog next :=
  fun id run found => ⟨run, same id run found, rfl, rfl⟩

theorem KeepsOrigins.trans (first : KeepsOrigins catalog next) (second : KeepsOrigins next final) :
    KeepsOrigins catalog final := by
  intro id run found
  obtain ⟨middle, reached, session, model⟩ := first id run found
  obtain ⟨later, arrived, session', model'⟩ := second id middle reached
  exact ⟨later, arrived, session'.trans session, model'.trans model⟩

theorem KeepsOrigins.of_updateRun {runId : RunId} {change : Run → Run}
    (kept : ∀ run, (change run).metadata.id = run.metadata.id) (session : ∀ run, (change run).sessionId = run.sessionId)
    (model : ∀ run, (change run).modelId = run.modelId) : KeepsOrigins catalog (catalog.updateRun runId change) := by
  intro id run found
  rw [IdentityCatalog.run?_updateRun kept, found]
  split
  · exact ⟨_, rfl, session run, model run⟩
  · exact ⟨run, rfl, rfl, rfl⟩

variable [Sha256] [SerdeJson]

theorem MayCancel.keepsOrigins {now : Nat} {requestId : ApprovalRequestId} {reason : String}
    (cancels : MayCancel db now requestId reason after) :
    KeepsAttempts db after ∧ KeepsOrigins db.identity.content after.identity.content := by
  rcases cancels with ⟨rfl, _⟩ | ⟨_, _, _, _, _, _, cancels⟩
  · exact ⟨.of_same rfl, .of_runs fun _ _ => id⟩
  · obtain ⟨_, _, _, rfl⟩ := cancels.left
    exact ⟨.of_finish rfl, .of_updateRun (fun _ => rfl) (fun _ => rfl) fun _ => rfl⟩

theorem CancelsSome.keepsOrigins {now : Nat} (cancels : CancelsSome now db after) :
    KeepsAttempts db after ∧ KeepsOrigins db.identity.content after.identity.content := by
  induction cancels with
  | refl => exact ⟨.of_same rfl, .of_runs fun _ _ => id⟩
  | tail _ last ih =>
    obtain ⟨_, _, cancels⟩ := last
    exact ⟨ih.1.trans cancels.keepsOrigins.1, ih.2.trans cancels.keepsOrigins.2⟩

theorem onDecision_keepsOrigins {now : Nat} {request : ApprovalRequest} {kind : ApprovalDecisionKind}
    (informed : onDecision db now request kind = .ok after) :
    KeepsAttempts db after ∧ KeepsOrigins db.identity.content after.identity.content := by
  rcases onDecision_ok informed with ⟨_, rfl⟩ | ⟨_, _, _, _, _, _, _, _, _, _, _, rfl⟩ | ⟨_, cancels⟩
  · exact ⟨.of_same rfl, .of_runs fun _ _ => id⟩
  · exact ⟨.of_same rfl, .of_runs fun _ _ => id⟩
  · exact cancels.keepsOrigins

omit [Sha256] [SerdeJson] in
theorem Reports.keepsOrigins {updatedAt : String} {command : Command} (reports : Reports db updatedAt command next) :
    KeepsOrigins db.identity.content next := by
  cases reports with
  | @running _ _ marked _ _ current found active mark named =>
    have moved : KeepsOrigins db.identity.content marked := by
      rw [markRunning_ok mark]
      split
      · exact .of_updateRun (fun _ => rfl) (fun _ => rfl) fun _ => rfl
      · exact .of_runs fun _ _ => id
    rcases nameSession_ok named with rfl | ⟨_, rfl⟩
    · exact moved
    · exact moved
  | cancelling => exact .of_updateRun (fun _ => rfl) (fun _ => rfl) fun _ => rfl

omit [Sha256] [SerdeJson] in
theorem finishedCatalog_keepsOrigins {now : Nat} {run : Run} {session : Session} {state : NormalizedRunState}
    {name : Option String} (made : finishedCatalog catalog now run session state name = .ok next) :
    KeepsOrigins catalog next := by
  have ended : KeepsOrigins catalog (catalog.updateRun run.metadata.id (endRun state (timestamp now))) :=
    .of_updateRun (fun _ => rfl) (fun _ => rfl) fun _ => rfl
  simp only [finishedCatalog, bind_ok] at made
  obtain ⟨_, _, made⟩ := made
  split at made
  · simp only [bind_ok, exists_unit, pure_ok] at made
    obtain ⟨_, _, _, rfl⟩ := made
    exact ended
  · exact pure_ok.mp made ▸ ended

omit [Sha256] [SerdeJson] in
theorem recovered_keepsOrigins (catalog : IdentityCatalog) (updatedAt : String) :
    KeepsOrigins catalog (catalog.recovered updatedAt) := by
  intro id run found
  rw [recovered_run?, found]
  refine ⟨_, rfl, ?_⟩
  unfold Run.recovered
  split
  · exact ⟨rfl, rfl⟩
  · split <;> exact ⟨rfl, rfl⟩

/-- Every change keeps the attempts, and the sessions and models of the runs. -/
theorem Change.keepsOrigins {action : Action} (change : Change db action after) :
    KeepsAttempts db after ∧ KeepsOrigins db.identity.content after.identity.content := by
  cases change with
  | quiet | shifted | replacedM3 | accepted | createdGraph | restartedGraph | requested | consumed =>
    exact ⟨.of_same rfl, .of_runs fun _ _ => id⟩
  | replacedCatalog events valid kept =>
    refine ⟨.of_same rfl, .of_runs fun id run found => ?_⟩
    obtain ⟨member, same⟩ := Lookup.find_some found
    exact same ▸ keepsRun_ok (kept run member)
  | prepared events made initial =>
    refine ⟨.of_same rfl, fun id run found => ?_⟩
    rw [initial] at found
    cases found
  | storedM3 stored =>
    obtain ⟨_, _, _, rfl⟩ := stored
    exact ⟨.of_same rfl, .of_runs fun _ _ => id⟩
  | reported events valid reports => exact ⟨.of_same rfl, reports.keepsOrigins⟩
  | worked stored =>
    obtain ⟨_, _, _, _, _, rfl⟩ := stored
    exact ⟨.of_same rfl, .of_runs fun _ _ => id⟩
  | begun events begun serving attended current left =>
    have stages := Beginning.stages left
    refine ⟨fun id row found => ⟨row, ?_, rfl, rfl, rfl, rfl⟩, .of_runs fun id run found => ?_⟩
    · simp only [stages.nodeRuns, Beginning.database]
      exact Table.find?_insert_of_some begun.attempted found
    · simp only [stages.identity, Beginning.database, withAttempt, IdentityCatalog.run?] at found ⊢
      rw [List.find?_append, found, Option.some_or]
  | finished events trusted finishing =>
    have kept := finishedCatalog_keepsOrigins finishing.catalogMade
    exact ⟨.of_finish rfl, kept⟩
  | decided issued events deciding informed =>
    have kept := onDecision_keepsOrigins informed
    exact kept
  | cancelled events some => exact some.keepsOrigins
  | revoked events spent cancels => exact cancels.keepsOrigins
  | claimed | abandoned => exact ⟨.of_same rfl, .of_updateRun (fun _ => rfl) (fun _ => rfl) fun _ => rfl⟩
  | @recovered now _ revision events middle proved catalogValid recoverable revised expired =>
    have kept := expired.keepsOrigins
    exact ⟨KeepsAttempts.trans (.of_same rfl) kept.1, (recovered_keepsOrigins _ _).trans kept.2⟩

end Origins

section Authentic

variable [Sha256] [SerdeJson] {db after : Database} {receipt : BeginGraphNodeRunReceipt} {plan : ProviderLaunchPlan}

/-- A plan is loaded when it is the stored one, and that of the attempt recorded for its run. -/
theorem ProviderLaunchPlan.load_iff {runId : RunId} : ProviderLaunchPlan.load db runId = .ok plan ↔
    (∃ row, db.plans.find? runId = some row ∧ row.plan = plan ∧ row.planHash = plan.hash) ∧ plan.versionValid = true ∧
    plan.runId = runId ∧ (∀ policy, plan.policy = some policy → policy.validate = .ok ()) ∧
    ∃ attempt, db.nodeRuns.find? runId = some attempt ∧ plan.matchesAttempt attempt = true ∧
      attempt.launchIdentity = .recorded plan.identity := by
  -- what is checked of the attempt, after the policy
  have ledger : ∀ stored : ProviderLaunchPlan, (do
      reject (!(db.nodeRuns.find? runId).any stored.matchesAttempt)
        (.invalidRunState "launch plan differs from attempt ledger")
      let selected ← loadLaunchIdentity db runId
      reject (decide (selected ≠ some stored.identity)) (.invalidRunState "launch plan differs from attempt ledger")
      return stored) = .ok plan ↔
      stored = plan ∧ ∃ attempt, db.nodeRuns.find? runId = some attempt ∧ stored.matchesAttempt attempt = true ∧
        attempt.launchIdentity = .recorded stored.identity := by
    intro stored
    simp only [loadLaunchIdentity, bind_ok, exists_unit, required_ok, reject_ok, Bool.not_eq_false', pure_ok,
      Option.any_eq_true, decide_eq_false_iff_not, not_not, ne_eq]
    constructor
    · rintro ⟨⟨attempt, recorded, matched⟩, _, ⟨again, found, column⟩, rfl, same⟩
      obtain rfl := Option.some.inj (recorded.symm.trans found)
      refine ⟨same, attempt, recorded, matched, ?_⟩
      cases kept : attempt.launchIdentity <;> simp_all
    · rintro ⟨same, attempt, recorded, matched, column⟩
      exact ⟨⟨attempt, recorded, matched⟩, _, ⟨attempt, recorded, by rw [column]; rfl⟩, rfl, same⟩
  unfold ProviderLaunchPlan.load
  simp only [bind_ok, exists_unit, required_ok, reject_ok, Bool.or_eq_false_iff, Bool.not_eq_false',
    decide_eq_false_iff_not, not_not, ne_eq]
  constructor
  · rintro ⟨row, found, ⟨⟨version, own⟩, hash⟩, loaded⟩
    cases saved : row.plan.policy with
    | none =>
      rw [saved] at loaded
      obtain ⟨rfl, attempt⟩ := (ledger row.plan).mp loaded
      refine ⟨⟨row, found, rfl, hash.symm⟩, version, own, fun other given => ?_, attempt⟩
      rw [saved] at given
      cases given
    | some policy =>
      rw [saved] at loaded
      dsimp only at loaded
      obtain ⟨_, checked, loaded⟩ := bind_ok.mp loaded
      obtain ⟨rfl, attempt⟩ := (ledger row.plan).mp loaded
      refine ⟨⟨row, found, rfl, hash.symm⟩, version, own, fun other given => ?_, attempt⟩
      obtain rfl := Option.some.inj (saved.symm.trans given)
      exact checked
  · rintro ⟨⟨row, found, rfl, hash⟩, version, own, valid, attempt⟩
    refine ⟨row, found, ⟨⟨version, own⟩, hash.symm⟩, ?_⟩
    have loaded := (ledger row.plan).mpr ⟨rfl, attempt⟩
    cases saved : row.plan.policy with
    | none => exact loaded
    | some policy =>
      exact bind_ok.mpr ⟨(), valid policy saved, loaded⟩

/-- A plan is loaded as long as it and its attempt are kept. -/
theorem load_kept {runId : RunId} (plans : KeepsPlans db after) (attempts : KeepsAttempts db after)
    (loaded : ProviderLaunchPlan.load db runId = .ok plan) : ProviderLaunchPlan.load after runId = .ok plan := by
  obtain ⟨⟨row, found, planned⟩, version, own, valid, attempt, recorded, matched, column⟩ :=
    ProviderLaunchPlan.load_iff.mp loaded
  obtain ⟨later, reached, same⟩ := attempts _ attempt recorded
  refine ProviderLaunchPlan.load_iff.mpr ⟨⟨row, plans _ row found, planned⟩, version, own, valid, later, reached, ?_,
    same.launchIdentity.trans column⟩
  simp only [ProviderLaunchPlan.matchesAttempt, same.executionId, same.nodeId, same.attempt] at matched ⊢
  exact matched

/-- What a receipt repeats is what the store holds of its run. -/
structure Authentic (db : Database) (receipt : BeginGraphNodeRunReceipt) (plan : ProviderLaunchPlan) : Prop where
  loaded : ProviderLaunchPlan.load db receipt.runId = .ok plan
  current : plan.version = 2
  matched : plan.matchesReceipt receipt = true
  placed : ∃ run session, db.identity.content.run? receipt.runId = some run ∧ run.sessionId = receipt.sessionId ∧
    run.modelId = plan.identity.modelId ∧ db.identity.content.session? run.sessionId = some session ∧
    session.agentInstanceId = plan.identity.agentInstanceId ∧ session.projectId = plan.identity.projectId
  cast : ∃ row definition, db.graphs.find? receipt.executionId = some row ∧
    row.execution.definition? receipt.nodeId = some definition ∧ definition.roleId = plan.roleId

/-- Every change leaves a receipt authentic. -/
theorem Authentic.follow {action : Action} (authentic : Authentic db receipt plan) (change : Change db action after)
    (graphs : SoundGraphs db) : Authentic after receipt plan where
  loaded := load_kept change.keepsPlans change.keepsOrigins.1 authentic.loaded
  current := authentic.current
  matched := authentic.matched
  placed := by
    obtain ⟨run, session, found, own, model, located, agent, project⟩ := authentic.placed
    obtain ⟨later, reached, sameSession, sameModel⟩ := change.keepsOrigins.2 _ run found
    obtain ⟨other, arrived, sameAgent, sameProject⟩ := change.keepsSessions _ run session found located
    exact ⟨later, other, reached, sameSession.trans own, sameModel.trans model, sameSession.symm ▸ arrived,
      sameAgent.trans agent, sameProject.trans project⟩
  cast := by
    obtain ⟨row, definition, found, defined, role⟩ := authentic.cast
    obtain ⟨later, reached, frame⟩ := (change.graphsFollow graphs).frame graphs found
    refine ⟨later, definition, reached, ?_, role⟩
    unfold GraphExecution.definition? at defined ⊢
    rw [frame.graph, defined]

/-- What may have changed since a run began is as it was: the run has not got further, its node works for it, its
inputs resolve to what it was begun with, and the policies are those its plan saved. -/
structure Startable (db : Database) (receipt : BeginGraphNodeRunReceipt) (plan : ProviderLaunchPlan) : Prop where
  starting : ∃ run, db.identity.content.run? receipt.runId = some run ∧ run.state = .starting
  unfinished : ∃ attempt, db.nodeRuns.find? receipt.runId = some attempt ∧ attempt.finishedAt = none
  occupied : ∃ row node, db.graphs.find? receipt.executionId = some row ∧
    row.execution.node? receipt.nodeId = some node ∧ node.state = .running ∧ node.owner = some plan.owner ∧
    node.runId = some receipt.runId
  inputs : ∃ row binding, db.graphs.find? receipt.executionId = some row ∧
    resolveProviderRunBinding db.identity.content db.m3.content row.execution receipt.nodeId = .ok binding ∧
    some binding.launchIdentity = receipt.launchIdentity ∧ binding.workspaceRoot = receipt.workspaceRoot ∧
    binding.prompt = receipt.prompt
  policies : ∃ policy, plan.policy = some policy ∧
    LaunchPolicySnapshot.capture db.identity.content plan.identity.projectId plan.roleId = .ok policy

/-- The check of an authentic receipt turns on what may have changed. -/
theorem Authentic.preflight_iff (authentic : Authentic db receipt plan) :
    preflightProviderLaunch db receipt = .ok () ↔ Startable db receipt plan := by
  obtain ⟨loaded, current, matched, ⟨run, session, ran, own, model, located, agent, project⟩,
    ⟨row, definition, stored, defined, role⟩⟩ := authentic
  obtain ⟨_, _, _, _, attempt, recorded, attempted, column⟩ := ProviderLaunchPlan.load_iff.mp loaded
  have selected : loadLaunchIdentity db receipt.runId = .ok (some plan.identity) := by
    simp only [loadLaunchIdentity, bind_ok, required_ok]
    exact ⟨attempt, recorded, by rw [column]; rfl⟩
  have fields := matched
  simp only [ProviderLaunchPlan.matchesReceipt, Bool.and_eq_true, decide_eq_true_eq] at fields
  obtain ⟨⟨⟨⟨⟨⟨⟨⟨execution, node⟩, _⟩, _⟩, identity⟩, adapter⟩, named⟩, _⟩, _⟩ := fields
  simp only [ProviderLaunchPlan.matchesAttempt, Bool.and_eq_true, decide_eq_true_eq] at attempted
  obtain ⟨⟨executed, noded⟩, counted⟩ := attempted
  rw [own] at located
  unfold preflightProviderLaunch ProviderLaunchPlan.validateCurrentPolicy
  simp only [bind_ok, exists_unit, required_ok, reject_ok, loaded, selected, recorded, ran, located, stored, defined,
    matched, Except.ok.injEq, Option.some.injEq, exists_eq_left', Bool.not_true, Bool.or_eq_false_iff,
    decide_eq_false_iff_not, not_not, ne_eq, identity.symm, adapter.symm, named.symm, executed, execution, noded, node,
    counted, own, model, agent, project, current, role, true_and, and_true, Option.isSome_eq_false_iff,
    Option.isNone_iff_eq_none]
  constructor
  · rintro ⟨unfinished, starting, binding, resolved, ⟨policy, saved, _, captured, rfl⟩, held, occupied,
      ⟨⟨⟨⟨same, working⟩, owned⟩, workspace⟩, prompt⟩, bound⟩
    exact ⟨⟨run, ran, starting⟩, ⟨attempt, recorded, unfinished⟩, ⟨row, held, stored, occupied, working, owned, bound⟩,
      ⟨row, binding, stored, resolved, (congrArg some same).trans identity, workspace, prompt⟩, policy, saved, captured⟩
  · rintro ⟨⟨_, again, starting⟩, ⟨_, recordedAgain, unfinished⟩, ⟨_, held, storedAgain, occupied, working, owned, bound⟩,
      ⟨_, binding, storedThen, resolved, same, workspace, prompt⟩, policy, saved, captured⟩
    obtain rfl := Option.some.inj (ran.symm.trans again)
    obtain rfl := Option.some.inj (recorded.symm.trans recordedAgain)
    obtain rfl := Option.some.inj (stored.symm.trans storedAgain)
    obtain rfl := Option.some.inj (stored.symm.trans storedThen)
    have chosen : binding.launchIdentity = plan.identity := Option.some.inj (same.trans identity.symm)
    exact ⟨unfinished, starting, binding, resolved, ⟨policy, saved, policy, captured, rfl⟩, held, occupied,
      ⟨⟨⟨⟨chosen, working⟩, owned⟩, workspace⟩, prompt⟩, bound⟩

end Authentic

section Begun

variable [Sha256] [SerdeJson] {db after : Database} {now : Nat} {ids : RunIds} {id : GraphRunId}
  {command : BeginGraphNodeRunCommand} {receipt : BeginGraphNodeRunReceipt}

omit [Sha256] [SerdeJson] in
/-- The launch identity of a binding repeats the parts of the binding. -/
theorem resolved_identity [SerdeJson] {identity : IdentityCatalog} {m3 : M3Catalog} {execution : GraphExecution}
    {nodeId : GraphNodeId} {binding : ProviderRunBinding}
    (resolved : resolveProviderRunBinding identity m3 execution nodeId = .ok binding) :
    binding.launchIdentity.agentInstanceId = binding.agentInstanceId ∧
    binding.launchIdentity.projectId = binding.projectId ∧ binding.launchIdentity.modelId = binding.modelId ∧
    binding.launchIdentity.adapterKind = binding.adapterKind ∧ binding.launchIdentity.model = binding.providerModel := by
  simp only [resolveProviderRunBinding, bind_ok, pure_ok] at resolved
  obtain ⟨_, _, _, _, _, _, _, _, _, _, _, _, _, _, _, _, _, _, _, _, _, _, rfl⟩ := resolved
  exact ⟨rfl, rfl, rfl, rfl, rfl⟩

/-- The receipt of a run that begins. -/
theorem beginGraphNodeRunInner_receipt {expected : Option ProviderRunBinding}
    (committed : beginGraphNodeRunInner db now ids id command expected = .ok (after, receipt)) :
    ∃ row binding revision graphRevision sequence, db.graphs.find? id = some row ∧
      resolveProviderRunBinding db.identity.content db.m3.content row.execution command.nodeId = .ok binding ∧
      receipt = ⟨id, command.nodeId, ids.sessionId, ids.runId, some binding.launchIdentity, binding.adapterKind,
        binding.providerModel, binding.workspaceRoot, binding.prompt, revision, graphRevision, sequence⟩ := by
  simp only [beginGraphNodeRunInner, ProviderLaunchPlan.insert, bind_ok, exists_unit, loadGraph_ok] at committed
  obtain ⟨_, _, _, ⟨row, found, _, _, rfl⟩, binding, resolved, _, _, _, _, _, _, _, _, _, _, _, _, _, _, _, _, _, _,
    committed⟩ := committed
  split at committed
  · obtain ⟨_, _, committed⟩ := bind_ok.mp committed
    cases pure_ok.mp committed
    exact ⟨row, binding, _, _, _, found, resolved, rfl⟩
  · obtain ⟨_, _, committed⟩ := bind_ok.mp committed
    cases pure_ok.mp committed
    exact ⟨row, binding, _, _, _, found, resolved, rfl⟩

omit [Sha256] [SerdeJson] in
/-- The policies that are captured form a valid snapshot. -/
theorem captured_valid {catalog : IdentityCatalog} {projectId : ProjectId} {roleId : RoleId}
    {policy : LaunchPolicySnapshot} (captured : LaunchPolicySnapshot.capture catalog projectId roleId = .ok policy) :
    policy.validate = .ok () := by
  simp only [LaunchPolicySnapshot.capture, bind_ok, exists_unit, pure_ok] at captured
  obtain ⟨_, _, _, _, valid, rfl⟩ := captured
  exact valid

omit [Sha256] [SerdeJson] in
/-- A valid catalog has each session once. -/
theorem sessions_distinct {catalog : IdentityCatalog} (valid : catalog.validate = .ok ()) :
    (catalog.sessions.map (·.metadata.id)).Nodup := by
  simp only [IdentityCatalog.validate, unique, bind_ok, exists_unit, distinct_ok] at valid
  obtain ⟨_, _, _, _, _, _, _, _, distinct, _, _⟩ := valid
  apply List.Nodup.of_map StableId.value
  rw [List.map_map]
  exact distinct

namespace Beginning

/-- The plan of a run that begins is loaded once the run has begun. -/
theorem loaded (begun : Beginning db now ids id command) (same : Stages begun.database after) :
    ProviderLaunchPlan.load after ids.runId = .ok begun.plan := by
  have planned : after.plans.find? ids.runId = some ⟨ids.runId, begun.plan, begun.plan.hash⟩ := by
    rw [same.plans]
    exact Table.find?_insert_self begun.planned
  have attempted : after.nodeRuns.find? ids.runId = some (beginAttempt db now ids id command.nodeId begun.binding) := by
    rw [same.nodeRuns]
    exact Table.find?_insert_self begun.attempted
  have valid : ∀ policy, begun.plan.policy = some policy → policy.validate = .ok () := by
    intro policy saved
    obtain rfl := Option.some.inj saved
    exact captured_valid begun.captured
  have matched : begun.plan.matchesAttempt (beginAttempt db now ids id command.nodeId begun.binding) = true := by
    simp only [ProviderLaunchPlan.matchesAttempt, plan, beginPlan, beginAttempt, decide_true, Bool.and_self]
  exact ProviderLaunchPlan.load_iff.mpr ⟨⟨_, planned, rfl, rfl⟩, rfl, rfl, valid, _, attempted, matched, rfl⟩

/-- The catalog of a run that begins has its session and the run. -/
theorem placed (begun : Beginning db now ids id command) (same : Stages begun.database after) :
    after.identity.content.session? ids.sessionId =
      some ⟨entityMetadata now ids.sessionId "graph_node_run", begun.binding.agentInstanceId, begun.binding.projectId,
        none⟩ ∧
    ∃ run, after.identity.content.run? ids.runId = some run ∧ run.sessionId = ids.sessionId ∧
      run.modelId = begun.binding.modelId := by
  have valid := begun.catalogValid
  rw [same.identity]
  constructor
  · exact Lookup.find_of_mem (sessions_distinct valid)
      (List.mem_append_right _ (List.mem_singleton_self _))
  · exact ⟨_, Lookup.find_of_mem (IdentityCatalog.validate_runs_distinct valid)
      (List.mem_append_right _ (List.mem_singleton_self _)), rfl, rfl⟩

/-- What a run begins with is what its receipt repeats. -/
theorem authentic (begun : Beginning db now ids id command) (same : Stages begun.database after)
    {catalogRevision graphRevision eventSequence : Nat} :
    Authentic after ⟨id, command.nodeId, ids.sessionId, ids.runId, some begun.binding.launchIdentity,
      begun.binding.adapterKind, begun.binding.providerModel, begun.binding.workspaceRoot, begun.binding.prompt,
      catalogRevision, graphRevision, eventSequence⟩ begun.plan where
  loaded := begun.loaded same
  current := rfl
  matched := by
    obtain ⟨_, _, _, adapter, model⟩ := resolved_identity begun.resolved
    simp only [ProviderLaunchPlan.matchesReceipt, plan, beginPlan, adapter, model, decide_true, Bool.and_self]
  placed := by
    obtain ⟨agent, project, model, _, _⟩ := resolved_identity begun.resolved
    obtain ⟨located, run, ran, own, modelled⟩ := begun.placed same
    exact ⟨run, _, ran, own, modelled.trans model.symm, own ▸ located, agent.symm, project.symm⟩
  cast := by
    refine ⟨begun.row.store begun.execution (timestamp now), begun.definition, ?_, begun.defined, rfl⟩
    rw [same.graphs]
    simp only [database, Table.find?_update_self, begun.found, Option.map_some]

end Beginning

/-- The receipt of a run that begins is authentic, for a plan the begin stores. -/
theorem beginGraphNodeRunInner_authentic {expected : Option ProviderRunBinding}
    (committed : beginGraphNodeRunInner db now ids id command expected = .ok (after, receipt)) :
    ∃ plan, (∃ row, after.plans.find? receipt.runId = some row ∧ row.plan = plan) ∧ Authentic after receipt plan := by
  obtain ⟨row, binding, revision, graphRevision, sequence, found, resolved, rfl⟩ :=
    beginGraphNodeRunInner_receipt committed
  obtain ⟨begun, middle, events, _, _, _, left, rfl⟩ := beginGraphNodeRunInner_ok committed
  obtain rfl : begun.row = row := Option.some.inj (begun.found.symm.trans found)
  obtain rfl : begun.binding = binding := Except.ok.inj (begun.resolved.symm.trans resolved)
  have stages := Beginning.stages left
  have same : Stages begun.database { middle with events } :=
    ⟨stages.daemon, stages.identity, stages.m3, stages.graphs, stages.nodeRuns, stages.outputs, stages.grants,
      stages.plans, stages.claims⟩
  refine ⟨begun.plan, ⟨⟨ids.runId, begun.plan, begun.plan.hash⟩, ?_, rfl⟩, begun.authentic same⟩
  rw [same.plans]
  exact Table.find?_insert_self begun.planned

/-- A receipt stays authentic while the daemon runs. -/
theorem Authentic.run {process : DaemonProcess} {plan : ProviderLaunchPlan}
    (authentic : Authentic process.db receipt plan) (graphs : SoundGraphs process.db) (rest : List Action) :
    Authentic (process.run rest).db receipt plan := by
  have step : ∀ (process : DaemonProcess) (action : Action),
      Authentic process.db receipt plan ∧ SoundGraphs process.db →
        Authentic (process.next action).db receipt plan ∧ SoundGraphs (process.next action).db := by
    intro process action ⟨authentic, graphs⟩
    refine ⟨?_, SoundGraphs.next process action graphs⟩
    rcases process.next_change action with same | change
    · exact same ▸ authentic
    · exact authentic.follow change graphs
  exact (Machine.run_preserves step ⟨authentic, graphs⟩ rest).1

/-- Of the checks made before a provider is started, the ones that compare the receipt with what the store holds of
its run always pass: a start is allowed exactly while what may change since the begin has not. -/
theorem preflight_exact (first rest : List Action) (now : Nat) (ids : RunIds) (id : GraphRunId)
    (command : BeginGraphNodeRunCommand) (expected : Option ProviderRunBinding) (after : Database)
    (receipt : BeginGraphNodeRunReceipt) (serving : (DaemonProcess.fresh.run first).service = .serving)
    (committed : beginGraphNodeRunInner (DaemonProcess.fresh.run first).db now ids id command expected =
      .ok (after, receipt)) :
    ∃ plan, (∃ row, after.plans.find? receipt.runId = some row ∧ row.plan = plan) ∧
      ∀ db, db = (DaemonProcess.fresh.run
          (first ++ .command (.beginGraphNodeRun now ids id command expected) :: rest)).db →
        (preflightProviderLaunch db receipt = .ok () ↔ Startable db receipt plan) ∧
        (validateOnlineCliLaunch db receipt = .ok () ↔
          Startable db receipt plan ∧ plan.validateOnlineCliRequirements = .ok ()) := by
  obtain ⟨plan, stored, authentic⟩ := beginGraphNodeRunInner_authentic committed
  have graphs : SoundGraphs (DaemonProcess.fresh.run first).db := SoundGraphs.run SoundGraphs.fresh first
  have stepped : ((DaemonProcess.fresh.run first).next
      (.command (.beginGraphNodeRun now ids id command expected))).db = after := by
    simp only [DaemonProcess.next, execute, committed, ok_bind, DaemonProcess.commit, serving, pure]
    rfl
  refine ⟨plan, stored, fun db reached => ?_⟩
  have later : Authentic db receipt plan := by
    rw [reached, DaemonProcess.run, Machine.run_append]
    exact Authentic.run (stepped.symm ▸ authentic)
      (SoundGraphs.next _ (.command (.beginGraphNodeRun now ids id command expected)) graphs) rest
  refine ⟨later.preflight_iff, ?_⟩
  unfold validateOnlineCliLaunch
  simp only [bind_ok, exists_unit, later.preflight_iff, later.loaded, Except.ok.injEq, exists_eq_left']

omit [Sha256] [SerdeJson] in
/-- The first run can be started once it has begun, and no more once it is reported as running. -/
theorem preflight_exact_providerRun : ∃ receipt plan,
    @Startable SerdeJson.compact (@DaemonProcess.run (.table []) SerdeJson.compact .fresh providerRun).db receipt plan ∧
    ¬@Startable SerdeJson.compact (@DaemonProcess.run (.table []) SerdeJson.compact .fresh
      (providerRun ++ [.command (.recordProviderRunning 7 (nth 31) none)])).db receipt plan := by
  have checked : isOk (do
      let begun ← @beginGraphNodeRunInner (.table []) SerdeJson.compact
        (@DaemonProcess.run (.table []) SerdeJson.compact .fresh (firstRun.take 2)).db 6 ⟨nth 30, nth 31, nth 32⟩ (nth 24)
        ⟨1, 0, nth 21, providerOwner (nth 21)⟩ none
      @preflightProviderLaunch (.table []) SerdeJson.compact
        (@DaemonProcess.run (.table []) SerdeJson.compact .fresh providerRun).db begun.2
      reject (isOk (@preflightProviderLaunch (.table []) SerdeJson.compact (@DaemonProcess.run (.table [])
        SerdeJson.compact .fresh (providerRun ++ [.command (.recordProviderRunning 7 (nth 31) none)])).db begun.2))
        .database) = true ∧
      (@DaemonProcess.run (.table []) SerdeJson.compact .fresh (firstRun.take 2)).service = .serving := by
    decide +kernel
  obtain ⟨checked, serving⟩ := checked
  obtain ⟨_, checked⟩ := isOk_iff.mp checked
  simp only [bind_ok, exists_unit, reject_ok] at checked
  obtain ⟨⟨after, receipt⟩, committed, started, refused⟩ := checked
  have exactly := fun rest => @preflight_exact (.table []) SerdeJson.compact (firstRun.take 2) rest 6
    ⟨nth 30, nth 31, nth 32⟩ (nth 24) ⟨1, 0, nth 21, providerOwner (nth 21)⟩ none after receipt serving committed
  obtain ⟨plan, ⟨row, found, planned⟩, now⟩ := exactly []
  obtain ⟨other, ⟨again, foundAgain, plannedAgain⟩, later⟩ :=
    exactly [.command (.recordProviderRunning 7 (nth 31) none)]
  obtain rfl := Option.some.inj (found.symm.trans foundAgain)
  obtain rfl := planned.symm.trans plannedAgain
  refine ⟨receipt, plan, (now _ rfl).1.mp started, fun startable => ?_⟩
  have again := (later _ rfl).1.mpr startable
  exact Bool.noConfusion (refused.symm.trans (isOk_iff.mpr ⟨_, again⟩))

end Begun

end Bastet.Daemon
