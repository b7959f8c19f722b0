import Bastet.Daemon.SingleUse
import Bastet.Daemon.Undisturbed

/-! The ledger of staged launches agrees with the approvals, the grants, the dispatch claims, the
runs and the nodes, whatever happens to any of them. -/

set_option autoImplicit false

namespace Bastet.Daemon

open Fallible Bastet.Core

/-- The launch has not been dispatched: its run and its node wait for the approval. -/
structure Undispatched (db : Database) (row : StagedRow) (run : Run) (plan : ProviderLaunchPlan)
    (node : GraphNodeExecution) : Prop where
  runFound : db.identity.content.run? row.runId = some run
  runState : run.state = .awaitingApproval
  unstarted : run.startedAt = none
  planned : ∃ stored, db.plans.find? row.runId = some stored ∧ stored.plan = plan
  located : ∃ graph, db.graphs.find? plan.executionId = some graph ∧ graph.execution.node? plan.nodeId = some node
  nodeState : node.state = .awaitingApproval
  owner : node.owner = some plan.owner
  bound : node.runId = some row.runId

/-- What has been decided about a launch that waits, and the grant that came of it. -/
def Answered (db : Database) (row : StagedRow) (decision : Option ApprovalDecision) (grant : Option GrantRow) : Prop :=
  (∃ approval, db.approvals.find? row.requestId = some approval ∧ approval.request.id = row.requestId ∧
    approval.decision = decision ∧
    ∀ taken, decision = some taken → approval.request.verifyDecision taken = .ok () ∧ taken.kind = .approve) ∧
  db.grants.find? row.requestId = grant ∧ ∀ issued, grant = some issued → issued.unspent = true

/-- What a row of the ledger says in each of its states. -/
inductive Coherent (db : Database) (row : StagedRow) : Prop
  | awaiting {run : Run} {plan : ProviderLaunchPlan} {node : GraphNodeExecution} (state : row.state = .awaitingApproval)
      (held : Undispatched db row run plan node) (answered : Answered db row none none)
  | ready {run : Run} {plan : ProviderLaunchPlan} {node : GraphNodeExecution} {decision : ApprovalDecision}
      {grant : GrantRow} (state : row.state = .ready) (held : Undispatched db row run plan node)
      (answered : Answered db row (some decision) (some grant))
  | cancelled {run : Run} (state : row.state = .cancelled) (found : db.identity.content.run? row.runId = some run)
      (runState : run.state = .cancelled) (unstarted : run.startedAt = none)
      (unusable : ∀ grant, db.grants.find? row.requestId = some grant → grant.unspent = false)
  | claimed {run : Run} {grant : GrantRow} {claim : ClaimRow} (state : row.state = .dispatching ∨ row.state = .uncertain)
      (found : db.identity.content.run? row.runId = some run) (started : run.startedAt.isSome = true)
      (granted : db.grants.find? row.requestId = some grant) (consumed : grant.consumedAtMs.isSome = true)
      (claimed : db.claims.find? row.runId = some claim) (same : claim.requestId = row.requestId)

/-- The ledger has one launch a request, and each of them is coherent. -/
structure LaunchesSound (db : Database) : Prop where
  requests : (db.staged.rows.map (·.requestId)).Nodup
  coherent : ∀ row ∈ db.staged.rows, Coherent db row

section Passing

variable {db after : Database} {row : StagedRow}

/-- A change passes a launch by. -/
structure Passes (db after : Database) (row : StagedRow) : Prop where
  held : row.state.isWaiting = true → Undisturbed db after row.runId ∧
    ∀ approval, db.approvals.find? row.requestId = some approval → after.approvals.find? row.requestId = some approval
  grant : after.grants.find? row.requestId = db.grants.find? row.requestId
  claim : ∀ claim, db.claims.find? row.runId = some claim → after.claims.find? row.runId = some claim

theorem Undispatched.undisturbed {run : Run} {plan : ProviderLaunchPlan} {node : GraphNodeExecution}
    (held : Undispatched db row run plan node) (same : Undisturbed db after row.runId) :
    Undispatched after row run plan node where
  runFound := same.run run held.runFound held.runState held.unstarted
  runState := held.runState
  unstarted := held.unstarted
  planned := by
    obtain ⟨stored, found, planned⟩ := held.planned
    exact ⟨stored, same.plan stored found, planned⟩
  located := by
    obtain ⟨graph, found, located⟩ := held.located
    obtain ⟨later, reached, waits⟩ := same.node _ graph found
    exact ⟨later, reached, waits _ node located held.nodeState held.bound⟩
  nodeState := held.nodeState
  owner := held.owner
  bound := held.bound

theorem Answered.kept {decision : Option ApprovalDecision} {grant : Option GrantRow}
    (answered : Answered db row decision grant)
    (approvals : ∀ approval, db.approvals.find? row.requestId = some approval →
      after.approvals.find? row.requestId = some approval)
    (grants : after.grants.find? row.requestId = db.grants.find? row.requestId) :
    Answered after row decision grant := by
  obtain ⟨⟨approval, found, same, decided, verified⟩, granted, unspent⟩ := answered
  exact ⟨⟨approval, approvals approval found, same, decided, verified⟩, grants.trans granted, unspent⟩

theorem Coherent.passed (coherent : Coherent db row) (passes : Passes db after row)
    (evolves : db.identity.content.Evolves after.identity.content) : Coherent after row := by
  cases coherent with
  | awaiting state held answered =>
    obtain ⟨same, approvals⟩ := passes.held (by rw [state]; rfl)
    exact .awaiting state (held.undisturbed same) (answered.kept approvals passes.grant)
  | ready state held answered =>
    obtain ⟨same, approvals⟩ := passes.held (by rw [state]; rfl)
    exact .ready state (held.undisturbed same) (answered.kept approvals passes.grant)
  | @cancelled run state found runState unstarted unusable =>
    obtain ⟨later, reached, advances⟩ := evolves.kept _ run found
    obtain rfl := advances.terminal (by rw [runState]; rfl)
    exact .cancelled state reached runState unstarted (by rw [passes.grant]; exact unusable)
  | @claimed run grant claim state found started granted consumed claimed same =>
    obtain ⟨later, reached, advances⟩ := evolves.kept _ run found
    have since : later.startedAt.isSome = true := by
      rcases advances.moved with rfl | moved
      · exact started
      · rw [moved.since started]
        exact started
    exact .claimed state reached since (passes.grant.trans granted) consumed (passes.claim claim claimed) same

theorem LaunchesSound.passed (sound : LaunchesSound db) (staged : after.staged = db.staged)
    (evolves : db.identity.content.Evolves after.identity.content) (passes : ∀ row ∈ db.staged.rows, Passes db after row) :
    LaunchesSound after where
  requests := staged ▸ sound.requests
  coherent row member := (sound.coherent row (staged ▸ member)).passed (passes row (staged ▸ member)) evolves

/-- One row of the ledger is changed, under the request it is for. -/
theorem LaunchesSound.updated {middle : Database} {runId : RunId} {change : StagedRow → StagedRow}
    (kept : ∀ row, (change row).runId = row.runId) (requests : (middle.staged.rows.map (·.requestId)).Nodup)
    (staged : after.staged = middle.staged.update runId change kept)
    (same : ∀ row, (change row).requestId = row.requestId)
    (others : ∀ row ∈ middle.staged.rows, row.runId ≠ runId → Coherent after row)
    (changed : ∀ row, middle.staged.find? runId = some row → Coherent after (change row)) : LaunchesSound after where
  requests := by
    rw [staged, Table.map_update same]
    exact requests
  coherent row member := by
    rw [staged, Table.mem_update] at member
    rcases member with ⟨inside, apart⟩ | ⟨old, inside, named, rfl⟩
    · exact others row inside apart
    · exact changed old (named ▸ Table.find?_mem inside)

end Passing

section Requests

variable {db : Database} {row other : StagedRow} {requestId : ApprovalRequestId}

theorem stagedFor?_some (found : db.stagedFor? requestId = some row) :
    row ∈ db.staged.rows ∧ row.requestId = requestId :=
  Lookup.find_some found

theorem stagedFor?_none (absent : db.stagedFor? requestId = none) (member : row ∈ db.staged.rows) :
    row.requestId ≠ requestId :=
  Lookup.find_none.mp absent row member

/-- The launch of a request is the only one for it. -/
theorem LaunchesSound.apart (sound : LaunchesSound db) (found : db.stagedFor? requestId = some row)
    (member : other ∈ db.staged.rows) (apart : other.runId ≠ row.runId) : other.requestId ≠ requestId := by
  rintro rfl
  have located : db.stagedFor? other.requestId = some other := Lookup.find_of_mem sound.requests member
  obtain rfl := Option.some.inj (found.symm.trans located)
  exact apart rfl

/-- Two launches of one request are one launch. -/
theorem LaunchesSound.stagedFor? (sound : LaunchesSound db) (member : row ∈ db.staged.rows) :
    db.stagedFor? row.requestId = some row :=
  Lookup.find_of_mem sound.requests member

end Requests

section Cancellations

variable [Sha256] [SerdeJson] {db after : Database} {now : Nat} {row : StagedRow}

omit [Sha256] [SerdeJson] in
theorem Undisturbed.of_same {runId : RunId} (identity : after.identity = db.identity) (plans : after.plans = db.plans)
    (graphs : after.graphs = db.graphs) : Undisturbed db after runId where
  run _ found _ _ := identity ▸ found
  plan _ found := plans ▸ found
  node := Undisturbed.node_same graphs

omit [Sha256] [SerdeJson] in
theorem Passes.of_undisturbed (same : Undisturbed db after row.runId) (approvals : after.approvals = db.approvals)
    (grants : after.grants = db.grants) (claims : after.claims = db.claims) : Passes db after row where
  held _ := ⟨same, fun _ found => approvals ▸ found⟩
  grant := by rw [grants]
  claim _ found := claims ▸ found

omit [Sha256] [SerdeJson] in
theorem Passes.of_same (identity : after.identity = db.identity) (plans : after.plans = db.plans)
    (graphs : after.graphs = db.graphs) (approvals : after.approvals = db.approvals) (grants : after.grants = db.grants)
    (claims : after.claims = db.claims) : Passes db after row :=
  .of_undisturbed (.of_same identity plans graphs) approvals grants claims

omit [Sha256] [SerdeJson] in
/-- The same ledger with other events, or another state of the daemon. -/
theorem LaunchesSound.of_same (sound : LaunchesSound db) (staged : after.staged = db.staged)
    (identity : after.identity = db.identity) (plans : after.plans = db.plans) (graphs : after.graphs = db.graphs)
    (approvals : after.approvals = db.approvals) (grants : after.grants = db.grants)
    (claims : after.claims = db.claims) : LaunchesSound after :=
  sound.passed staged (.of_runs fun _ => by rw [identity]) fun _ _ => .of_same identity plans graphs approvals grants claims

theorem Waiting.undispatched {run : Run} (waiting : Waiting db run) (same : row.runId = run.metadata.id) :
    Undispatched db row run waiting.plan waiting.node where
  runFound := same ▸ waiting.runFound
  runState := waiting.awaiting
  unstarted := waiting.unstarted
  planned := same ▸ (loadedPlan waiting.planned).1
  located := ⟨waiting.row, waiting.rowFound, waiting.nodeFound⟩
  nodeState := waiting.nodeAwaits
  owner := waiting.nodeOwner
  bound := waiting.nodeRun.trans (congrArg some (waiting.planRun.trans same.symm))

/-- A cancelled launch is over, and the others are what they were. -/
theorem Cancels.launchesSound {reason : String} {run : Run} {plan : ProviderLaunchPlan} {graphRow : GraphRow}
    {execution : GraphExecution} (cancels : Cancels db now row reason run plan graphRow execution after)
    (graphs : SoundGraphs db) (member : row ∈ db.staged.rows) (requests : (db.staged.rows.map (·.requestId)).Nodup)
    (others : ∀ other ∈ db.staged.rows, other.runId ≠ row.runId → Coherent db other) : LaunchesSound after := by
  have apart : ∀ other ∈ db.staged.rows, other.runId ≠ row.runId → other.requestId ≠ row.requestId := by
    intro other inside distinct same
    refine distinct (congrArg StagedRow.runId ?_)
    exact List.inj_on_of_nodup_map requests inside member same
  have undisturbed : ∀ {runId : RunId}, runId ≠ row.runId → Undisturbed db after runId := cancels.undisturbed graphs
  have evolves := cancels.evolves
  obtain ⟨grants, events, revoked, rfl⟩ := cancels.left
  have revoke : ∀ requestId, requestId ≠ row.requestId → grants.find? requestId = db.grants.find? requestId := by
    intro requestId distinct
    rcases revoked with ⟨_, _, _, rfl⟩ | ⟨_, rfl⟩
    · exact Table.find?_update_of_ne distinct
    · rfl
  refine LaunchesSound.updated StagedRow.cancel_runId requests rfl (fun _ => rfl) (fun other inside distinct => ?_) fun old found => ?_
  · refine (others other inside distinct).passed ⟨fun _ => ⟨undisturbed distinct, fun _ found => found⟩, ?_,
      fun _ found => found⟩ evolves
    exact revoke _ (apart other inside distinct)
  · obtain rfl := Option.some.inj ((Table.find?_mem member).symm.trans found)
    obtain ⟨_, unstarted, _⟩ := validateStagedContext_run cancels.context
    have kept : ∀ run, (endRun .cancelled (timestamp (row.finishTime now)) run).metadata.id = run.metadata.id :=
      fun _ => rfl
    have ended : (cancelledRun db.identity.content row now).run? row.runId =
        some (endRun .cancelled (timestamp (row.finishTime now)) run) := by
      rw [cancelledRun, IdentityCatalog.run?_updateRun kept, if_pos rfl, cancels.found, Option.map_some]
    refine .cancelled rfl ended rfl unstarted fun grant granted => ?_
    replace granted : grants.find? row.requestId = some grant := granted
    rcases revoked with ⟨spent, issued, unspent, rfl⟩ | ⟨none, rfl⟩
    · rw [Table.find?_update_self, issued] at granted
      obtain rfl := Option.some.inj granted
      simp [GrantRow.unspent, GrantRow.revoke]
    · exact none grant granted

theorem MayCancel.launchesSound {requestId : ApprovalRequestId} {reason : String}
    (cancels : MayCancel db now requestId reason after) (graphs : SoundGraphs db) (sound : LaunchesSound db) :
    LaunchesSound after := by
  rcases cancels with ⟨rfl, _⟩ | ⟨_, _, _, _, _, found, cancels⟩
  · exact sound
  · exact cancels.launchesSound graphs (stagedFor?_some found).1 sound.requests
      fun other member _ => sound.coherent other member

theorem CancelsSome.launchesSound (cancels : CancelsSome now db after) (graphs : SoundGraphs db)
    (sound : LaunchesSound db) : LaunchesSound after := by
  induction cancels with
  | refl => exact sound
  | tail before last ih =>
    obtain ⟨_, _, cancels⟩ := last
    exact cancels.launchesSound ((CancelsSome.graphsFollow before graphs).sound graphs) ih

end Cancellations

section Grants

variable [Sha256] [SerdeJson] {db after : Database} {now : Nat} {row : StagedRow}

/-- What a launch asks for binds a credential. -/
theorem requested_binds {plan : ProviderLaunchPlan} {request : ApprovalRequest}
    (agreed : validateRequestForPlan plan request = .ok ()) :
    request.action.scope.credentialBinding.isSome = true := by
  simp only [validateRequestForPlan, approvalAction, bind_ok, exists_unit, required_ok, reject_ok, pure_ok,
    decide_eq_false_iff_not, not_not, ne_eq] at agreed
  obtain ⟨_, ⟨_, _, _, _, rfl⟩, _, _, same⟩ := agreed
  rw [same]
  rfl

/-- A decision is about one request. -/
theorem Deciding.passes {command : DecideApprovalCommand} (deciding : Deciding db now command) (events : List String)
    (apart : row.requestId ≠ command.decision.requestId) : Passes db (deciding.database events) row where
  held _ := by
    refine ⟨.of_same rfl rfl rfl, fun approval found => ?_⟩
    simp only [Deciding.database, Table.find?_update_of_ne apart, found]
  grant := by
    have named := deciding.addressed.symm.trans (deciding_requestId deciding.verified)
    rcases deciding.granted with ⟨_, _, inserted⟩ | ⟨_, grants⟩
    · simp only [Deciding.database, Table.find?_insert inserted]
      exact if_neg (named ▸ apart)
    · simp only [Deciding.database, grants]
  claim _ found := found

/-- An approved launch is ready, with the grant of its request. -/
theorem Deciding.ready {command : DecideApprovalCommand} (deciding : Deciding db now command) {issued : List String}
    {run : Run} {plan : ProviderLaunchPlan} (asked : row.requestId = deciding.row.request.id)
    (same : row.runId = run.metadata.id) (approves : deciding.decision.kind = .approve)
    (context : validateStagedContext (deciding.database issued) run false true = .ok ())
    (agreed : validateRequestForPlan plan deciding.row.request = .ok ()) :
    Coherent (deciding.database issued) (row.move .ready) := by
  have named : command.decision.requestId = deciding.row.request.id :=
    deciding.addressed.symm.trans (deciding_requestId deciding.verified)
  obtain ⟨waiting, _⟩ := validateStagedContext_ok.mp context
  have decided : (deciding.database issued).approvals.find? row.requestId =
      some (deciding.row.decided deciding.decision (timestamp now)) := by
    simp only [Deciding.database, asked, ← named, Table.find?_update_self, deciding.found, Option.map_some]
  rcases deciding.granted with ⟨_, _, inserted⟩ | ⟨other, _⟩
  · have granted : (deciding.database issued).grants.find? row.requestId =
        some ⟨deciding.row.request.id, deciding.decision.decidedAtMs, none, none, none⟩ := by
      rw [asked]
      exact Table.find?_insert_self inserted
    refine .ready rfl (waiting.undispatched same) ⟨⟨_, decided, asked.symm, rfl, ?_⟩, granted, ?_⟩
    · intro taken recorded
      obtain rfl := Option.some.inj recorded
      exact ⟨deciding.verified, approves⟩
    · intro grant left
      obtain rfl := Option.some.inj left
      rfl
  · exact absurd ⟨requested_binds agreed, approves⟩ other

/-- A decision is coherent with the launch that learns of it. -/
theorem Deciding.launchesSound {command : DecideApprovalCommand} (deciding : Deciding db now command)
    (issued : List String) (graphs : SoundGraphs db) (sound : LaunchesSound db)
    (informed : onDecision (deciding.database issued) now deciding.row.request deciding.decision.kind = .ok after) :
    LaunchesSound after := by
  have named : command.decision.requestId = deciding.row.request.id :=
    deciding.addressed.symm.trans (deciding_requestId deciding.verified)
  have coherent : ∀ other ∈ db.staged.rows, other.requestId ≠ deciding.row.request.id →
      Coherent (deciding.database issued) other :=
    fun other member apart => (sound.coherent other member).passed (deciding.passes issued (named ▸ apart)) (.refl _)
  rcases onDecision_ok informed with ⟨none, rfl⟩ | ⟨approves, row, run, plan, found, awaiting, runFound, context, planned,
    agreed, events, rfl⟩ | ⟨denies, cancels⟩
  · exact ⟨sound.requests, fun other member => coherent other member (stagedFor?_none none member)⟩
  · obtain ⟨member, asked⟩ := stagedFor?_some found
    have located : db.stagedFor? deciding.row.request.id = some row := found
    have same : row.runId = run.metadata.id := (Lookup.find_some runFound).2.symm
    refine LaunchesSound.updated StagedRow.move_runId sound.requests rfl (fun _ => rfl) (fun other inside distinct => ?_)
      fun old stored => ?_
    · exact (coherent other inside (sound.apart located inside distinct)).passed (.of_same rfl rfl rfl rfl rfl rfl)
        (.refl _)
    · obtain rfl := Option.some.inj ((Table.find?_mem member).symm.trans stored)
      exact (deciding.ready asked same approves context agreed).passed (.of_same rfl rfl rfl rfl rfl rfl) (.refl _)
  · rcases cancels with ⟨rfl, settled⟩ | ⟨row, _, _, _, _, found, cancels⟩
    · -- nothing waits for a denied request, and a denial leaves no grant
      refine ⟨sound.requests, fun other member => ?_⟩
      by_cases apart : other.requestId = deciding.row.request.id
      · have idle : other.state.isWaiting = false := settled other (apart ▸ sound.stagedFor? member)
        refine (sound.coherent other member).passed ⟨fun waits => ?_, ?_, fun _ found => found⟩ (.refl _)
        · rw [idle] at waits
          cases waits
        · rcases deciding.granted with ⟨_, approves, _⟩ | ⟨_, grants⟩
          · rw [denies] at approves
            cases approves
          · simp only [Deciding.database, grants]
      · exact coherent other member apart
    · have located : db.stagedFor? deciding.row.request.id = some row := found
      exact cancels.launchesSound graphs (stagedFor?_some located).1 sound.requests
        fun other member distinct => coherent other member (sound.apart located member distinct)

omit [Sha256] [SerdeJson] in
/-- The grant of a request is spent; the launches of other requests are what they were. -/
theorem spent_passes {id : ApprovalRequestId} {change : GrantRow → GrantRow}
    {kept : ∀ row, (change row).requestId = row.requestId} {grants : Table GrantRow.requestId}
    (spent : SpendsGrant db id change kept grants) (apart : row.requestId ≠ id) : Passes db { db with grants } row where
  held _ := ⟨.of_same rfl rfl rfl, fun _ found => found⟩
  grant := by
    obtain ⟨_, _, _, _, rfl⟩ := spent
    dsimp only
    rw [Table.find?_update_of_ne apart]
  claim _ found := found

omit [Sha256] [SerdeJson] in
/-- The grant of a launch that is over, or was dispatched, has been spent. -/
theorem Coherent.spent (coherent : Coherent db row) (settled : row.state.isWaiting = false) {grant : GrantRow}
    (found : db.grants.find? row.requestId = some grant) : grant.unspent = false := by
  cases coherent with
  | awaiting state | ready state =>
    rw [state] at settled
    cases settled
  | cancelled state located runState unstarted unusable => exact unusable grant found
  | claimed state located started granted consumed =>
    obtain rfl := Option.some.inj (granted.symm.trans found)
    obtain ⟨time, taken⟩ := Option.isSome_iff_exists.mp consumed
    simp only [GrantRow.unspent, taken, Option.isNone_some, Bool.false_and]

/-- A revocation is coherent with the launch it cancels. -/
theorem revoked_launchesSound {id : ApprovalRequestId} {actor : String} {grants : Table GrantRow.requestId}
    (spent : SpendsGrant db id (GrantRow.revoke (fun _ => now) actor) GrantRow.revoke_requestId grants)
    (cancels : MayCancel { db with grants } now id "revoked" after) (graphs : SoundGraphs db)
    (sound : LaunchesSound db) : LaunchesSound after := by
  have coherent : ∀ other ∈ db.staged.rows, other.requestId ≠ id → Coherent { db with grants } other :=
    fun other member apart => (sound.coherent other member).passed (spent_passes spent apart) (.refl _)
  rcases cancels with ⟨rfl, settled⟩ | ⟨row, _, _, _, _, found, cancels⟩
  · refine ⟨sound.requests, fun other member => coherent other member ?_⟩
    rintro rfl
    obtain ⟨grant, issued, unspent, _⟩ := spent
    have idle := settled other (sound.stagedFor? member)
    rw [(sound.coherent other member).spent idle issued] at unspent
    cases unspent
  · have located : db.stagedFor? id = some row := found
    exact cancels.launchesSound graphs (stagedFor?_some located).1 sound.requests
      fun other member distinct => coherent other member (sound.apart located member distinct)

end Grants

section Dispatch

variable [Sha256] [SerdeJson] {db after : Database} {now : Nat} {row : StagedRow}

/-- A claim takes one launch. -/
theorem Claiming.passes {requestId : ApprovalRequestId} (claiming : Claiming db now requestId) (events : List String)
    (distinct : row.runId ≠ claiming.run.metadata.id) (apart : row.requestId ≠ requestId) :
    Passes db (claiming.database events) row where
  held _ := by
    have kept : ∀ run, (startRun (timestamp now) run).metadata.id = run.metadata.id := fun _ => rfl
    have waits : StillAwaits row.runId claiming.row.execution claiming.execution := by
      refine .of_transitions (GraphExecution.activateStagedNode_transitions claiming.activated) fun answered => ?_
      exact distinct (Option.some.inj answered).symm
    exact ⟨⟨fun run found _ _ => Undisturbed.run_update kept distinct found, fun _ found => found,
      Undisturbed.node_update claiming.found waits rfl⟩, fun _ found => found⟩
  grant := by
    obtain ⟨_, _, _, _, grants⟩ := claiming.spent
    simp only [Claiming.database, grants]
    rw [Table.find?_update_of_ne apart]
  claim _ found := Table.find?_insert_of_some claiming.claimed found

/-- The claimed launch: its run has started, its grant is consumed and its claim is recorded. -/
theorem Claiming.coherent {requestId : ApprovalRequestId} (claiming : Claiming db now requestId) (events : List String) :
    Coherent (claiming.database events) (claiming.launch.move .dispatching) := by
  have named : claiming.launch.runId = claiming.run.metadata.id := Table.find?_key claiming.launchFound
  have kept : ∀ run, (startRun (timestamp now) run).metadata.id = run.metadata.id := fun _ => rfl
  have started : (claiming.database events).identity.content.run? claiming.launch.runId =
      some (startRun (timestamp now) claiming.run) := by
    rw [named]
    simp only [Claiming.database]
    rw [IdentityCatalog.run?_updateRun kept, if_pos rfl, claiming.runFound, Option.map_some]
  obtain ⟨grant, found, _, _, grants⟩ := claiming.spent
  have consumed : (claiming.database events).grants.find? claiming.launch.requestId = some (grant.consume now) := by
    rw [claiming.launchRequest]
    simp only [Claiming.database, grants]
    rw [Table.find?_update_self, found, Option.map_some]
  have claimed : (claiming.database events).claims.find? claiming.launch.runId =
      some ⟨claiming.run.metadata.id, requestId, now⟩ := by
    rw [named]
    exact Table.find?_insert_self claiming.claimed
  exact .claimed (.inl rfl) started rfl consumed rfl claimed claiming.launchRequest.symm

theorem Claiming.launchesSound {requestId : ApprovalRequestId} (claiming : Claiming db now requestId)
    (events : List String) (sound : LaunchesSound db)
    (evolves : db.identity.content.Evolves (claiming.database events).identity.content) :
    LaunchesSound (claiming.database events) := by
  have member := Table.mem_of_find? claiming.launchFound
  have named : claiming.launch.runId = claiming.run.metadata.id := Table.find?_key claiming.launchFound
  have located := sound.stagedFor? member
  rw [claiming.launchRequest] at located
  refine LaunchesSound.updated StagedRow.move_runId sound.requests rfl (fun _ => rfl) (fun other inside distinct => ?_)
    fun old stored => ?_
  · have apart := sound.apart located inside (named ▸ distinct)
    exact (sound.coherent other inside).passed (claiming.passes events distinct apart) evolves
  · obtain rfl := Option.some.inj (claiming.launchFound.symm.trans stored)
    exact claiming.coherent events

/-- A lookup that failed leaves a launch that was claimed, and no other. -/
theorem Abandoning.launchesSound {runId : RunId} (abandoning : Abandoning db now runId) (events : List String)
    (sound : LaunchesSound db) (evolves : db.identity.content.Evolves (abandoning.database events).identity.content) :
    LaunchesSound (abandoning.database events) := by
  have kept : ∀ run, (Run.enter .uncertain (timestamp now) run).metadata.id = run.metadata.id := fun _ => rfl
  refine LaunchesSound.updated StagedRow.move_runId sound.requests rfl (fun _ => rfl) (fun other inside distinct => ?_)
    fun old stored => ?_
  · have undisturbed : Undisturbed db (abandoning.database events) other.runId :=
      ⟨fun run found _ _ => Undisturbed.run_update kept distinct found, fun _ found => found,
        Undisturbed.node_update abandoning.found (finishTerminal_waits abandoning.ended) rfl⟩
    exact (sound.coherent other inside).passed (.of_undisturbed undisturbed rfl rfl rfl) evolves
  · obtain rfl := Option.some.inj (abandoning.launchFound.symm.trans stored)
    have passes : Passes db (abandoning.database events) abandoning.launch := by
      refine ⟨fun waits => ?_, rfl, fun _ found => found⟩
      rw [abandoning.dispatching] at waits
      cases waits
    have before := (sound.coherent _ (Table.mem_of_find? abandoning.launchFound)).passed passes evolves
    cases before with
    | awaiting state | ready state | cancelled state =>
      rw [abandoning.dispatching] at state
      cases state
    | claimed _ found started granted consumed claimed same =>
      exact .claimed (.inr rfl) found started granted consumed claimed same

omit [Sha256] [SerdeJson] in
/-- Recovery takes the launches that were being dispatched to be uncertain. -/
theorem recovered_launchesSound {daemon : DaemonState} {revision : Nat} {events : List String} (sound : LaunchesSound db) :
    LaunchesSound (db.recovered now daemon revision events) := by
  have asked : ∀ row, (abandonDispatch row).requestId = row.requestId := by
    intro row
    unfold abandonDispatch
    split <;> rfl
  refine ⟨?_, fun row member => ?_⟩
  · have same : (fun row : StagedRow => row.requestId) ∘ abandonDispatch = (·.requestId) := funext asked
    simp only [Database.recovered, Table.rows_updateAll, List.map_map, same]
    exact sound.requests
  · obtain ⟨old, inside, rfl⟩ := List.mem_map.mp member
    have passes : Passes db (db.recovered now daemon revision events) old :=
      .of_undisturbed (recovered_undisturbed db now daemon revision events old.runId) rfl rfl rfl
    have coherent := (sound.coherent old inside).passed passes (recovered_evolves _ _)
    unfold abandonDispatch
    split
    · rename_i dispatching
      cases coherent with
      | awaiting state | ready state | cancelled state =>
        rw [dispatching] at state
        cases state
      | claimed _ found started granted consumed claimed same =>
        exact .claimed (.inr rfl) found started granted consumed claimed same
    · exact coherent

end Dispatch

section Runs

variable [Sha256] [SerdeJson] {db after : Database}

/-- A run that begins leaves the other launches, and may add its own. -/
theorem begun_launchesSound {now : Nat} {ids : RunIds} {id : GraphRunId} {command : BeginGraphNodeRunCommand}
    (begun : Beginning db now ids id command)
    (left : if begun.staged then stage begun.database now ids.requestId begun.plan = .ok after
      else after = begun.database) (sound : LaunchesSound db)
    (authorised : ∀ id grant, db.grants.find? id = some grant → Authorised db id) : LaunchesSound after := by
  have undisturbed : ∀ runId, Undisturbed db begun.database runId := fun runId =>
    ⟨fun run found _ _ => withAttempt_run? found, fun _ found => Table.find?_insert_of_some begun.planned found,
      Undisturbed.node_update begun.found (occupyNode_waits begun.occupied) rfl⟩
  have evolves : db.identity.content.Evolves begun.database.identity.content := withAttempt_evolves ..
  have first : LaunchesSound begun.database :=
    sound.passed rfl evolves fun row _ => .of_undisturbed (undisturbed row.runId) rfl rfl rfl
  split at left
  · obtain ⟨staging, events, rfl⟩ := stage_ok left
    have rows : (staging.database events).staged.rows = begun.database.staged.rows ++ _ :=
      Table.rows_insert staging.launched
    refine ⟨?_, fun row member => ?_⟩
    · rw [rows, List.map_append, List.map_singleton, List.nodup_append]
      refine ⟨first.requests, List.nodup_singleton _, ?_⟩
      rintro used inside fresh single rfl
      obtain ⟨other, stored, same⟩ := List.mem_map.mp inside
      exact staging.unused other stored (same.trans (List.mem_singleton.mp single))
    · rw [rows, List.mem_append, List.mem_singleton] at member
      rcases member with inside | rfl
      · exact (first.coherent row inside).passed ⟨fun _ => ⟨.of_same rfl rfl rfl,
          fun _ found => Table.find?_insert_of_some staging.requested found⟩, rfl, fun _ found => found⟩ (.refl _)
      · obtain ⟨waiting, _⟩ := validateStagedContext_ok.mp staging.context
        have same : begun.plan.runId = staging.run.metadata.id := (Lookup.find_some staging.runFound).2.symm
        have waits : Undispatched _ ⟨begun.plan.runId, staging.request.id, .awaitingApproval, now, none, none⟩
            staging.run waiting.plan waiting.node := waiting.undispatched same
        have held : Undispatched (staging.database events) _ staging.run waiting.plan waiting.node :=
          waits.undisturbed (.of_same rfl rfl rfl)
        have asked := Table.find?_insert_self staging.requested
        have ungranted : db.grants.find? staging.request.id = none := by
          cases granted : db.grants.find? staging.request.id with
          | none => rfl
          | some grant =>
            obtain ⟨_, _, found, _⟩ := authorised _ grant granted
            have fresh := Table.insert_fresh staging.requested
            cases found.symm.trans fresh
        exact .awaiting rfl held ⟨⟨_, asked, rfl, rfl, by simp⟩, ungranted, by simp⟩
  · subst left
    exact first

/-- Every change keeps the ledger of launches coherent. -/
theorem Change.launchesSound {action : Action} (change : Change db action after) (graphs : SoundGraphs db)
    (authorised : ∀ id grant, db.grants.find? id = some grant → Authorised db id) (sound : LaunchesSound db) :
    LaunchesSound after := by
  have evolves := change.evolves
  cases change with
  | quiet | shifted | replacedM3 => exact sound.of_same rfl rfl rfl rfl rfl rfl rfl
  | replacedCatalog events valid kept =>
    refine sound.passed rfl evolves fun row _ => .of_undisturbed ⟨fun run found _ _ => ?_, fun _ found => found,
      Undisturbed.node_same rfl⟩ rfl rfl rfl
    obtain ⟨member, same⟩ := Lookup.find_some found
    exact same ▸ keepsRun_ok (kept run member)
  | prepared events made initial =>
    refine sound.passed rfl evolves fun row _ => .of_undisturbed ⟨fun run found _ _ => ?_, fun _ found => found,
      Undisturbed.node_same rfl⟩ rfl rfl rfl
    rw [initial] at found
    cases found
  | accepted events made consistent m3Bounded graphBounded inserted =>
    exact sound.passed rfl evolves fun row _ => .of_undisturbed ⟨fun _ found _ _ => found, fun _ found => found,
      Undisturbed.node_insert inserted rfl⟩ rfl rfl rfl
  | storedM3 stored =>
    obtain ⟨_, _, _, rfl⟩ := stored
    exact sound.of_same rfl rfl rfl rfl rfl rfl rfl
  | reported events valid reports =>
    exact sound.passed rfl evolves fun row _ => .of_undisturbed ⟨fun _ found awaiting _ => reports.awaiting found awaiting,
      fun _ found => found, Undisturbed.node_same rfl⟩ rfl rfl rfl
  | createdGraph events valid bounded inserted =>
    exact sound.passed rfl evolves fun row _ => .of_undisturbed ⟨fun _ found _ _ => found, fun _ found => found,
      Undisturbed.node_insert inserted rfl⟩ rfl rfl rfl
  | restartedGraph events found decided same made bounded inserted =>
    exact sound.passed rfl evolves fun row _ => .of_undisturbed ⟨fun _ found _ _ => found, fun _ found => found,
      Undisturbed.node_insert inserted rfl⟩ rfl rfl rfl
  | worked stored works =>
    obtain ⟨found, _, _, _, _, rfl⟩ := stored
    have waits : ∀ runId, StillAwaits runId _ _ := fun runId => works.waits (graphs _ _ found).valid.aligned
    exact sound.passed rfl evolves fun row _ => .of_undisturbed ⟨fun _ found _ _ => found, fun _ found => found,
      Undisturbed.node_update found (waits _) rfl⟩ rfl rfl rfl
  | begun events begun serving attended current left =>
    exact (begun_launchesSound begun left sound authorised).of_same rfl rfl rfl rfl rfl rfl rfl
  | finished events trusted finishing =>
    refine sound.passed rfl evolves fun row _ => .of_undisturbed ⟨fun run found awaiting _ => ?_, fun _ found => found,
      Undisturbed.node_update finishing.found (finishedGraph_waits finishing.graphMade) rfl⟩ rfl rfl rfl
    have named := (Lookup.find_some finishing.runFound).2
    refine finishedCatalog_other finishing.catalogMade ?_ found
    rw [named]
    refine Undisturbed.apart_of_state found awaiting finishing.runFound fun same => ?_
    have active := finishing.active
    rw [same] at active
    cases active
  | requested events inserted =>
    exact sound.passed rfl evolves fun row _ => ⟨fun _ => ⟨.of_same rfl rfl rfl,
      fun _ found => Table.find?_insert_of_some inserted found⟩, rfl, fun _ found => found⟩
  | decided issued events deciding informed =>
    exact (deciding.launchesSound issued graphs sound informed).of_same rfl rfl rfl rfl rfl rfl rfl
  | cancelled events some => exact (some.launchesSound graphs sound).of_same rfl rfl rfl rfl rfl rfl rfl
  | consumed events unstaged spent =>
    exact sound.passed rfl evolves fun row member => by
      have passes := spent_passes spent (stagedFor?_none unstaged member)
      exact ⟨fun _ => ⟨.of_same rfl rfl rfl, fun _ found => found⟩, passes.grant, passes.claim⟩
  | revoked events spent cancels =>
    exact (revoked_launchesSound spent cancels graphs sound).of_same rfl rfl rfl rfl rfl rfl rfl
  | claimed events claiming => exact claiming.launchesSound events sound evolves
  | abandoned events abandoning => exact abandoning.launchesSound events sound evolves
  | @recovered now _ revision events middle proved catalogValid recoverable revised expired =>
    have follow := recovered_graphsFollow now ⟨bump db.daemon.revision, .recovering⟩ revision middle recoverable
    exact expired.launchesSound (follow.sound graphs) (recovered_launchesSound sound)

/-- A process whose launches, grants and executions are sound. -/
structure LedgersSound (process : DaemonProcess) : Prop where
  grants : GrantsSound process
  graphs : SoundGraphs process.db
  launches : LaunchesSound process.db

omit [SerdeJson] in
theorem LedgersSound.fresh : LedgersSound .fresh where
  grants := .fresh
  graphs := .fresh
  launches := ⟨List.nodup_nil, fun _ member => by cases member⟩

theorem LedgersSound.next (process : DaemonProcess) (action : Action) (sound : LedgersSound process) :
    LedgersSound (process.next action) where
  grants := sound.grants.next process action
  graphs := sound.graphs.next process action
  launches := by
    rcases process.next_change action with same | change
    · rw [same]
      exact sound.launches
    · exact change.launchesSound sound.graphs (fun id grant found => (sound.grants.authorised id grant found).2)
        sound.launches

theorem LedgersSound.run {process : DaemonProcess} (sound : LedgersSound process) (actions : List Action) :
    LedgersSound (process.run actions) :=
  Machine.run_preserves LedgersSound.next sound actions

/-- In every state that is reached, each row of the ledger of staged launches agrees with the approvals, the
grants, the dispatch claims, the runs and the nodes. -/
theorem launch_ledger_coherent (actions : List Action) :
    let db := (DaemonProcess.fresh.run actions).db
    ∀ row ∈ db.staged.rows,
      (row.state = .awaitingApproval →
        (∃ approval, db.approvals.find? row.requestId = some approval ∧ approval.decision = none) ∧
        (∀ grant ∈ db.grants.rows, grant.requestId ≠ row.requestId) ∧
        ∃ run plan node, Undispatched db row run plan node) ∧
      (row.state = .ready →
        (∃ approval decision, db.approvals.find? row.requestId = some approval ∧
          approval.request.id = row.requestId ∧ approval.decision = some decision ∧ decision.kind = .approve ∧
          decision.requestId = row.requestId ∧ decision.requestHash = approval.request.requestHash) ∧
        (∃ grant ∈ db.grants.rows, grant.requestId = row.requestId ∧ grant.consumedAtMs = none ∧
          grant.revokedAtMs = none) ∧
        ∃ run plan node, Undispatched db row run plan node) ∧
      (row.state = .cancelled →
        (∃ run, db.identity.content.run? row.runId = some run ∧ run.state = .cancelled ∧ run.startedAt = none) ∧
        ∀ grant ∈ db.grants.rows, grant.requestId = row.requestId →
          ¬(grant.consumedAtMs = none ∧ grant.revokedAtMs = none)) ∧
      (row.state = .dispatching ∨ row.state = .uncertain →
        (∃ grant ∈ db.grants.rows, grant.requestId = row.requestId ∧ grant.consumedAtMs.isSome = true) ∧
        (db.claims.rows.countP fun claim => claim.runId = row.runId) = 1) := by
  intro db row member
  have sound : LedgersSound (DaemonProcess.fresh.run actions) := LedgersSound.run .fresh actions
  cases sound.launches.coherent row member with
  | awaiting state held answered =>
    obtain ⟨⟨approval, found, _, undecided, _⟩, ungranted, _⟩ := answered
    simp only [state, reduceCtorEq, false_implies, true_implies, or_self, and_true]
    refine ⟨⟨approval, found, undecided⟩, fun grant issued same => ?_, _, _, _, held⟩
    rw [← same, Table.find?_mem issued] at ungranted
    cases ungranted
  | @ready _ _ _ decision grant state held answered =>
    obtain ⟨⟨approval, found, named, decided, verified⟩, granted, unspent⟩ := answered
    obtain ⟨checked, approves⟩ := verified decision rfl
    simp only [ApprovalRequest.verifyDecision, bind_ok, exists_unit, rejectIf_ok, Bool.or_eq_false_iff,
      decide_eq_false_iff_not, not_not, ne_eq] at checked
    obtain ⟨consumed, revoked⟩ := GrantRow.unspent_iff.mp (unspent grant rfl)
    simp only [state, reduceCtorEq, false_implies, true_implies, or_self, and_true, true_and]
    exact ⟨⟨approval, decision, found, named, decided, approves, checked.2.1.1.trans named, checked.2.1.2⟩,
      ⟨grant, Table.mem_of_find? granted, Table.find?_key granted, consumed, revoked⟩, _, _, _, held⟩
  | @cancelled run state found runState unstarted unusable =>
    simp only [state, reduceCtorEq, false_implies, true_implies, or_self, and_true, true_and]
    refine ⟨⟨run, found, runState, unstarted⟩, fun grant issued same unspent => ?_⟩
    have spent := unusable grant (same ▸ Table.find?_mem issued)
    rw [GrantRow.unspent_iff.mpr unspent] at spent
    cases spent
  | @claimed run grant claim state found started granted consumed claimed same =>
    have recorded : (∃ grant ∈ db.grants.rows, grant.requestId = row.requestId ∧ grant.consumedAtMs.isSome = true) ∧
        (db.claims.rows.countP fun claim => claim.runId = row.runId) = 1 :=
      ⟨⟨grant, Table.mem_of_find? granted, Table.find?_key granted, consumed⟩, Table.countP_key claimed⟩
    rcases state with state | state <;>
      simp only [state, reduceCtorEq, false_implies, true_implies, true_and, or_true, true_or] <;>
      exact recorded

end Runs

end Bastet.Daemon
