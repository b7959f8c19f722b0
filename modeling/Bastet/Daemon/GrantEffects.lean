import Bastet.Daemon.RunEffects

/-! What a committed step on a credential grant did: its issue with a decision, its
consumption and revocation, and the dispatch of the launch it authorises. -/

set_option autoImplicit false

namespace Bastet.Daemon

open Fallible Bastet.Core

variable [Sha256] [SerdeJson] {db after : Database}

section Approvals

/-- The ledger of approvals with a request that nobody has decided. -/
def LeavesRequest (db : Database) (now : Nat) (request : ApprovalRequest) (approvals : Table ApprovalRow.requestId) :
    Prop :=
  db.approvals.insert ⟨request.id, request.requestHash, request, request.expiresAtMs, none, timestamp now, none⟩ =
    some approvals

theorem createApproval_ok {now : Nat} {request : ApprovalRequest} {receipt : ApprovalReceipt}
    (committed : createApproval db now request = .ok (after, receipt)) :
    ∃ approvals, LeavesRequest db now request approvals ∧
      request.validateAgainst db.identity.content = .ok () ∧
      ∃ events, after = { db with approvals, events } := by
  simp only [createApproval, bind_ok, exists_unit, lift_ok, liftFault_ok, insertApproval_ok, pure_ok,
    Prod.mk.injEq] at committed
  obtain ⟨_, valid, _, _, ⟨_, _, approvals, inserted, rfl⟩, rfl, _⟩ := committed
  exact ⟨approvals, inserted, valid, _, rfl⟩

/-- An approval of a request that binds a credential leaves a grant; nothing else does. -/
def LeavesGrant (db : Database) (request : ApprovalRequest) (decision : ApprovalDecision)
    (grants : Table GrantRow.requestId) : Prop :=
  (request.action.scope.credentialBinding.isSome = true ∧ decision.kind = .approve ∧
    db.grants.insert ⟨request.id, decision.decidedAtMs, none, none, none⟩ = some grants) ∨
  (¬(request.action.scope.credentialBinding.isSome = true ∧ decision.kind = .approve) ∧ grants = db.grants)

omit [Sha256] [SerdeJson] in
theorem issueForDecision_ok {request : ApprovalRequest} {decision : ApprovalDecision}
    (done : issueForDecision db request decision = .ok after) :
    ∃ grants events, LeavesGrant db request decision grants ∧ after = { db with grants, events } := by
  unfold issueForDecision at done
  split at done
  · rename_i approved
    simp only [issue, bind_ok, insertGrant_ok, pure_ok] at done
    obtain ⟨_, ⟨_, _, _, grants, inserted, rfl⟩, rfl⟩ := done
    obtain ⟨bound, approves⟩ := Bool.and_eq_true_iff.mp approved
    exact ⟨grants, _, .inl ⟨bound, of_decide_eq_true approves, inserted⟩, rfl⟩
  · rename_i other
    refine ⟨db.grants, db.events, .inr ⟨?_, rfl⟩, (pure_ok.mp done).symm⟩
    simpa using other

theorem takeDecision_ok {now : Nat} {request : ApprovalRequest} {command : DecideApprovalCommand}
    {decision : ApprovalDecision} (done : takeDecision db now request command = .ok decision) :
    decision.requestId = command.decision.requestId ∧ decision.kind = command.decision.kind := by
  unfold takeDecision at done
  split at done
  · simp only [bind_ok, exists_unit] at done
    obtain ⟨_, _, _, done⟩ := done
    split at done <;>
    · simp only [bind_ok, exists_unit, pure_ok] at done
      obtain ⟨_, rfl⟩ := done
      exact ⟨rfl, rfl⟩
  · obtain rfl := pure_ok.mp done
    exact ⟨rfl, rfl⟩

/-- A request that is decided: its row, the decision the store took over, and the grant. -/
structure Deciding (db : Database) (now : Nat) (command : DecideApprovalCommand) where
  row : ApprovalRow
  decision : ApprovalDecision
  grants : Table GrantRow.requestId
  found : db.approvals.find? command.decision.requestId = some row
  undecided : row.decision = none
  unchanged : row.request.validateUnchanged = .ok ()
  taken : takeDecision db now row.request command = .ok decision
  addressed : decision.requestId = command.decision.requestId
  verified : row.request.verifyDecision decision = .ok ()
  granted : LeavesGrant db row.request decision grants

/-- The database with the decision, before a waiting launch learns of it. -/
def Deciding.database {now : Nat} {command : DecideApprovalCommand} (self : Deciding db now command)
    (events : List String) : Database :=
  { db with
    approvals := db.approvals.update command.decision.requestId
      (ApprovalRow.decided self.decision (timestamp now)) ApprovalRow.decided_requestId
    grants := self.grants
    events }

theorem decideApproval_ok {now : Nat} {command : DecideApprovalCommand} {receipt : ApprovalReceipt}
    (committed : decideApproval db now command = .ok (after, receipt)) :
    ∃ (deciding : Deciding db now command) (events : List String) (middle : Database) (events' : List String),
      onDecision (deciding.database events) now deciding.row.request deciding.decision.kind = .ok middle ∧
        after = { middle with events := events' } := by
  simp only [decideApproval, bind_ok, exists_unit, required_ok, reject_ok, Option.isSome_eq_false_iff,
    Option.isNone_iff_eq_none, lift_ok, pure_ok, Prod.mk.injEq] at committed
  obtain ⟨row, found, undecided, unchanged, decision, taken, verified, _, issued, middle, informed, rfl, _⟩ := committed
  obtain ⟨addressed, _⟩ := takeDecision_ok taken
  obtain ⟨grants, events, granted, rfl⟩ := issueForDecision_ok issued
  refine ⟨⟨row, decision, grants, found, undecided, unchanged, taken, addressed, verified, granted⟩, events, middle, _, ?_, rfl⟩
  simpa only [Deciding.database, Database.recordDecision, addressed] using informed

theorem cancelStagedRun_ok {now : Nat} {runId : RunId} {expected : Nat} {receipt : Option CancelRunReceipt}
    (committed : cancelStagedRun db now runId expected = .ok (after, receipt)) :
    after = db ∨
      ∃ requestId middle events, MayCancel db now requestId "cancelled" middle ∧ after = { middle with events } := by
  unfold cancelStagedRun at committed
  split at committed
  · simp only [pure_ok, Prod.mk.injEq] at committed
    exact .inl committed.1.symm
  · simp only [bind_ok, exists_unit, pure_ok, Prod.mk.injEq] at committed
    obtain ⟨_, middle, cancelled, rfl, _⟩ := committed
    exact .inr ⟨_, middle, _, cancelForRequest_ok cancelled, rfl⟩

end Approvals

section Grants

/-- What a grant that can be loaded rests on: a request that binds a credential, and its approval. -/
theorem loadGrant_ok {id : ApprovalRequestId} {record : CredentialGrantRecord}
    (loaded : loadGrant db id = .ok record) :
    ∃ grant row, db.grants.find? id = some grant ∧ db.approvals.find? id = some row ∧
      row.request = record.request ∧ row.decision = some record.decision ∧ record.request.id = id ∧
      record.decision.kind = .approve ∧ record.request.action.scope.credentialBinding.isSome = true ∧
      grant.consumedAtMs = record.consumedAtMs ∧ grant.revokedAtMs = record.revokedAtMs := by
  simp only [loadGrant, bind_ok, exists_unit, required_ok, lift_ok, reject_ok, Bool.or_eq_false_iff,
    decide_eq_false_iff_not, not_not, Option.isNone_eq_false_iff, pure_ok] at loaded
  obtain ⟨grant, found, row, located, decision, decided, _, _, ⟨⟨⟨same, approves⟩, bound⟩, _⟩, rfl⟩ := loaded
  exact ⟨grant, row, found, located, rfl, decided, same, approves, bound, rfl, rfl⟩

omit [Sha256] [SerdeJson] in
/-- One row was changed: the unspent grant of the request. -/
theorem updateUnspentGrant_one {requestId : ApprovalRequestId} {change : GrantRow → GrantRow}
    {kept : ∀ row, (change row).requestId = row.requestId} {count : Nat}
    (done : db.updateUnspentGrant requestId change kept = .ok (count, after)) (one : count = 1) :
    ∃ grant, db.grants.find? requestId = some grant ∧ grant.unspent = true ∧ (change grant).valid = true ∧
      after = { db with grants := db.grants.update requestId change kept } := by
  rcases updateUnspentGrant_ok.mp done with ⟨grant, found, unspent, valid, _, rfl⟩ | ⟨_, none, _⟩
  · exact ⟨grant, found, unspent, valid, rfl⟩
  · exact absurd (none.symm.trans one) (by decide)

/-- The unspent grant of the request `id` takes the change. -/
def SpendsGrant (db : Database) (id : ApprovalRequestId) (change : GrantRow → GrantRow)
    (kept : ∀ row, (change row).requestId = row.requestId) (grants : Table GrantRow.requestId) : Prop :=
  ∃ grant, db.grants.find? id = some grant ∧ grant.unspent = true ∧ (change grant).valid = true ∧
    grants = db.grants.update id change kept

theorem consumeCredentialGrant_ok {now : Nat} {id : ApprovalRequestId} {action : ApprovalAction}
    {record : CredentialGrantRecord} (committed : consumeCredentialGrant db now id action = .ok (after, record)) :
    db.stagedFor? id = none ∧ ∃ grants events, SpendsGrant db id (GrantRow.consume now) GrantRow.consume_requestId grants ∧
      after = { db with grants, events } := by
  simp only [consumeCredentialGrant, bind_ok, exists_unit, reject_ok, Prod.exists, pure_ok, Prod.mk.injEq,
    Option.isSome_eq_false_iff, Option.isNone_iff_eq_none, decide_eq_false_iff_not, not_not] at committed
  obtain ⟨_, _, unstaged, _, _, _, _, _, count, left, consumed, one, rfl, _⟩ := committed
  obtain ⟨grant, found, unspent, valid, rfl⟩ := updateUnspentGrant_one consumed one
  exact ⟨unstaged, _, _, ⟨grant, found, unspent, valid, rfl⟩, rfl⟩

/-- A revocation cancels the launch that waits for the grant. -/
theorem revokeCredentialGrant_ok {now : Nat} {id : ApprovalRequestId} {actor : String}
    {record : CredentialGrantRecord} (committed : revokeCredentialGrant db now id actor = .ok (after, record)) :
    ∃ grants middle events, SpendsGrant db id (GrantRow.revoke (fun _ => now) actor) GrantRow.revoke_requestId grants ∧
      MayCancel { db with grants } now id "revoked" middle ∧ after = { middle with events } := by
  simp only [revokeCredentialGrant, bind_ok, exists_unit, reject_ok, Prod.exists, pure_ok, Prod.mk.injEq,
    decide_eq_false_iff_not, not_not] at committed
  obtain ⟨_, _, _, _, _, _, count, left, revoked, one, middle, cancelled, rfl, _⟩ := committed
  obtain ⟨grant, found, unspent, valid, rfl⟩ := updateUnspentGrant_one revoked one
  exact ⟨_, middle, _, ⟨grant, found, unspent, valid, rfl⟩, cancelForRequest_ok cancelled, rfl⟩

end Grants

section Dispatch

/-- A launch that is claimed: the documents a claim changes, and what proves that it may. -/
structure Claiming (db : Database) (now : Nat) (requestId : ApprovalRequestId) where
  record : CredentialGrantRecord
  run : Run
  plan : ProviderLaunchPlan
  launch : StagedRow
  row : GraphRow
  execution : GraphExecution
  grants : Table GrantRow.requestId
  claims : Table ClaimRow.runId
  serving : db.daemon.lifecycle = .ready
  loaded : loadGrant db requestId = .ok record
  scope : record.request.action.scope.runId = some run.metadata.id
  launchFound : db.staged.find? run.metadata.id = some launch
  launchRequest : launch.requestId = requestId
  launchReady : launch.state = .ready
  runFound : db.identity.content.run? run.metadata.id = some run
  proved : validateStagedRun db run = .ok ()
  planned : ProviderLaunchPlan.load db run.metadata.id = .ok plan
  found : db.graphs.find? plan.executionId = some row
  activated : row.execution.activateStagedNode plan.nodeId plan.owner run.metadata.id = .ok execution
  graphValid : execution.validate = .ok ()
  catalogValid : (db.identity.content.updateRun run.metadata.id (startRun (timestamp now))).validate = .ok ()
  catalogBounded : db.identity.revision + 1 < sqlLimit
  graphBounded : execution.revision < sqlLimit
  spent : SpendsGrant db requestId (GrantRow.consume now) GrantRow.consume_requestId grants
  claimed : db.claims.insert ⟨run.metadata.id, requestId, now⟩ = some claims

/-- The database after the claim. -/
def Claiming.database {now : Nat} {requestId : ApprovalRequestId} (self : Claiming db now requestId)
    (events : List String) : Database :=
  { db with
    identity := ⟨db.identity.revision + 1,
      db.identity.content.updateRun self.run.metadata.id (startRun (timestamp now))⟩
    graphs := db.graphs.update self.plan.executionId (GraphRow.store self.execution (timestamp now))
      GraphRow.store_executionId
    grants := self.grants
    staged := db.staged.update self.run.metadata.id (StagedRow.move .dispatching) StagedRow.move_runId
    claims := self.claims
    events }

omit [Sha256] [SerdeJson] in
theorem writeClaim_ok {now : Nat} {requestId : ApprovalRequestId} {runId : RunId} {revision : Nat}
    {catalog : IdentityCatalog} {executionId : GraphRunId} {graph : GraphExecution}
    (done : writeClaim db now requestId runId revision catalog executionId graph = .ok after) :
    revision < sqlLimit ∧ graph.revision < sqlLimit ∧ ∃ grants claims events,
      SpendsGrant db requestId (GrantRow.consume now) GrantRow.consume_requestId grants ∧
      db.claims.insert ⟨runId, requestId, now⟩ = some claims ∧
      after = { db with
        identity := ⟨revision, catalog⟩
        graphs := db.graphs.update executionId (GraphRow.store graph (timestamp now)) GraphRow.store_executionId
        grants
        staged := db.staged.update runId (StagedRow.move .dispatching) StagedRow.move_runId
        claims
        events } := by
  simp only [writeClaim, bind_ok, exists_unit, Prod.exists, reject_ok, insertClaim_ok, writeIdentity_ok,
    updateGraph_ok, pure_ok, decide_eq_false_iff_not, not_not] at done
  obtain ⟨count, left, consumed, one, _, _, ⟨_, claims, claimed, rfl⟩, _, ⟨catalogBounded, rfl⟩, _,
    ⟨graphBounded, rfl⟩, rfl⟩ := done
  obtain ⟨grant, found, unspent, valid, rfl⟩ := updateUnspentGrant_one consumed one
  exact ⟨catalogBounded, graphBounded, _, claims, _, ⟨grant, found, unspent, valid, rfl⟩, claimed, rfl⟩

theorem claimStagedDispatch_ok {now : Nat} {readable : ProviderCredentialSelection → Bool}
    {requestId : ApprovalRequestId} {claim : DispatchClaim}
    (committed : claimStagedDispatch db now readable requestId = .ok (after, claim)) :
    ∃ (claiming : Claiming db now requestId) (events : List String),
      after = claiming.database events ∧ claim.receipt.runId = claiming.run.metadata.id := by
  simp only [claimStagedDispatch, claimableGrant, claimedPlan, bind_ok, exists_unit, Prod.exists, required_ok,
    reject_ok, lift_ok, nextRevision_ok, pure_ok, Prod.mk.injEq, Option.any_eq_true, Bool.and_eq_true,
    decide_eq_true_eq, Bool.not_eq_eq_eq_not, Bool.not_false, decide_eq_false_iff_not, not_not, ne_eq] at committed
  obtain ⟨_, runId, ⟨serving, record, loaded, _, _, _, _, scope, ⟨launch, launchFound, launchRequest, launchReady⟩, rfl, rfl⟩,
    run, runFound, _, _, ⟨proved, _, plan, planned, _, _, _, _, rfl, rfl⟩, row, found, execution, activated, graphValid,
    _, _, catalogValid, _, ⟨_, rfl⟩, middle, written, rfl, rfl⟩ := committed
  obtain rfl : run.metadata.id = _ := (Lookup.find_some runFound).2
  obtain ⟨catalogBounded, graphBounded, grants, claims, events, spent, claimed, rfl⟩ := writeClaim_ok written
  exact ⟨⟨record, run, plan, launch, row, execution, grants, claims, serving, loaded, scope, launchFound, launchRequest,
    launchReady, runFound, proved, planned, found, activated, graphValid, catalogValid, catalogBounded, graphBounded,
    spent, claimed⟩, events, rfl, rfl⟩

/-- A claim whose lookup failed: its run, which has not got beyond its start, is uncertain. -/
structure Abandoning (db : Database) (now : Nat) (runId : RunId) where
  plan : ProviderLaunchPlan
  run : Run
  launch : StagedRow
  row : GraphRow
  execution : GraphExecution
  planned : ProviderLaunchPlan.load db runId = .ok plan
  runFound : db.identity.content.run? runId = some run
  starting : run.state = .starting
  found : db.graphs.find? plan.executionId = some row
  bound : (row.execution.node? plan.nodeId).bind (·.runId) = some runId
  ended : row.execution.finishTerminal plan.nodeId plan.owner .uncertain none = .ok execution
  catalogValid : (db.identity.content.updateRun runId (Run.enter .uncertain (timestamp now))).validate = .ok ()
  launchFound : db.staged.find? runId = some launch
  dispatching : launch.state = .dispatching
  catalogBounded : db.identity.revision + 1 < sqlLimit
  graphBounded : execution.revision < sqlLimit

/-- The database after the failure. -/
def Abandoning.database {now : Nat} {runId : RunId} (self : Abandoning db now runId) (events : List String) :
    Database :=
  { db with
    identity := ⟨db.identity.revision + 1,
      db.identity.content.updateRun runId (Run.enter .uncertain (timestamp now))⟩
    graphs := db.graphs.update self.plan.executionId (GraphRow.store self.execution (timestamp now))
      GraphRow.store_executionId
    staged := db.staged.update runId (StagedRow.move .uncertain) StagedRow.move_runId
    events }

theorem failDispatchClaim_ok {now : Nat} {runId : RunId} (committed : failDispatchClaim db now runId = .ok after) :
    ∃ (abandoning : Abandoning db now runId) (events : List String), after = abandoning.database events := by
  simp only [failDispatchClaim, bind_ok, exists_unit, required_ok, reject_ok, lift_ok, nextRevision_ok,
    writeIdentity_ok, updateGraph_ok, pure_ok, decide_eq_false_iff_not, not_not, Option.any_eq_true,
    decide_eq_true_eq, Bool.not_eq_eq_eq_not, Bool.not_false] at committed
  obtain ⟨plan, planned, run, runFound, starting, row, found, bound, execution, ended, _, _, catalogValid,
    ⟨launch, launchFound, dispatching⟩, _, ⟨_, rfl⟩, _, ⟨catalogBounded, rfl⟩, _, ⟨graphBounded, rfl⟩, rfl⟩ := committed
  exact ⟨⟨plan, run, launch, row, execution, planned, runFound, starting, found, bound, ended, catalogValid, launchFound,
    dispatching, catalogBounded, graphBounded⟩, _, rfl⟩

end Dispatch

end Bastet.Daemon
