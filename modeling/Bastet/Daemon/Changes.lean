import Bastet.Daemon.RecoveryEffects

/-! Everything a committed step can do to the database. An invariant of the daemon is
proved once for every kind of change, not once for every command. -/

set_option autoImplicit false

namespace Bastet.Daemon

open Fallible Bastet.Core

variable [Sha256] [SerdeJson]

/-- Waiting launches are cancelled, one after another. -/
def CancelsSome (now : Nat) : Database → Database → Prop :=
  Relation.ReflTransGen fun before later => ∃ requestId reason, MayCancel before now requestId reason later

/-- A version of the catalog cites an execution as it was cited before, or a complete one. -/
def CitesComplete (db : Database) (catalog : M3Catalog) : Prop :=
  ∀ document ∈ catalog.deliverables.documents, ∀ version ∈ document.versions, version.sourceExecutionId.isSome →
    (∃ old ∈ db.m3.content.deliverables.documents, ∃ origin ∈ old.versions,
      origin.sourceExecutionId = version.sourceExecutionId ∧ origin.sourceJoinNodeId = version.sourceJoinNodeId) ∨
    ∃ execution ∈ storedExecutions db, version.sourceExecutionId = some execution.id ∧
      ∀ node ∈ execution.nodes, node.state = .succeeded

/-- What a command on the documents makes of the stored M3 catalog. -/
inductive Redrafts (db : Database) : M3Catalog → Prop
  | created {execution : GraphExecution} {document : DocumentArtifact} {version : DocumentVersion}
      (stored : execution ∈ storedExecutions db) (complete : ∀ node ∈ execution.nodes, node.state = .succeeded)
      (source : version.sourceExecutionId = some execution.id) (versions : document.versions = [version]) :
      Redrafts db (addDocument db.m3.content document)
  | accepted {artifactId : ArtifactId} {versionId : ArtifactVersionId} {document : DocumentArtifact}
      {version accepted : DocumentVersion} {actor acceptedAt : String}
      (found : (db.m3.content.deliverables.documents.find? fun document => document.metadata.id = artifactId) =
        some document)
      (inside : (document.versions.find? fun version => version.id = versionId) = some version)
      (done : version.accept actor acceptedAt = .ok accepted) :
      Redrafts db (updateVersion db.m3.content artifactId versionId fun _ => accepted)
  | delivered (deliveries : List KnowledgeDelivery) : Redrafts db (withDeliveries db.m3.content deliveries)
  | costed (record : CostLedgerRecord) : Redrafts db (addCost db.m3.content record)

/-- What a command on the lifecycle does to it. -/
inductive Shifts (db : Database) : Command → DaemonLifecycle → Prop
  | entered : Shifts db .enterReady .ready
  | checkpointed {checkpointId : Uuid} {expected : Nat} (ready : db.daemon.lifecycle = .ready) :
      Shifts db (.checkpoint checkpointId expected) .ready
  | stopped {checkpointId : Uuid} {expected : Nat}
      (idle : ∀ run ∈ db.identity.content.runs, runMayBeActive run = false) :
      Shifts db (.shutdown checkpointId expected) .stopping
  | suspended {checkpointId : Uuid} {expected : Nat} (ready : db.daemon.lifecycle = .ready) :
      Shifts db (.suspend checkpointId expected) .suspended
  | resumed {expected : Nat} (suspended : db.daemon.lifecycle = .suspended) : Shifts db (.resume expected) .ready

omit [Sha256] [SerdeJson] in
/-- The run whose cancellation a command reports. -/
def Command.cancels : Command → Option RunId
  | .recordProviderCancelAfterPreflight _ runId => some runId
  | .recordProviderCancelAccepted _ runId _ => some runId
  | _ => none

/-- What a report about a run may do to the catalog: move one run that is at work, and name a session. -/
inductive Reports (db : Database) (updatedAt : String) : Command → IdentityCatalog → Prop
  | running {command : Command} {run : Run} {session : Session} {marked named : IdentityCatalog}
      {providerSessionId : Option String} (current : isCurrentAttempt db run.metadata.id = true)
      (found : db.identity.content.run? run.metadata.id = some run) (active : run.state.isActive = true)
      (mark : markRunning db.identity.content updatedAt run = .ok marked)
      (name : nameSession marked updatedAt session providerSessionId = .ok named) : Reports db updatedAt command named
  | cancelling {command : Command} {run : Run} (asked : command.cancels = some run.metadata.id)
      (found : db.identity.content.run? run.metadata.id = some run)
      (open_ : run.state.isCancellable = true ∨ run.state = .cancelling) :
      Reports db updatedAt command (db.identity.content.updateRun run.metadata.id (Run.enter .cancelling updatedAt))

omit [Sha256] [SerdeJson] in
/-- The execution whose nodes a command works on. -/
def Command.worksOn : Command → Option GraphRunId
  | .retryFailedGraphNode _ id _ => some id
  | .claimGraphNodes _ id _ _ _ => some id
  | .completeGraphNode _ id _ _ _ _ => some id
  | _ => none

/-- What an operation on a stored execution may do to it. -/
inductive Works (before : GraphExecution) : Command → GraphExecution → Prop
  | retried {now : Nat} {id : GraphRunId} {command : RetryFailedGraphNodeCommand} {execution : GraphExecution}
      (done : before.retryFailed command.nodeId = .ok execution) :
      Works before (.retryFailedGraphNode now id command) execution
  | claimed {now : Nat} {id : GraphRunId} {expected : Nat} {owner : String} {limit : Nat} {claimed : List GraphNodeId}
      {execution : GraphExecution} (done : before.claimReady owner limit = (.ok claimed, execution)) :
      Works before (.claimGraphNodes now id expected owner limit) execution
  | completed {now : Nat} {id : GraphRunId} {expected : Nat} {nodeId : GraphNodeId} {owner : String}
      {succeeded : Bool} {execution : GraphExecution} (done : before.complete nodeId owner succeeded = .ok execution) :
      Works before (.completeGraphNode now id expected nodeId owner succeeded) execution

inductive Change (db : Database) : Action → Database → Prop
  | quiet {action : Action} (events : List String) : Change db action { db with events }
  | shifted {command : Command} {lifecycle : DaemonLifecycle} (events : List String)
      (shifts : Shifts db command lifecycle) :
      Change db (.command command) { db with daemon := ⟨bump db.daemon.revision, lifecycle⟩, events }
  | replacedCatalog {action : Action} {catalog : IdentityCatalog} (events : List String)
      (valid : catalog.validate = .ok ())
      (kept : ∀ run ∈ db.identity.content.runs, keepsRun db.identity.content catalog run = .ok ())
      (idle : ∀ run ∈ catalog.runs, introducesIdle db.identity.content run = .ok ())
      (consistent : M3State.validate ⟨db.m3.content, storedExecutions db⟩ catalog = .ok ())
      (bounded : bump db.identity.revision < sqlLimit) :
      Change db action { db with identity := ⟨bump db.identity.revision, catalog⟩, events }
  | replacedM3 {command : ReplaceM3CatalogCommand} (events : List String)
      (expected : db.m3.revision = command.expectedRevision)
      (valid : validateM3Catalog command.catalog db.identity.content = .ok ())
      (bounded : db.m3.revision + 1 < sqlLimit) :
      Change db (.command (.replaceM3Catalog command))
        { db with m3 := ⟨db.m3.revision + 1, command.catalog⟩, events }
  | prepared {action : Action} {ids : MvpDraftIds} {directory : Bool} {command : PrepareMvpCommand}
      {draft : MvpDraft} (events : List String)
      (made : MvpDraft.prepare ids directory command.projectName command.workspaceRoot command.codexModel
        command.agyModel = .ok draft)
      (initial : db.identity.content = .empty) (unconfigured : m3IsUnconfigured db.m3.content = true)
      (catalogBounded : db.identity.revision + 1 < sqlLimit) (m3Bounded : db.m3.revision + 1 < sqlLimit) :
      Change db action { db with
        identity := ⟨db.identity.revision + 1, draft.identity⟩
        m3 := ⟨db.m3.revision + 1, keepProfiles draft.m3 db.m3.content⟩
        events }
  | accepted {now : Nat} {ids : DecisionIds} {command : AcceptDecisionBaselineCommand} {catalog : M3Catalog}
      {execution : GraphExecution} {graphs : Table GraphRow.executionId} (events : List String)
      (made : Core.acceptMvpDecision ids db.m3.content db.identity.content command.meetingId command.content
        command.acceptedBy command.acceptedAt = .ok (catalog, execution))
      (consistent : M3State.validate ⟨catalog, storedExecutions db ++ [execution]⟩ db.identity.content = .ok ())
      (m3Bounded : db.m3.revision + 1 < sqlLimit) (graphBounded : execution.revision < sqlLimit)
      (inserted : db.graphs.insert ⟨execution.id, execution.revision, execution, timestamp now⟩ = some graphs) :
      Change db (.command (.acceptMvpDecision now ids command))
        { db with m3 := ⟨db.m3.revision + 1, catalog⟩, graphs, events }
  | storedM3 {action : Action} {after : Database} {catalog : M3Catalog} (stored : StoresM3 db catalog after)
      (drafts : Redrafts db catalog) : Change db action after
  | reported {command : Command} {now : Nat} {catalog : IdentityCatalog} (events : List String)
      (valid : catalog.validate = .ok ()) (reports : Reports db (timestamp now) command catalog)
      (bounded : db.identity.revision + 1 < sqlLimit) :
      Change db (.command command) { db with identity := ⟨db.identity.revision + 1, catalog⟩, events }
  | createdGraph {now : Nat} {submitted : GraphExecution} {graphs : Table GraphRow.executionId} (events : List String)
      (valid : (sanitizeExecution submitted).validate = .ok ()) (bounded : submitted.revision < sqlLimit)
      (inserted : db.graphs.insert ⟨submitted.id, submitted.revision, sanitizeExecution submitted, timestamp now⟩ =
        some graphs) :
      Change db (.command (.createGraphExecution now submitted)) { db with graphs, events }
  | restartedGraph {now : Nat} {restartedId originalId : GraphRunId} {expected : Nat} {row : GraphRow}
      {baseline : DecisionBaseline} {restarted : GraphExecution} {graphs : Table GraphRow.executionId}
      (events : List String) (found : db.graphs.find? originalId = some row)
      (decided : baseline ∈ db.m3.content.meetings.decisionBaselines)
      (same : baseline.metadata.id = row.execution.graph.decisionBaselineId)
      (made : row.execution.restartAs restartedId = .ok restarted) (bounded : restarted.revision < sqlLimit)
      (inserted : db.graphs.insert ⟨restarted.id, restarted.revision, restarted, timestamp now⟩ = some graphs) :
      Change db (.command (.restartMissingOutputGraph now restartedId originalId expected)) { db with graphs, events }
  | worked {command : Command} {after : Database} {now : Nat} {id : GraphRunId} {row : GraphRow} {execution : GraphExecution}
      (stored : StoresGraph db now id row execution after) (works : Works row.execution command execution)
      (addressed : command.worksOn = some id) :
      Change db (.command command) after
  | begun {now : Nat} {ids : RunIds} {id : GraphRunId} {command : BeginGraphNodeRunCommand}
      {expected : Option ProviderRunBinding} {middle : Database} (events : List String)
      (begun : Beginning db now ids id command) (serving : expected.isSome = true → db.daemon.lifecycle = .ready)
      (attended : begun.staged = true → expected.isSome = true)
      (current : db.identity.revision = command.expectedCatalogRevision)
      (left : if begun.staged then stage begun.database now ids.requestId begun.plan = .ok middle
        else middle = begun.database) :
      Change db (.command (.beginGraphNodeRun now ids id command expected)) { middle with events }
  | finished {now : Nat} {costId : CostRecordId} {id : GraphRunId} {submitted command : FinishGraphNodeRunCommand}
      (events : List String) (trusted : command = submitted ∨ command = distrust submitted)
      (finishing : Finishing db now costId id command) :
      Change db (.command (.finishGraphNodeRun now costId id submitted)) (finishing.database events)
  | requested {now : Nat} {request : ApprovalRequest} {approvals : Table ApprovalRow.requestId} (events : List String)
      (inserted : LeavesRequest db now request approvals)
      (valid : request.validateAgainst db.identity.content = .ok ()) :
      Change db (.command (.createApproval now request)) { db with approvals, events }
  | decided {now : Nat} {command : DecideApprovalCommand} {middle : Database}
      (issued events : List String) (deciding : Deciding db now command)
      (informed : onDecision (deciding.database issued) now deciding.row.request deciding.decision.kind = .ok middle) :
      Change db (.command (.decideApproval now command)) { middle with events }
  | cancelled {action : Action} {now : Nat} {middle : Database} (events : List String)
      (some : CancelsSome now db middle) : Change db action { middle with events }
  | consumed {action : Action} {now : Nat} {id : ApprovalRequestId} {grants : Table GrantRow.requestId}
      (events : List String) (unstaged : db.stagedFor? id = none)
      (spent : SpendsGrant db id (GrantRow.consume now) GrantRow.consume_requestId grants) :
      Change db action { db with grants, events }
  | revoked {action : Action} {now : Nat} {id : ApprovalRequestId} {actor : String}
      {grants : Table GrantRow.requestId} {middle : Database} (events : List String)
      (spent : SpendsGrant db id (GrantRow.revoke (fun _ => now) actor) GrantRow.revoke_requestId grants)
      (cancels : MayCancel { db with grants } now id "revoked" middle) :
      Change db action { middle with events }
  | claimed {now : Nat} {readable : ProviderCredentialSelection → Bool} {requestId : ApprovalRequestId}
      (events : List String) (claiming : Claiming db now requestId) :
      Change db (.claim now readable requestId) (claiming.database events)
  | abandoned {now : Nat} {runId : RunId} (events : List String) (abandoning : Abandoning db now runId) :
      Change db (.failClaim now runId) (abandoning.database events)
  | recovered {now : Nat} {after : Database} {revision : Nat} (events middle : List String)
      (proved : ∀ run ∈ db.identity.content.runs, run.state = .awaitingApproval → run.startedAt = none →
        validateStagedRun { db with daemon := ⟨bump db.daemon.revision, .recovering⟩, events } run = .ok ())
      (catalogValid : (db.identity.content.recovered (timestamp now)).validate = .ok ())
      (recoverable : ∀ row ∈ db.graphs.rows, Recoverable row) (revised : RecoversRevision db revision)
      (expired : CancelsSome now (db.recovered now ⟨bump db.daemon.revision, .recovering⟩ revision middle) after) :
      Change db (.restart now) after

section Committed

variable {db after : Database}

theorem expire_cancels {now : Nat} (committed : expire db now = .ok after) : CancelsSome now db after :=
  expire_preserves (fun _ _ requestId cancels reached => reached.tail ⟨requestId, _, cancels⟩) committed .refl

section Cancellations

omit [Sha256] [SerdeJson] in
/-- What the cancellation of launches leaves as it is. -/
structure Spares (before after : Database) : Prop where
  daemon : after.daemon = before.daemon
  m3 : after.m3 = before.m3
  outputs : after.outputs = before.outputs
  approvals : after.approvals = before.approvals
  plans : after.plans = before.plans
  claims : after.claims = before.claims
  attempts : after.nodeRuns.rows.map (·.runId) = before.nodeRuns.rows.map (·.runId)
  launches : after.staged.rows.map (·.runId) = before.staged.rows.map (·.runId)

omit [Sha256] [SerdeJson] in
theorem Spares.refl (db : Database) : Spares db db := ⟨rfl, rfl, rfl, rfl, rfl, rfl, rfl, rfl⟩

omit [Sha256] [SerdeJson] in
theorem Spares.trans {last : Database} (first : Spares db after) (second : Spares after last) : Spares db last where
  daemon := second.daemon.trans first.daemon
  m3 := second.m3.trans first.m3
  outputs := second.outputs.trans first.outputs
  approvals := second.approvals.trans first.approvals
  plans := second.plans.trans first.plans
  claims := second.claims.trans first.claims
  attempts := second.attempts.trans first.attempts
  launches := second.launches.trans first.launches

theorem Cancels.spares {now : Nat} {row : StagedRow} {reason : String} {run : Run} {plan : ProviderLaunchPlan}
    {graphRow : GraphRow} {execution : GraphExecution}
    (cancels : Cancels db now row reason run plan graphRow execution after) : Spares db after := by
  obtain ⟨grants, events, _, rfl⟩ := cancels.left
  exact ⟨rfl, rfl, rfl, rfl, rfl, rfl, Table.keys_update NodeRunRow.finish_runId,
    Table.keys_update StagedRow.cancel_runId⟩

theorem MayCancel.spares {now : Nat} {requestId : ApprovalRequestId} {reason : String}
    (cancels : MayCancel db now requestId reason after) : Spares db after := by
  rcases cancels with ⟨rfl, _⟩ | ⟨_, _, _, _, _, _, cancels⟩
  · exact .refl _
  · exact cancels.spares

theorem CancelsSome.spares {now : Nat} (cancels : CancelsSome now db after) : Spares db after := by
  induction cancels with
  | refl => exact .refl _
  | tail _ last ih =>
    obtain ⟨_, _, cancels⟩ := last
    exact ih.trans cancels.spares

theorem onDecision_spares {now : Nat} {request : ApprovalRequest} {kind : ApprovalDecisionKind}
    (informed : onDecision db now request kind = .ok after) : Spares db after := by
  rcases onDecision_ok informed with ⟨_, rfl⟩ | ⟨_, _, _, _, _, _, _, _, _, _, _, rfl⟩ | ⟨_, cancels⟩
  · exact .refl _
  · exact ⟨rfl, rfl, rfl, rfl, rfl, rfl, rfl, Table.keys_update StagedRow.move_runId⟩
  · exact cancels.spares

omit [Sha256] [SerdeJson] in
/-- What the staging of a launch leaves as it is. -/
structure Stages (before after : Database) : Prop where
  daemon : after.daemon = before.daemon
  identity : after.identity = before.identity
  m3 : after.m3 = before.m3
  graphs : after.graphs = before.graphs
  nodeRuns : after.nodeRuns = before.nodeRuns
  outputs : after.outputs = before.outputs
  grants : after.grants = before.grants
  plans : after.plans = before.plans
  claims : after.claims = before.claims

/-- A run that begins leaves the launch of its plan, if it is staged, and nothing else. -/
theorem Beginning.stages {now : Nat} {ids : RunIds} {id : GraphRunId} {command : BeginGraphNodeRunCommand}
    {begun : Beginning db now ids id command}
    (left : if begun.staged then stage begun.database now ids.requestId begun.plan = .ok after
      else after = begun.database) : Stages begun.database after := by
  split at left
  · obtain ⟨staging, _, rfl⟩ := stage_ok left
    exact ⟨rfl, rfl, rfl, rfl, rfl, rfl, rfl, rfl, rfl⟩
  · subst left
    exact ⟨rfl, rfl, rfl, rfl, rfl, rfl, rfl, rfl, rfl⟩

end Cancellations

omit [Sha256] [SerdeJson] in
theorem citesComplete_same {catalog : M3Catalog}
    (same : catalog.deliverables.documents = db.m3.content.deliverables.documents) : CitesComplete db catalog := by
  intro document member version inside _
  exact .inl ⟨document, same ▸ member, version, inside, rfl, rfl⟩

omit [SerdeJson] in
theorem citesComplete_update {artifactId : ArtifactId} {versionId : ArtifactVersionId} {document : DocumentArtifact}
    {version accepted : DocumentVersion} {actor acceptedAt : String}
    (member : document ∈ db.m3.content.deliverables.documents) (inside : version ∈ document.versions)
    (done : version.accept actor acceptedAt = .ok accepted) :
    CitesComplete db (updateVersion db.m3.content artifactId versionId fun _ => accepted) := by
  intro other present item listed _
  left
  simp only [DocumentVersion.accept, bind_ok, exists_unit, rejectIf_ok, pure_ok] at done
  obtain ⟨_, _, rfl⟩ := done
  rcases Lookup.mem_modifyFirst present with kept | ⟨old, kept, _, rfl⟩
  · exact ⟨other, kept, item, listed, rfl, rfl⟩
  · rcases Lookup.mem_modifyFirst listed with same | ⟨_, _, _, rfl⟩
    · exact ⟨old, kept, item, same, rfl, rfl⟩
    · exact ⟨document, member, version, inside, rfl, rfl⟩

omit [SerdeJson] in
/-- A document that is made now cites a complete execution; the others cite what they cited. -/
theorem Redrafts.citesComplete {catalog : M3Catalog} (drafts : Redrafts db catalog) : CitesComplete db catalog := by
  cases drafts with
  | @created execution document version stored complete source versions =>
    intro other present item listed _
    rcases List.mem_append.mp present with kept | added
    · exact .inl ⟨other, kept, item, listed, rfl, rfl⟩
    · obtain rfl := List.mem_singleton.mp added
      rw [versions, List.mem_singleton] at listed
      subst listed
      exact .inr ⟨execution, stored, source, complete⟩
  | accepted found inside done =>
    exact citesComplete_update (List.mem_of_find?_eq_some found) (List.mem_of_find?_eq_some inside) done
  | delivered | costed => exact citesComplete_same rfl

theorem execute_change {command : Command} (committed : execute db command = .ok after) :
    Change db (.command command) after := by
  cases command <;> simp only [execute, bind_ok, pure_ok, Prod.exists, exists_and_right, exists_eq_right] at committed
  case replaceCatalog command =>
    obtain ⟨receipt, committed⟩ := committed
    obtain ⟨valid, kept, idle, consistent, bounded, events, rfl⟩ := replaceCatalog_ok committed
    exact .replacedCatalog events valid kept idle consistent bounded
  case replaceM3Catalog command =>
    obtain ⟨receipt, committed⟩ := committed
    obtain ⟨expected, valid, bounded, events, rfl⟩ := replaceM3Catalog_ok committed
    exact .replacedM3 events expected valid bounded
  case prepareMvp ids directory command =>
    obtain ⟨receipt, committed⟩ := committed
    obtain ⟨draft, made, initial, unconfigured, catalogBounded, m3Bounded, events, rfl⟩ := prepareMvp_ok committed
    exact .prepared events made initial unconfigured catalogBounded m3Bounded
  case acceptMvpDecision now ids command =>
    obtain ⟨receipt, committed⟩ := committed
    obtain ⟨catalog, execution, graphs, made, _, consistent, m3Bounded, graphBounded, inserted, events, rfl⟩ :=
      acceptMvpDecision_ok committed
    exact .accepted events made consistent m3Bounded graphBounded inserted
  case createMvpDocument now artifactId versionId command =>
    obtain ⟨receipt, committed⟩ := committed
    obtain ⟨execution, joinNode, document, version, stored, complete, source, join, versions, storedM3⟩ :=
      createMvpDocument_ok committed
    exact .storedM3 storedM3 (.created stored complete source versions)
  case acceptMvpDocument command =>
    obtain ⟨receipt, committed⟩ := committed
    obtain ⟨document, version, accepted, found, inside, done, stored⟩ := acceptMvpDocument_ok committed
    exact .storedM3 stored (.accepted found inside done)
  case prepareKnowledgeDelivery now deliveryId command =>
    obtain ⟨receipt, committed⟩ := committed
    obtain ⟨deliveries, stored⟩ := prepareKnowledgeDelivery_ok committed
    exact .storedM3 stored (.delivered deliveries)
  case completeKnowledgeDelivery command =>
    obtain ⟨receipt, committed⟩ := committed
    obtain ⟨deliveries, stored⟩ := completeKnowledgeDelivery_ok committed
    exact .storedM3 stored (.delivered deliveries)
  case recordCost command =>
    obtain ⟨receipt, committed⟩ := committed
    exact .storedM3 (recordCost_ok committed) (.costed command.record)
  case recordProviderRunning now runId providerSessionId =>
    obtain ⟨revision, committed⟩ := committed
    rcases recordProviderRunning_ok committed with rfl | ⟨run, session, marked, catalog, current, found, active, _, mark,
      name, valid, bounded, events, rfl⟩
    · exact .quiet _
    · have same := (Lookup.find_some found).2
      exact .reported events valid (.running (same ▸ current) (same ▸ found) active mark name) bounded
  case recordProviderCancelAfterPreflight now runId =>
    obtain ⟨receipt, committed⟩ := committed
    rcases recordProviderCancelAfterPreflight_ok committed with ⟨events, rfl⟩ | ⟨run, catalog, found, open_, rfl, valid,
      bounded, events, rfl⟩
    · exact .quiet _
    · have same := (Lookup.find_some found).2
      exact .reported events valid (.cancelling (congrArg some same.symm) (same ▸ found) open_) bounded
  case recordProviderCancelAccepted now runId expected =>
    obtain ⟨receipt, committed⟩ := committed
    obtain ⟨run, catalog, found, open_, rfl, valid, bounded, events, rfl⟩ := recordProviderCancelAccepted_ok committed
    have same := (Lookup.find_some found).2
    exact .reported events valid (.cancelling (congrArg some same.symm) (same ▸ found) (.inl open_)) bounded
  case createGraphExecution now submitted =>
    obtain ⟨receipt, committed⟩ := committed
    obtain ⟨execution, graphs, rfl, valid, bounded, inserted, events, rfl⟩ := createGraphExecution_ok committed
    exact .createdGraph events valid bounded inserted
  case restartMissingOutputGraph now restartedId originalId expected =>
    obtain ⟨receipt, committed⟩ := committed
    rcases restartMissingOutputGraph_ok committed with rfl | ⟨row, baseline, restarted, graphs, found, _, decided,
      same, made, bounded, inserted, events, rfl⟩
    · exact .quiet _
    · exact .restartedGraph events found decided same made bounded inserted
  case retryFailedGraphNode now id command =>
    obtain ⟨receipt, committed⟩ := committed
    obtain ⟨row, execution, done, stored⟩ := retryFailedGraphNode_ok committed
    exact .worked stored (.retried done) rfl
  case claimGraphNodes now id expected owner limit =>
    obtain ⟨claimed, committed⟩ := committed
    obtain ⟨row, execution, done, stored⟩ := claimGraphNodes_ok committed
    exact .worked stored (.claimed done) rfl
  case completeGraphNode now id expected nodeId owner succeeded =>
    obtain ⟨result, committed⟩ := committed
    obtain ⟨row, execution, done, stored⟩ := completeGraphNode_ok committed
    exact .worked stored (.completed done) rfl
  case beginGraphNodeRun now ids id command expected =>
    obtain ⟨receipt, committed⟩ := committed
    obtain ⟨begun, middle, events, serving, attended, current, left, rfl⟩ := beginGraphNodeRunInner_ok committed
    exact .begun events begun serving attended current left
  case finishGraphNodeRun now costId id command =>
    obtain ⟨receipt, committed⟩ := committed
    obtain ⟨command, trusted, finishing, events, rfl⟩ := finishGraphNodeRun_ok committed
    exact .finished events trusted finishing
  case createApproval now request =>
    obtain ⟨receipt, committed⟩ := committed
    obtain ⟨approvals, inserted, valid, events, rfl⟩ := createApproval_ok committed
    exact .requested events inserted valid
  case decideApproval now command =>
    obtain ⟨receipt, committed⟩ := committed
    obtain ⟨deciding, issued, middle, events, informed, rfl⟩ := decideApproval_ok committed
    exact .decided issued events deciding informed
  case expireStagedLaunches now =>
    simp only [expireStagedLaunches, bind_ok, exists_unit] at committed
    exact .cancelled after.events (expire_cancels committed.2)
  case cancelStagedRun now runId expected =>
    obtain ⟨receipt, committed⟩ := committed
    rcases cancelStagedRun_ok committed with rfl | ⟨requestId, middle, events, cancels, rfl⟩
    · exact .quiet _
    · exact .cancelled events (.single ⟨requestId, _, cancels⟩)
  case consumeCredentialGrant now id action =>
    obtain ⟨record, committed⟩ := committed
    obtain ⟨unstaged, grants, events, spent, rfl⟩ := consumeCredentialGrant_ok committed
    exact .consumed events unstaged spent
  case revokeCredentialGrant now id actor =>
    obtain ⟨record, committed⟩ := committed
    obtain ⟨grants, middle, events, spent, cancels, rfl⟩ := revokeCredentialGrant_ok committed
    exact .revoked events spent cancels
  case enterReady =>
    obtain ⟨sequence, committed⟩ := committed
    obtain ⟨events, rfl⟩ := transition_ok committed
    exact .shifted events .entered
  case checkpoint checkpointId expected =>
    obtain ⟨receipt, committed⟩ := committed
    obtain ⟨needed, _, events, rfl⟩ := persistCheckpoint_ok committed
    exact .shifted events (.checkpointed (needed .ready rfl))
  case shutdown checkpointId expected =>
    obtain ⟨receipt, committed⟩ := committed
    obtain ⟨_, idle, events, rfl⟩ := persistCheckpoint_ok committed
    exact .shifted events (.stopped (idle rfl))
  case suspend checkpointId expected =>
    obtain ⟨receipt, committed⟩ := committed
    obtain ⟨needed, _, events, rfl⟩ := persistCheckpoint_ok committed
    exact .shifted events (.suspended (needed .ready rfl))
  case resume expected =>
    obtain ⟨sequence, committed⟩ := committed
    obtain ⟨suspended, events, rfl⟩ := resume_ok committed
    exact .shifted events (.resumed suspended)

theorem reopen_change {now : Nat} (committed : reopen db now = .ok after) : Change db (.restart now) after := by
  obtain ⟨revision, events, middle, proved, catalogValid, recoverable, revised, expired⟩ := reopen_ok committed
  exact .recovered events middle proved catalogValid recoverable revised (expire_cancels expired)

omit [Sha256] [SerdeJson] in
/-- A step of the process that commits takes over the committed database. -/
theorem DaemonProcess.commit_cases {α : Type} (process : DaemonProcess) (result : StoreResult α)
    (committed : α → DaemonProcess) :
    (∃ value, process.service = .serving ∧ result = .ok value ∧ process.commit result committed = committed value) ∨
      ∃ service, process.commit result committed = { process with service } := by
  unfold commit
  split
  · rename_i serving
    exact .inl ⟨_, serving, rfl, rfl⟩
  · exact .inr ⟨_, rfl⟩
  · exact .inr ⟨_, rfl⟩

/-- Only a process at work executes a command. -/
theorem DaemonProcess.next_command (process : DaemonProcess) (command : Command) :
    process.service = .serving ∨ (process.next (.command command)).db = process.db := by
  simp only [next]
  rcases commit_cases process (execute process.db command) _ with ⟨_, serving, _, _⟩ | ⟨_, same⟩
  · exact .inl serving
  · rw [same]
    exact .inr rfl

/-- A step of the process leaves the database as it was, or changes it in one of the ways above. -/
theorem DaemonProcess.next_change (process : DaemonProcess) (action : Action) :
    (process.next action).db = process.db ∨ Change process.db action (process.next action).db := by
  cases action with
  | command command =>
    simp only [next]
    rcases commit_cases process (execute process.db command) _ with ⟨db, _, committed, same⟩ | ⟨service, same⟩
    · rw [same]
      exact .inr (execute_change committed)
    · rw [same]
      exact .inl rfl
  | claim now readable requestId =>
    simp only [next]
    rcases commit_cases process (claimStagedDispatch process.db now readable requestId) _ with
      ⟨⟨db, claim⟩, _, committed, same⟩ | ⟨service, same⟩
    · rw [same]
      obtain ⟨claiming, events, rfl, _⟩ := claimStagedDispatch_ok committed
      exact .inr (.claimed events claiming)
    · rw [same]
      exact .inl rfl
  | lookUp requestId succeeds =>
    simp only [next]
    split <;> exact .inl rfl
  | failClaim now runId =>
    simp only [next]
    split
    · rcases commit_cases process (failDispatchClaim process.db now runId) _ with
        ⟨db, _, committed, same⟩ | ⟨service, same⟩
      · rw [same]
        obtain ⟨abandoning, events, rfl⟩ := failDispatchClaim_ok committed
        exact .inr (.abandoned events abandoning)
      · rw [same]
        exact .inl rfl
    · exact .inl rfl
  | restart now =>
    simp only [next]
    split
    · rename_i db reopened
      exact .inr (reopen_change reopened)
    · exact .inl rfl

end Committed

end Bastet.Daemon
