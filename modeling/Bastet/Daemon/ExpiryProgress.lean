import Bastet.Core.M3References
import Bastet.Daemon.RecoverySoundness

/-! A launch that waits in a store that validates can be cancelled, and the store validates afterwards. Nothing but
the clock and the revision counters can stand in the way. -/

set_option autoImplicit false

namespace Bastet.Daemon

open Fallible Bastet.Core

section Timestamps

/-- A digit is no white space. -/
theorem isWhitespace_digit {character : Char} (digit : character.isDigit = true) : isWhitespace character = false := by
  simp only [Char.isDigit, Bool.and_eq_true, decide_eq_true_eq] at digit
  have least : 48 ≤ character.toNat := digit.1
  have greatest : character.toNat ≤ 57 := digit.2
  simp only [isWhitespace, Bool.or_eq_false_iff, Bool.and_eq_false_iff, decide_eq_false_iff_not, beq_eq_false_iff_ne]
  omega

theorem timestamp_nonblank (now : Nat) : isBlank (timestamp now) = false := by
  have text : (timestamp now).toList = Nat.toDigits 10 now := by
    simp [timestamp, ToString.toString, Nat.repr_eq_ofList_toDigits]
  unfold isBlank
  rw [text, List.all_eq_false]
  have written : Nat.toDigits 10 now ≠ [] := Nat.toDigits_ne_nil
  obtain ⟨first, member⟩ := List.exists_mem_of_ne_nil _ written
  refine ⟨first, member, ?_⟩
  rw [isWhitespace_digit (Nat.isDigit_of_mem_toDigits (by decide) (by decide) member)]
  simp

end Timestamps

section Catalogs

variable {catalog : IdentityCatalog} {runId : RunId}

/-- A catalog stays valid when the runs of an id become other valid runs of it. -/
theorem validate_updateRun {change : Run → Run} (valid : catalog.validate = .ok ())
    (kept : ∀ run, (change run).metadata.id = run.metadata.id)
    (checked : ∀ run ∈ catalog.runs, run.metadata.id = runId →
      validateMetadata "Run" (change run).metadata = .ok () ∧ catalog.validateRun (change run) = .ok ()) :
    (catalog.updateRun runId change).validate = .ok () := by
  have ids : (catalog.updateRun runId change).runs.map (·.metadata.id.value) =
      catalog.runs.map (·.metadata.id.value) := by
    simp only [IdentityCatalog.updateRun]
    exact Lookup.map_modifyFirst (fun run => by rw [kept]) catalog.runs
  have each : ∀ {holds : Run → Prop}, (∀ run ∈ catalog.runs, holds run) →
      (∀ run ∈ catalog.runs, run.metadata.id = runId → holds (change run)) →
      ∀ run ∈ (catalog.updateRun runId change).runs, holds run := by
    intro holds before changed run member
    rcases Lookup.mem_modifyFirst member with old | ⟨old, inside, same, rfl⟩
    · exact before run old
    · exact changed old inside same
  simp only [IdentityCatalog.validate, IdentityCatalog.validateRequiredFields, bind_ok, exists_unit, forEach_ok, ids]
    at valid ⊢
  obtain ⟨references, agents, models, accounts, items, instances, projects, roles, sessions, runs, ⟨named, model, account,
    item, agent, project, role, session, run, reference⟩, validAccounts, validModels, validAgents, validSessions,
    validRuns⟩ := valid
  exact ⟨references, agents, models, accounts, items, instances, projects, roles, sessions, runs, ⟨named, model, account,
    item, agent, project, role, session, each run fun old member same => (checked old member same).1, reference⟩,
    validAccounts, validModels, validAgents, validSessions,
    each validRuns fun old member same => (checked old member same).2⟩

theorem cancelledRun_ids (catalog : IdentityCatalog) (row : StagedRow) (now : Nat) :
    (cancelledRun catalog row now).runs.map (·.metadata.id) = catalog.runs.map (·.metadata.id) := by
  have kept : ∀ run : Run, (endRun .cancelled (timestamp (row.finishTime now)) run).metadata.id = run.metadata.id :=
    fun _ => rfl
  exact Lookup.map_modifyFirst kept catalog.runs

/-- A run may end as cancelled whether it has started or not. -/
theorem validate_cancelledRun {row : StagedRow} (valid : catalog.validate = .ok ()) (now : Nat) :
    (cancelledRun catalog row now).validate = .ok () := by
  refine validate_updateRun valid (fun _ => rfl) fun run member _ => ?_
  simp only [IdentityCatalog.validate, IdentityCatalog.validateRequiredFields, bind_ok, exists_unit, forEach_ok]
    at valid
  obtain ⟨_, _, _, _, _, _, _, _, _, _, ⟨_, _, _, _, _, _, _, _, metadata, _⟩, _, _, _, _, runs⟩ := valid
  have named := metadata run member
  have placed := runs run member
  simp only [validateMetadata, nonempty, bind_ok, exists_unit, rejectIf_ok] at named
  simp only [IdentityCatalog.validateRun, bind_ok, exists_unit] at placed
  constructor
  · simp only [validateMetadata, nonempty, bind_ok, exists_unit, rejectIf_ok]
    exact ⟨named.1, timestamp_nonblank _, named.2.2⟩
  · simp only [IdentityCatalog.validateRun, bind_ok, exists_unit]
    exact ⟨placed.1, placed.2.1, rfl⟩

end Catalogs

section Executions

open GraphExecution M3State

variable {db : Database} {after : GraphExecution} {id : GraphRunId} {row : GraphRow}

theorem storedExecutions_perm (db : Database) : (storedExecutions db).Perm (db.graphs.rows.map (·.execution)) :=
  (List.perm_insertionSort GraphRow.precedes db.graphs.rows).map _

variable [Sha256]

theorem SoundGraphs.member (sound : SoundGraphs db) (member : row ∈ db.graphs.rows) : row.Sound :=
  sound _ row (Table.find?_mem member)

theorem SoundGraphs.ids (sound : SoundGraphs db) : ((storedExecutions db).map (·.id)).Nodup := by
  have same : (db.graphs.rows.map (·.execution)).map (·.id) = db.graphs.rows.map (·.executionId) := by
    rw [List.map_map]
    exact List.map_congr_left fun row member => (sound.member member).id.symm
  exact ((storedExecutions_perm db).map (·.id)).nodup_iff.mpr (same ▸ db.graphs.distinct)

theorem SoundGraphs.validExecution (sound : SoundGraphs db) {execution : GraphExecution}
    (member : execution ∈ storedExecutions db) : execution.validate = .ok () := by
  obtain ⟨row, inside, rfl⟩ := mem_storedExecutions.mp member
  exact validate_iff.mpr (sound.member inside).valid

/-- An execution of the store is found under its id. -/
theorem SoundGraphs.only (sound : SoundGraphs db) (found : db.graphs.find? id = some row) {execution : GraphExecution}
    (member : execution ∈ storedExecutions db) (named : execution.id = id) : execution = row.execution := by
  obtain ⟨other, inside, rfl⟩ := mem_storedExecutions.mp member
  have located := Table.find?_mem inside
  rw [(sound.member inside).id, named, found] at located
  rw [Option.some.inj located]

/-- The executions as they are checked during a change are cited as they were. -/
theorem sameCited_replaced (sound : SoundGraphs db) (found : db.graphs.find? after.id = some row)
    (same : after.cited = row.execution.cited) : SameCited (storedExecutions db)
      (Lookup.modifyFirst (·.id) after.id (fun _ => after) (storedExecutions db)) := by
  unfold SameCited
  rw [Lookup.modifyFirst_eq_map sound.ids, List.map_map]
  refine List.Perm.of_eq (List.map_congr_left fun execution member => ?_)
  simp only [Function.comp_apply]
  split
  · rename_i named
    rw [sound.only found member named, same]
  · rfl

omit [Sha256] in
/-- So are they once the change is stored. -/
theorem sameCited_stored {updatedAt : String} {later : Database} (found : db.graphs.find? after.id = some row)
    (same : after.cited = row.execution.cited)
    (graphs : later.graphs = db.graphs.update after.id (GraphRow.store after updatedAt) GraphRow.store_executionId) :
    SameCited (storedExecutions db) (storedExecutions later) := by
  refine ((storedExecutions_perm later).map _).trans (List.Perm.trans (.of_eq ?_) ((storedExecutions_perm db).map _).symm)
  rw [graphs, Table.rows_update, List.map_map, List.map_map, List.map_map]
  refine List.map_congr_left fun other member => ?_
  simp only [Function.comp_apply]
  split
  · rename_i named
    have located := Table.find?_mem member
    rw [named, found] at located
    obtain rfl := Option.some.inj located
    exact same
  · rfl

end Executions

section Progress

variable [Sha256] [SerdeJson] {db : Database} {now : Nat} {run : Run}

/-- The documents of the store pass the checks made when they are read, and so do the launches that wait. -/
structure Validates (db : Database) : Prop where
  readable : Readable db
  sound : SoundGraphs db
  state : M3State.validate ⟨db.m3.content, storedExecutions db⟩ db.identity.content = .ok ()
  launches : ∀ row ∈ db.staged.rows, row.state.isWaiting = true →
    ∃ run, db.identity.content.run? row.runId = some run ∧ validateStagedRun db run = .ok ()
  requests : (db.staged.rows.map (·.requestId)).Nodup
  timed : ∀ row ∈ db.staged.rows, row.stagedAtMs < sqlLimit
  revised : db.identity.revision < sqlLimit

omit [SerdeJson] in
theorem validate_identity {state : M3State} {identity : IdentityCatalog} (valid : state.validate identity = .ok ()) :
    identity.validate = .ok () := by
  simp only [M3State.validate, bind_ok, exists_unit, mapError_ok] at valid
  exact valid.1

omit [Sha256] [SerdeJson] in
theorem cancelStagedNode_revision {before after : GraphExecution} {nodeId : GraphNodeId} {owner : String} {runId : RunId}
    (cancelled : before.cancelStagedNode nodeId owner runId = .ok after) : after.revision = bump before.revision := by
  obtain ⟨_, _, _, _, _, rfl⟩ := GraphExecution.cancelStagedNode_ok cancelled
  rfl

/-- The attempt of a launch that waits is open. -/
theorem Waiting.attemptStored (waiting : Waiting db run) :
    db.nodeRuns.find? run.metadata.id = some waiting.attempt ∧ waiting.attempt.finishedAt = none ∧
      waiting.attempt.terminalState = none := by
  have opened := waiting.attemptOpen
  simp only [isOpenAttempt, Bool.and_eq_true, decide_eq_true_eq, Option.isNone_iff_eq_none] at opened
  have member : waiting.attempt ∈ db.nodeRuns.rows :=
    (List.mem_filter.mp (List.mem_of_find?_eq_some waiting.latest)).1
  rw [← waiting.planRun, ← opened.1.1.1.1]
  exact ⟨Table.find?_mem member, opened.1.1.2, opened.1.2⟩

omit [Sha256] [SerdeJson] in
theorem cancelStagedNode_succeeds {execution : GraphExecution} {nodeId : GraphNodeId} {owner : String} {runId : RunId}
    {node : GraphNodeExecution} (found : execution.node? nodeId = some node)
    (awaits : node.state = .awaitingApproval) (owned : node.owner = some owner) (bound : node.runId = some runId) :
    ∃ after, execution.cancelStagedNode nodeId owner runId = .ok after := by
  refine ⟨_, bind_ok.mpr ⟨node, okOr_ok.mpr found, bind_ok.mpr ⟨(), rejectIf_ok.mpr ?_, rfl⟩⟩⟩
  rw [GraphExecution.stagedAs, decide_eq_true awaits, decide_eq_true owned, decide_eq_true bound]
  rfl

omit [Sha256] [SerdeJson] in
/-- The revocation of an unspent grant keeps the constraints of the table. -/
theorem revoke_valid {grant : GrantRow} (unspent : grant.unspent = true) (finishedAtMs : Nat) (revokedBy : String) :
    (grant.revoke (fun issued => max issued finishedAtMs) revokedBy).valid = true := by
  simp only [GrantRow.unspent, Bool.and_eq_true, Option.isNone_iff_eq_none] at unspent
  simp [GrantRow.valid, GrantRow.revoke, unspent.1]

omit [Sha256] [SerdeJson] in
theorem revokeGrant_succeeds (db : Database) (requestId : ApprovalRequestId) (finishedAtMs : Nat) (revokedBy : String) :
    ∃ result, db.revokeGrant requestId (fun issued => max issued finishedAtMs) revokedBy = .ok result := by
  simp only [Database.revokeGrant, Prod.exists, updateUnspentGrant_ok]
  cases found : db.grants.find? requestId with
  | none => exact ⟨0, db, .inr ⟨by simp, rfl, rfl⟩⟩
  | some grant =>
    cases unspent : grant.unspent with
    | false =>
      refine ⟨0, db, .inr ⟨fun other same => ?_, rfl, rfl⟩⟩
      rwa [← Option.some.inj same]
    | true => exact ⟨1, _, .inl ⟨grant, rfl, unspent, revoke_valid unspent finishedAtMs revokedBy, rfl, rfl⟩⟩

omit [Sha256] [SerdeJson] in
theorem writeCancellation_succeeds {row : StagedRow} {attempt : NodeRunRow} {execution : GraphExecution}
    {finishedAtMs : Nat} (catalog : IdentityCatalog) (reason : String)
    (catalogRoom : db.identity.revision + 1 < sqlLimit) (graphRoom : execution.revision < sqlLimit)
    (clock : finishedAtMs < sqlLimit) (found : db.nodeRuns.find? row.runId = some attempt)
    (unfinished : attempt.finishedAt = none) (open_ : attempt.terminalState = none) :
    ∃ after, writeCancellation db row catalog execution finishedAtMs reason = .ok after := by
  have counted : db.identity.revision + 1 < 2 ^ 64 := by
    unfold sqlLimit at catalogRoom
    omega
  simp only [writeCancellation, bind_ok, exists_unit, nextRevision_ok, writeIdentity_ok, updateGraph_ok, reject_ok,
    storable_ok, pure_ok]
  have attempted : (db.nodeRuns.find? row.runId).any (fun attempt =>
      attempt.finishedAt.isNone && attempt.terminalState.isNone) = true := by
    rw [found, Option.any_some, unfinished, open_]
    rfl
  obtain ⟨result, revoked⟩ := revokeGrant_succeeds _ row.requestId finishedAtMs "daemon:staged_launch_cancelled"
  refine ⟨_, _, ⟨counted, rfl⟩, _, ⟨catalogRoom, rfl⟩, _, ⟨graphRoom, rfl⟩, ?_, clock, result, revoked, rfl⟩
  rw [attempted]
  rfl

/-- With room in the counters a launch that waits is cancelled. -/
theorem cancelWaiting_succeeds (store : Validates db) (waiting : Waiting db run) (reason : String)
    (clock : now < sqlLimit) (catalogRoom : db.identity.revision + 1 < sqlLimit)
    (runRoom : run.metadata.revision + 1 < 2 ^ 64) (graphRoom : waiting.row.execution.revision + 1 < sqlLimit) :
    ∃ after, cancelWaiting db now waiting.launch reason = .ok after := by
  have named : waiting.launch.runId = run.metadata.id := Table.find?_key waiting.launchFound
  obtain ⟨execution, cancelled⟩ := cancelStagedNode_succeeds waiting.nodeFound waiting.nodeAwaits waiting.nodeOwner
    waiting.nodeRun
  have stored := store.sound _ _ waiting.rowFound
  obtain ⟨frame, executionValid, _⟩ := (Written.cancelled cancelled).kept stored.valid
  have catalogValid : (cancelledRun db.identity.content waiting.launch now).validate = .ok () :=
    validate_cancelledRun (validate_identity store.state) now
  simp only [cancelWaiting, cancelledGraph, cancelledCatalog, validateM3State, bind_ok, exists_unit, loadCatalog_ok,
    required_ok, reject_ok, lift_ok, nowMs_ok, nextRevision_ok, pure_ok, loadGraphExecutions_ok]
  have found : db.identity.content.run? waiting.launch.runId = some run := named ▸ waiting.runFound
  have context : validateStagedContext db run false false = .ok () :=
    validateStagedContext_ok.mpr ⟨waiting, by simp, by simp⟩
  have same : execution.id = waiting.plan.executionId :=
    frame.id.trans (stored.id.symm.trans (Table.find?_key waiting.rowFound))
  have located : db.graphs.find? execution.id = some waiting.row := same ▸ waiting.rowFound
  have lapses := LapsesExactly.of_cancelled stored.valid.aligned.distinct cancelled
  have replaced : replaceExecution (storedExecutions db) execution.id execution =
      .ok (Lookup.modifyFirst (·.id) execution.id (fun _ => execution) (storedExecutions db)) := by
    have listed : execution.id ∈ (storedExecutions db).map (·.id) := by
      rw [frame.id]
      exact List.mem_map_of_mem (mem_storedExecutions.mpr ⟨_, Table.mem_of_find? waiting.rowFound, rfl⟩)
    obtain ⟨old, inside⟩ := Lookup.exists_of_mem_keys listed
    exact bind_ok.mpr ⟨old, required_ok.mpr inside, rfl⟩
  have consistent : M3State.validate
      ⟨db.m3.content, Lookup.modifyFirst (·.id) execution.id (fun _ => execution) (storedExecutions db)⟩
      (cancelledRun db.identity.content waiting.launch now) = .ok () := by
    refine M3State.validate_of_cited store.state (sameCited_replaced store.sound located lapses.cited) ?_
      (cancelledRun_ids _ waiting.launch now) catalogValid
    intro other member
    rcases Lookup.mem_modifyFirst member with inside | ⟨_, _, _, rfl⟩
    · exact store.sound.validExecution inside
    · exact GraphExecution.validate_iff.mpr executionValid
  have finishes : max now waiting.launch.stagedAtMs < sqlLimit :=
    max_lt clock (store.timed _ (Table.mem_of_find? waiting.launchFound))
  have revised : execution.revision < sqlLimit := by
    have moved := (cancelStagedNode_revision cancelled).trans_le (Nat.mod_le _ _)
    omega
  obtain ⟨attempted, unfinished, opened⟩ := waiting.attemptStored
  obtain ⟨after, written⟩ := writeCancellation_succeeds (cancelledRun db.identity.content waiting.launch now) reason
    catalogRoom revised finishes (named ▸ attempted) unfinished opened
  have planned : ProviderLaunchPlan.load db waiting.launch.runId = .ok waiting.plan := named ▸ waiting.planned
  rw [cancelledRun, named] at catalogValid consistent written
  exact ⟨after, _, ⟨validate_identity store.state, rfl⟩, run, found, context, waiting.plan, planned, execution,
    ⟨waiting.row, waiting.rowFound, by simp [waiting.rowRevision], execution, cancelled,
      GraphExecution.validate_iff.mpr executionValid, rfl⟩, clock, _,
    ⟨_, ⟨runRoom, rfl⟩, catalogValid, rfl⟩, _, ⟨store.readable, rfl⟩, _, replaced, consistent, written⟩

end Progress

section Attempts

variable {db after : Database} {change : NodeRunRow → NodeRunRow}

/-- A change of the rows that keeps what they are numbered by keeps which attempt is the latest. -/
theorem latestAttempt_map (rows : after.nodeRuns.rows = db.nodeRuns.rows.map change)
    (kept : ∀ row, (change row).executionId = row.executionId ∧ (change row).nodeId = row.nodeId ∧
      (change row).attempt = row.attempt) (executionId : GraphRunId) (nodeId : GraphNodeId) :
    after.latestAttempt executionId nodeId = (db.latestAttempt executionId nodeId).map change := by
  have attempts : after.attempts executionId nodeId = (db.attempts executionId nodeId).map change := by
    unfold Database.attempts
    rw [rows, List.filter_map]
    congr 2
    funext row
    simp only [Function.comp_apply, (kept row).1, (kept row).2.1]
  have greatest : after.maxAttempt executionId nodeId = db.maxAttempt executionId nodeId := by
    unfold Database.maxAttempt
    rw [attempts, List.foldr_map]
    congr 1
    funext row greatest
    rw [(kept row).2.2]
  unfold Database.latestAttempt
  rw [attempts, greatest, List.find?_map]
  congr 2
  funext row
  simp only [Function.comp_apply, (kept row).2.2]

end Attempts

section Preserved

variable [Sha256] [SerdeJson] {db after : Database} {now : Nat} {row : StagedRow} {reason : String} {run : Run}
  {plan : ProviderLaunchPlan} {graphRow : GraphRow} {execution : GraphExecution}

/-- A launch that waits beside the one that is cancelled waits as before. -/
theorem Cancels.waiting (cancels : Cancels db now row reason run plan graphRow execution after) (sound : SoundGraphs db)
    {other : Run} (apart : other.metadata.id ≠ row.runId) (waiting : Waiting db other) :
    ∃ later : Waiting after other, later.launch = waiting.launch ∧ later.approval = waiting.approval := by
  have expires : Expires (fun id => id = row.runId) db after := cancels.expires sound rfl
  have undisturbed := expires.undisturbed apart
  have soundAfter := (cancels.graphsFollow sound).sound sound
  obtain ⟨later, reached, lapses⟩ := expires.graph _ _ waiting.rowFound
  have stored := soundAfter _ _ reached
  have defined : later.execution.definition? waiting.plan.nodeId = some waiting.definition := by
    have defined := waiting.defined
    unfold GraphExecution.definition? at defined ⊢
    rw [lapses.frame.graph]
    exact defined
  have awaits : later.execution.node? waiting.plan.nodeId = some waiting.node :=
    lapses.stillAwaits apart _ _ waiting.nodeFound waiting.nodeAwaits (waiting.nodeRun.trans (by rw [waiting.planRun]))
  have found := undisturbed.run other waiting.runFound waiting.awaiting waiting.unstarted
  obtain ⟨grants, events, _, left⟩ := cancels.left
  have attemptRun : waiting.attempt.runId ≠ row.runId := by
    have opened := waiting.attemptOpen
    simp only [isOpenAttempt, Bool.and_eq_true, decide_eq_true_eq] at opened
    rw [opened.1.1.1.1, waiting.planRun]
    exact apart
  have latest : after.latestAttempt waiting.plan.executionId waiting.plan.nodeId = some waiting.attempt := by
    have rows := congrArg (fun db => db.nodeRuns.rows) left
    dsimp only at rows
    rw [Table.rows_update] at rows
    rw [latestAttempt_map rows, waiting.latest, Option.map_some, if_neg attemptRun]
    intro row
    split <;> exact ⟨rfl, rfl, rfl⟩
  have launched : after.staged.find? other.metadata.id = some waiting.launch := by
    rw [left]
    dsimp only
    rw [Table.find?_update_of_ne apart, waiting.launchFound]
  have attempted : after.nodeRuns.find? other.metadata.id = db.nodeRuns.find? other.metadata.id := by
    rw [left]
    dsimp only
    rw [Table.find?_update_of_ne apart]
  have planned : ProviderLaunchPlan.load after other.metadata.id = .ok waiting.plan := by
    have planned := waiting.planned
    unfold ProviderLaunchPlan.load loadLaunchIdentity at planned ⊢
    rw [attempted, expires.spares.plans]
    exact planned
  have catalogValid : after.identity.content.validate = .ok () := by
    rw [left]
    exact cancels.catalogValid
  have sessionFound : after.identity.content.session? other.sessionId = some waiting.session := by
    rw [left]
    exact waiting.sessionFound
  exact ⟨{ waiting with
    row := later
    launchFound := launched
    planned
    catalogValid
    runFound := found
    sessionFound
    rowFound := reached
    graphValid := GraphExecution.validate_iff.mpr stored.valid
    rowRevision := stored.revision
    defined
    nodeFound := awaits
    latest
    approvalFound := expires.spares.approvals ▸ waiting.approvalFound }, rfl, rfl⟩

/-- Two launches of a request are one. -/
theorem Validates.onlyLaunch (store : Validates db) {first second : StagedRow} (member : first ∈ db.staged.rows)
    (inside : second ∈ db.staged.rows) (same : first.requestId = second.requestId) : first = second :=
  List.inj_on_of_nodup_map store.requests member inside same

theorem Cancels.grants (cancels : Cancels db now row reason run plan graphRow execution after)
    {requestId : ApprovalRequestId} (apart : requestId ≠ row.requestId) :
    after.grants.find? requestId = db.grants.find? requestId := by
  obtain ⟨grants, events, revoked, rfl⟩ := cancels.left
  dsimp only
  rcases revoked with ⟨_, _, _, rfl⟩ | ⟨_, rfl⟩
  · rw [Table.find?_update_of_ne apart]
  · rfl

/-- The cancellation of a launch leaves a store that validates. -/
theorem Cancels.validates (cancels : Cancels db now row reason run plan graphRow execution after) (store : Validates db)
    (member : row ∈ db.staged.rows) : Validates after := by
  have stored := store.sound _ _ cancels.stored
  have same : execution.id = plan.executionId :=
    ((Written.cancelled cancels.cancelled).kept stored.valid).1.id.trans
      (stored.id.symm.trans (Table.find?_key cancels.stored))
  have located : db.graphs.find? execution.id = some graphRow := same ▸ cancels.stored
  have lapses := LapsesExactly.of_cancelled stored.valid.aligned.distinct cancels.cancelled
  have soundAfter := (cancels.graphsFollow store.sound).sound store.sound
  have expires : Expires (fun id => id = row.runId) db after := cancels.expires store.sound rfl
  obtain ⟨grants, events, _, left⟩ := cancels.left
  have cited := sameCited_stored located lapses.cited (congrArg Database.graphs left)
  refine ⟨fun other inside => ?_, soundAfter, ?_, fun other inside waits => ?_, ?_, ?_, ?_⟩
  · -- the ledger of outputs is as it was, and so are the outputs of the execution
    have ledger : validateGraphOutputLedger after other = .ok () := by
      obtain ⟨old, listed, named, _, outputs, _⟩ := cited.counterpart inside
      have agreed := store.readable old listed
      simp only [validateStored, bind_ok, exists_unit, lift_ok] at agreed
      rw [← agreed.2]
      simp only [validateGraphOutputLedger, expires.spares.outputs, named, outputs]
    simp only [validateStored, bind_ok, exists_unit, lift_ok]
    exact ⟨soundAfter.validExecution inside, ledger⟩
  · have kept := M3State.validate_of_cited store.state cited (fun _ inside => soundAfter.validExecution inside)
      (cancelledRun_ids _ row now) cancels.catalogValid
    rw [left] at kept ⊢
    exact kept
  · rw [left] at inside
    dsimp only at inside
    rcases Table.mem_update.mp inside with ⟨old, apart⟩ | ⟨old, _, _, rfl⟩
    · obtain ⟨found, located, proved⟩ := store.launches other old waits
      obtain ⟨waiting, _, decided⟩ := validateStagedContext_ok.mp proved
      have named : found.metadata.id = other.runId := (Lookup.find_some located).2
      have launch : waiting.launch = other :=
        Option.some.inj (waiting.launchFound.symm.trans (named ▸ Table.find?_mem old))
      obtain ⟨later, same, approval⟩ := cancels.waiting store.sound (named ▸ apart) waiting
      have requested : waiting.approval.request.id ≠ row.requestId := by
        rw [waiting.approvalId, launch]
        exact fun equal => apart (congrArg (·.runId) (store.onlyLaunch old member equal))
      refine ⟨found, named ▸ later.runFound, validateStagedContext_ok.mpr ⟨later, by simp, fun _ => ?_⟩⟩
      have decided := decided rfl
      simp only [validateDecisionAndGrantState, same, approval, cancels.grants requested] at decided ⊢
      exact decided
    · cases waits
  · rw [expires.requests]
    exact store.requests
  · intro other inside
    rw [left] at inside
    dsimp only at inside
    rcases Table.mem_update.mp inside with ⟨old, _⟩ | ⟨old, listed, _, rfl⟩
    · exact store.timed other old
    · exact store.timed old listed
  · rw [left]
    exact cancels.catalogBounded

end Preserved

end Bastet.Daemon
