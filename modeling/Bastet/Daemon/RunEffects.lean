import Bastet.Daemon.Effects

/-! What a committed begin or end of a run did, and a dispatch: the documents each of them
made and the facts its checks established about them. -/

set_option autoImplicit false

namespace Bastet.Daemon

open Fallible Bastet.Core

variable [Sha256] [SerdeJson] {db after : Database}

section Begin

omit [Sha256] [SerdeJson] in
/-- A node is occupied by staging it, or by claiming it and binding its run. -/
theorem occupyNode_ok {before execution : GraphExecution} {nodeId : GraphNodeId} {owner : String} {runId : RunId}
    {staged : Bool} (done : occupyNode before nodeId owner runId staged = .ok execution) :
    (staged = true ∧ before.stageNode nodeId owner runId = .ok execution) ∨
      (staged = false ∧ ∃ claimed, before.claimNode nodeId owner = .ok claimed ∧
        claimed.bindRun nodeId owner runId = .ok execution) := by
  unfold occupyNode at done
  cases staged
  · exact .inr ⟨rfl, by simpa using done⟩
  · exact .inl ⟨rfl, by simpa using done⟩

/-- The plan of a run that begins. -/
def beginPlan (db : Database) (ids : RunIds) (id : GraphRunId) (command : BeginGraphNodeRunCommand)
    (binding : ProviderRunBinding) (roleId : RoleId) (policy : LaunchPolicySnapshot) : ProviderLaunchPlan :=
  ⟨2, id, command.nodeId, ids.sessionId, ids.runId, db.maxAttempt id command.nodeId + 1, roleId, command.owner,
    binding.launchIdentity, binding.workspaceRoot, binding.prompt, some policy⟩

/-- The attempt of a run that begins. -/
def beginAttempt (db : Database) (now : Nat) (ids : RunIds) (id : GraphRunId) (nodeId : GraphNodeId)
    (binding : ProviderRunBinding) : NodeRunRow :=
  ⟨id, nodeId, ids.runId, db.maxAttempt id nodeId + 1, timestamp now, none, none, none,
    .recorded binding.launchIdentity⟩

/-- A run that begins: its session and run in the catalog, its node in the execution, its
attempt in the ledger, and its plan. -/
structure Beginning (db : Database) (now : Nat) (ids : RunIds) (id : GraphRunId)
    (command : BeginGraphNodeRunCommand) where
  staged : Bool
  binding : ProviderRunBinding
  row : GraphRow
  execution : GraphExecution
  definition : GraphNode
  policy : LaunchPolicySnapshot
  nodeRuns : Table NodeRunRow.runId
  plans : Table PlanRow.runId
  found : db.graphs.find? id = some row
  readable : validateStored db row.execution = .ok ()
  resolved : resolveProviderRunBinding db.identity.content db.m3.content row.execution command.nodeId = .ok binding
  hasAccount : staged = true → binding.launchIdentity.account.isSome = true
  occupied : occupyNode row.execution command.nodeId command.owner ids.runId staged = .ok execution
  catalogValid : (withAttempt db.identity.content now ids binding staged).validate = .ok ()
  catalogBounded : db.identity.revision + 1 < sqlLimit
  graphBounded : execution.revision < sqlLimit
  attempted : db.nodeRuns.insert (beginAttempt db now ids id command.nodeId binding) = some nodeRuns
  defined : execution.definition? command.nodeId = some definition
  captured : LaunchPolicySnapshot.capture (withAttempt db.identity.content now ids binding staged) binding.projectId
    definition.roleId = .ok policy
  planned : db.plans.insert ⟨ids.runId, beginPlan db ids id command binding definition.roleId policy,
    (beginPlan db ids id command binding definition.roleId policy).hash⟩ = some plans

namespace Beginning

variable {now : Nat} {ids : RunIds} {id : GraphRunId} {command : BeginGraphNodeRunCommand}

/-- The plan of the run. -/
def plan (self : Beginning db now ids id command) : ProviderLaunchPlan :=
  beginPlan db ids id command self.binding self.definition.roleId self.policy

/-- The database with the run, before its launch is staged. -/
def database (self : Beginning db now ids id command) : Database :=
  { db with
    identity := ⟨db.identity.revision + 1, withAttempt db.identity.content now ids self.binding self.staged⟩
    graphs := db.graphs.update id (GraphRow.store self.execution (timestamp now)) GraphRow.store_executionId
    nodeRuns := self.nodeRuns
    plans := self.plans }

end Beginning

theorem beginGraphNodeRunInner_ok {now : Nat} {ids : RunIds} {id : GraphRunId} {command : BeginGraphNodeRunCommand}
    {expected : Option ProviderRunBinding} {receipt : BeginGraphNodeRunReceipt}
    (committed : beginGraphNodeRunInner db now ids id command expected = .ok (after, receipt)) :
    ∃ (begun : Beginning db now ids id command) (middle : Database) (events : List String),
      (expected.isSome = true → db.daemon.lifecycle = .ready) ∧ (begun.staged = true → expected.isSome = true) ∧
      db.identity.revision = command.expectedCatalogRevision ∧
      (if begun.staged then stage begun.database now ids.requestId begun.plan = .ok middle
        else middle = begun.database) ∧ after = { middle with events } := by
  simp only [beginGraphNodeRunInner, ProviderLaunchPlan.insert, bind_ok, exists_unit, reject_ok, expectRevision_ok,
    loadGraph_ok, lift_ok, nextRevision_ok, writeIdentity_ok, updateGraph_ok, insertNodeRun_ok, required_ok,
    insertPlan_ok] at committed
  obtain ⟨lifecycle, current, _, ⟨row, found, _, readable, rfl⟩, binding, resolved, _, execution, occupied, catalogValid,
    _, ⟨_, rfl⟩, _, ⟨catalogBounded, rfl⟩, _, ⟨graphBounded, rfl⟩, _, ⟨_, _, nodeRuns, attempted, rfl⟩,
    definition, defined, policy, captured, _, ⟨plans, planned, rfl⟩, committed⟩ := committed
  have serving : expected.isSome = true → db.daemon.lifecycle = .ready := by
    intro attended
    simpa [attended] using lifecycle
  have attended : (expected.isSome && binding.launchIdentity.account.isSome) = true → expected.isSome = true :=
    fun staged => (Bool.and_eq_true_iff.mp staged).1
  have hasAccount : (expected.isSome && binding.launchIdentity.account.isSome) = true →
      binding.launchIdentity.account.isSome = true := fun staged => (Bool.and_eq_true_iff.mp staged).2
  let begun : Beginning db now ids id command :=
    ⟨expected.isSome && binding.launchIdentity.account.isSome, binding, row, execution, definition, policy, nodeRuns,
      plans, found, readable, resolved, hasAccount, occupied, catalogValid, catalogBounded, graphBounded, attempted,
      defined, captured, planned⟩
  split at committed
  · rename_i staged
    simp only [bind_ok, pure_ok, Prod.mk.injEq] at committed
    obtain ⟨middle, stagedNow, rfl, _⟩ := committed
    refine ⟨begun, middle, _, serving, attended, current, ?_, rfl⟩
    rw [if_pos (show begun.staged = true from staged)]
    exact stagedNow
  · rename_i unstaged
    simp only [bind_ok, pure_ok, Prod.mk.injEq, Except.ok.injEq, exists_eq_left'] at committed
    refine ⟨begun, begun.database, _, serving, attended, current, ?_, committed.1.symm⟩
    rw [if_neg (show ¬begun.staged = true from unstaged)]

end Begin

section Finish

/-- The ledger of outputs with the row of a run's output, if it has one. -/
def LeavesOutput (db : Database) (now : Nat) (id : GraphRunId) (outputs : Table OutputRow.runId) :
    Option GraphNodeOutput → Prop
  | some output =>
    db.outputs.insert ⟨id, output.nodeId, output.runId, output.contentHash, output.markdown, timestamp now⟩ =
      some outputs
  | none => outputs = db.outputs

/-- A run that ends: its documents, checked together before they are written. -/
structure Finishing (db : Database) (now : Nat) (costId : CostRecordId) (id : GraphRunId)
    (command : FinishGraphNodeRunCommand) where
  row : GraphRow
  run : Run
  session : Session
  state : GraphNodeState
  finished : Finished
  origin : Attribution
  outputs : Table OutputRow.runId
  found : db.graphs.find? id = some row
  readable : Readable db
  bound : (row.execution.node? command.nodeId).bind (·.runId) = some command.runId
  latest : (db.latestAttempt id command.nodeId).map (·.runId) = some command.runId
  runFound : db.identity.content.run? command.runId = some run
  active : run.state.isActive = true
  sessionFound : db.identity.content.session? run.sessionId = some session
  terminal : graphState command.terminalState = .ok state
  outputMade : finishedOutput command state = .ok finished.output
  graphMade : finishedGraph row.execution command state finished.failure finished.output = .ok finished.execution
  catalogMade : finishedCatalog db.identity.content now run session command.terminalState command.providerSessionId =
    .ok finished.identity
  m3Made : finished.m3 = addCost db.m3.content (costRecord now costId command session.projectId origin)
  catalogValid : finished.identity.validate = .ok ()
  consistent : M3State.validate
    ⟨finished.m3, Lookup.modifyFirst (·.id) id (fun _ => finished.execution) (storedExecutions db)⟩
    finished.identity = .ok ()
  catalogBounded : db.identity.revision + 1 < sqlLimit
  m3Bounded : db.m3.revision + 1 < sqlLimit
  graphBounded : finished.execution.revision < sqlLimit
  recorded : LeavesOutput db now id outputs finished.output

namespace Finishing

variable {now : Nat} {costId : CostRecordId} {id : GraphRunId} {command : FinishGraphNodeRunCommand}

/-- The database after the run. -/
def database (self : Finishing db now costId id command) (events : List String) : Database :=
  { db with
    identity := ⟨db.identity.revision + 1, self.finished.identity⟩
    m3 := ⟨db.m3.revision + 1, self.finished.m3⟩
    graphs := db.graphs.update id (GraphRow.store self.finished.execution (timestamp now)) GraphRow.store_executionId
    nodeRuns := db.nodeRuns.update command.runId
      (NodeRunRow.finish (timestamp now) command.terminalState self.finished.failure) NodeRunRow.finish_runId
    outputs := self.outputs
    events }

end Finishing

omit [Sha256] [SerdeJson] in
theorem insertOutputRow_ok {now : Nat} {id : GraphRunId} {output : Option GraphNodeOutput}
    (done : insertOutputRow db now id output = .ok after) :
    ∃ outputs, after = { db with outputs } ∧ LeavesOutput db now id outputs output := by
  cases output with
  | none => exact ⟨_, (pure_ok.mp done).symm, rfl⟩
  | some output =>
    simp only [insertOutputRow, insertOutput_ok] at done
    obtain ⟨_, _, outputs, inserted, rfl⟩ := done
    exact ⟨outputs, rfl, inserted⟩

omit [Sha256] [SerdeJson] in
theorem writeFinished_ok {now : Nat} {id : GraphRunId} {command : FinishGraphNodeRunCommand} {finished : Finished}
    (done : writeFinished db now id command finished = .ok after) :
    db.identity.revision + 1 < sqlLimit ∧ db.m3.revision + 1 < sqlLimit ∧ finished.execution.revision < sqlLimit ∧
      ∃ outputs events, LeavesOutput db now id outputs finished.output ∧ after = { db with
        identity := ⟨db.identity.revision + 1, finished.identity⟩
        m3 := ⟨db.m3.revision + 1, finished.m3⟩
        graphs := db.graphs.update id (GraphRow.store finished.execution (timestamp now)) GraphRow.store_executionId
        nodeRuns := db.nodeRuns.update command.runId
          (NodeRunRow.finish (timestamp now) command.terminalState finished.failure) NodeRunRow.finish_runId
        outputs
        events } := by
  simp only [writeFinished, bind_ok, exists_unit, nextRevision_ok, writeIdentity_ok, writeM3_ok, updateGraph_ok,
    reject_ok, pure_ok] at done
  obtain ⟨_, ⟨_, rfl⟩, _, ⟨_, rfl⟩, _, ⟨catalogBounded, rfl⟩, _, ⟨m3Bounded, rfl⟩, _, ⟨graphBounded, rfl⟩, _, _,
    outputsWritten, rfl⟩ := done
  obtain ⟨outputs, rfl, recorded⟩ := insertOutputRow_ok outputsWritten
  exact ⟨catalogBounded, m3Bounded, graphBounded, outputs, _, recorded, rfl⟩

omit [SerdeJson] in
theorem finishDocuments_ok {now : Nat} {costId : CostRecordId} {execution : GraphExecution}
    {command : FinishGraphNodeRunCommand} {run : Run} {session : Session} {origin : Attribution}
    {finished : Finished} (done : finishDocuments db now costId execution command run session origin = .ok finished) :
    ∃ state, graphState command.terminalState = .ok state ∧ finishedOutput command state = .ok finished.output ∧
      finishedGraph execution command state finished.failure finished.output = .ok finished.execution ∧
      finishedCatalog db.identity.content now run session command.terminalState command.providerSessionId =
        .ok finished.identity ∧
      finished.m3 = addCost db.m3.content (costRecord now costId command session.projectId origin) := by
  simp only [finishDocuments, bind_ok, exists_unit, reject_ok, lift_ok, pure_ok] at done
  obtain ⟨state, terminal, output, outputMade, _, execution, graphMade, identity, catalogMade, rfl⟩ := done
  exact ⟨state, terminal, outputMade, graphMade, catalogMade, rfl⟩

omit [SerdeJson] in
theorem finishGraphNodeRun_ok {now : Nat} {costId : CostRecordId} {id : GraphRunId}
    {submitted : FinishGraphNodeRunCommand} {receipt : FinishGraphNodeRunReceipt}
    (committed : finishGraphNodeRun db now costId id submitted = .ok (after, receipt)) :
    ∃ command, (command = submitted ∨ command = distrust submitted) ∧
      ∃ (finishing : Finishing db now costId id command) (events : List String),
        after = finishing.database events := by
  simp only [finishGraphNodeRun, bind_ok, exists_unit, expectRevision_ok, loadGraph_ok, Prod.exists, lift_ok,
    loadGraphExecutions_ok, validateM3State, pure_ok, Prod.mk.injEq] at committed
  obtain ⟨_, _, _, ⟨row, found, _, _, rfl⟩, run, session, located, selected, malformed, _, finished, made,
    catalogValid, _, ⟨readable, rfl⟩, _, replaced, consistent, middle, written, rfl, _⟩ := committed
  obtain ⟨_, rfl⟩ := replaceExecution_ok replaced
  generalize chosen : (if malformed = true then distrust submitted else submitted) = command at made written
  have same : command = submitted ∨ command = distrust submitted := by
    rw [← chosen]
    split <;> simp
  have names : command.nodeId = submitted.nodeId ∧ command.runId = submitted.runId := by
    rcases same with rfl | rfl <;> exact ⟨rfl, rfl⟩
  simp only [finishingRun, isLatestAttempt, bind_ok, exists_unit, reject_ok, required_ok, pure_ok, Prod.mk.injEq,
    decide_eq_false_iff_not, not_not, Bool.not_eq_eq_eq_not, Bool.not_false, decide_eq_true_eq] at located
  obtain ⟨bound, latest, _, runFound, active, _, sessionFound, rfl, rfl⟩ := located
  obtain ⟨state, terminal, outputMade, graphMade, catalogMade, m3Made⟩ := finishDocuments_ok made
  obtain ⟨catalogBounded, m3Bounded, graphBounded, outputs, _, recorded, rfl⟩ := writeFinished_ok written
  rw [← names.1, ← names.2] at bound latest
  rw [← names.2] at runFound
  exact ⟨command, same, ⟨row, _, _, state, finished, _, outputs, found, readable, bound, latest, runFound,
    active, sessionFound, terminal, outputMade, graphMade, catalogMade, m3Made, catalogValid, consistent, catalogBounded,
    m3Bounded, graphBounded, recorded⟩, _, rfl⟩

end Finish

end Bastet.Daemon
