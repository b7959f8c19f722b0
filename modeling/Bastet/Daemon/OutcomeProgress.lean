import Bastet.Daemon.OutcomeDocuments
import Bastet.Daemon.Shutdown

/-! Which outcomes of a provider the store records. `persist_outcome` reads the revisions and submits its command;
a run whose outcome the store refuses stays at work. -/

set_option autoImplicit false

namespace Bastet.Daemon

open Fallible Bastet.Core Lookup

section Recording

variable [Sha256] {db : Database} {receipt : BeginGraphNodeRunReceipt} {row : GraphRow} {run : Run}
  {session : Session} {outcome : ProviderOutcome} {now : Nat} {costId : CostRecordId} {id : GraphRunId}

omit [Sha256] in
/-- The run of a receipt is the current attempt at its node, and both are at work. -/
structure Unfinished (db : Database) (receipt : BeginGraphNodeRunReceipt) (row : GraphRow) (run : Run) : Prop where
  found : db.graphs.find? receipt.executionId = some row
  node : ∃ node, row.execution.node? receipt.nodeId = some node ∧ node.state = .running ∧
    node.owner = some (providerOwner receipt.nodeId) ∧ node.runId = some receipt.runId
  latest : (db.latestAttempt receipt.executionId receipt.nodeId).map (·.runId) = some receipt.runId
  runFound : db.identity.content.run? receipt.runId = some run
  working : run.state = .starting ∨ run.state = .running

/-- The output that a run leaves with an outcome. -/
def ProviderOutcome.leaves (receipt : BeginGraphNodeRunReceipt) (self : ProviderOutcome) : Option GraphNodeOutput :=
  self.outputMarkdown.map fun markdown => ⟨receipt.nodeId, receipt.runId, outputHash markdown, markdown⟩

/-- The store is consistent, and has room for what it is told of a run. -/
structure Placeable (db : Database) (receipt : BeginGraphNodeRunReceipt) (row : GraphRow) (run : Run)
    (session : Session) (told : ProviderOutcome) : Prop where
  sessionFound : db.identity.content.session? run.sessionId = some session
  readable : Readable db
  /-- The stored documents are consistent, counting the output that the run leaves. -/
  consistent : M3State.validate ⟨db.m3.content, promised db receipt.executionId (told.leaves receipt)⟩
    db.identity.content = .ok ()
  unused : told.outputMarkdown.isSome = true → db.outputs.find? receipt.runId = none
  catalogRoom : db.identity.revision + 1 < sqlLimit
  m3Room : db.m3.revision + 1 < sqlLimit
  graphRoom : row.execution.revision + 1 < sqlLimit
  runRoom : run.metadata.revision + 1 < 2 ^ 64
  sessionRoom : told.providerSessionId.isSome = true → session.metadata.revision + 1 < 2 ^ 64

/-- The store takes an outcome. -/
structure Recordable (db : Database) (receipt : BeginGraphNodeRunReceipt) (row : GraphRow) (run : Run)
    (session : Session) (outcome : ProviderOutcome) : Prop
    extends Placeable db receipt row run session (outcome.told (selectionDistrusted db session run)) where
  recordable : (outcome.told (selectionDistrusted db session run)).recordable = true

omit [Sha256] in
/-- The command that records an outcome against the stored revisions. -/
def currentFinish (db : Database) (receipt : BeginGraphNodeRunReceipt) (row : GraphRow) (outcome : ProviderOutcome) :
    FinishGraphNodeRunCommand :=
  finishCommand receipt outcome db.identity.revision db.m3.revision row.execution.revision

/-- A promised output is of a run that has left none. -/
theorem fresh_of_promised {output : GraphNodeOutput} (sound : SoundGraphs db) (found : db.graphs.find? id = some row)
    (consistent : M3State.validate ⟨db.m3.content, promised db id (some output)⟩ db.identity.content = .ok ()) :
    ∀ existing ∈ row.execution.outputs, existing.runId ≠ output.runId := by
  have named : row.execution.id = id := (sound id row found).id.symm.trans (Table.find?_key found)
  have listed : promise (some output) row.execution ∈ promised db id (some output) := by
    rw [promised, modifyFirst_eq_map sound.ids]
    exact List.mem_map.mpr ⟨row.execution, mem_storedExecutions.mpr ⟨row, Table.mem_of_find? found, rfl⟩, if_pos named⟩
  simp only [M3State.validate, bind_ok, exists_unit, mapError_ok, forEach_ok, M3State.validateExecution] at consistent
  have valid := GraphExecution.validate_iff.mp (consistent.2.2.2.2.2.1 _ listed).1
  intro existing member same
  have distinct : ((row.execution.outputs ++ [output]).map (·.runId)).Nodup := valid.runs
  rw [List.map_append, List.nodup_append] at distinct
  exact distinct.2.2 _ (List.mem_map_of_mem member) _ (List.mem_singleton_self _) same

omit [Sha256] in
/-- A new output of a recorded attempt has its row. -/
theorem insertOutputRow_succeeds {output : Option GraphNodeOutput}
    (recorded : ∀ left, output = some left → outputFits left.markdown = true ∧
      db.nodeRuns.find? left.runId ≠ none ∧ db.outputs.find? left.runId = none) :
    ∃ after, insertOutputRow db now id output = .ok after := by
  cases output with
  | none => exact ⟨db, rfl⟩
  | some left =>
    obtain ⟨fits, attempted, free⟩ := recorded left rfl
    simp only [outputFits, Bool.not_eq_true', Bool.or_eq_false_iff, decide_eq_false_iff_not, not_lt] at fits
    obtain ⟨spoken, short⟩ := fits
    have filled : byteLength left.markdown ≠ 0 := by
      intro none
      rw [String.utf8ByteSize_eq_zero_iff.mp none] at spoken
      cases spoken
    have fresh : db.outputs.find? (OutputRow.runId ⟨id, left.nodeId, left.runId, left.contentHash, left.markdown,
      timestamp now⟩) = none := free
    obtain ⟨outputs, inserted⟩ := Table.insert_of_fresh fresh
    exact ⟨_, insertOutput_ok.mpr ⟨⟨filled, short⟩, attempted, outputs, inserted, rfl⟩⟩

omit [Sha256] in
/-- The writes of a finish command need room, and a ledger without an output of the run. -/
theorem writeFinished_succeeds {command : FinishGraphNodeRunCommand} {finished : Finished} {attempt : NodeRunRow}
    (catalogRoom : db.identity.revision + 1 < sqlLimit) (m3Room : db.m3.revision + 1 < sqlLimit)
    (graphRoom : finished.execution.revision < sqlLimit) (attempted : db.nodeRuns.find? command.runId = some attempt)
    (unused : ∀ output, finished.output = some output → output.runId = command.runId ∧
      outputFits output.markdown = true ∧ db.outputs.find? output.runId = none) :
    ∃ after, writeFinished db now id command finished = .ok after := by
  have counted : ∀ {revision : Nat}, revision + 1 < sqlLimit → revision + 1 < 2 ^ 64 := by
    intro revision room
    unfold sqlLimit at room
    omega
  have present : (db.nodeRuns.find? command.runId).isNone = false := by
    rw [attempted]
    rfl
  obtain ⟨after, inserted⟩ : ∃ after, insertOutputRow { db with
      identity := ⟨db.identity.revision + 1, finished.identity⟩
      m3 := ⟨db.m3.revision + 1, finished.m3⟩
      graphs := db.graphs.update id (GraphRow.store finished.execution (timestamp now)) GraphRow.store_executionId
      nodeRuns := db.nodeRuns.update command.runId
        (NodeRunRow.finish (timestamp now) command.terminalState finished.failure) NodeRunRow.finish_runId }
      now id finished.output = .ok after := by
    refine insertOutputRow_succeeds fun output left => ?_
    obtain ⟨same, fits, free⟩ := unused output left
    refine ⟨fits, ?_, free⟩
    dsimp only
    rw [Table.find?_update, if_pos same, same, attempted]
    exact Option.some_ne_none _
  simp only [writeFinished, bind_ok, exists_unit, nextRevision_ok, writeIdentity_ok, writeM3_ok, updateGraph_ok,
    reject_ok, pure_ok]
  exact ⟨_, _, ⟨counted catalogRoom, rfl⟩, _, ⟨counted m3Room, rfl⟩, _, ⟨catalogRoom, rfl⟩, _, ⟨m3Room, rfl⟩, _,
    ⟨graphRoom, rfl⟩, present, after, inserted, rfl⟩

omit [Sha256] in
/-- A selection that is not trusted replaces what the command was told. -/
theorem told_command {malformed : Bool} {catalog m3 graph : Nat} :
    (if malformed then distrust (finishCommand receipt outcome.withoutStrayOutput catalog m3 graph)
      else finishCommand receipt outcome.withoutStrayOutput catalog m3 graph) =
      finishCommand receipt (outcome.told malformed) catalog m3 graph := by
  cases malformed <;> rfl

/-- What a cost record of the run names is stored. -/
theorem Unfinished.placed (unfinished : Unfinished db receipt row run) (sound : SoundGraphs db)
    (checked : db.identity.content.validate = .ok ())
    (sessionFound : db.identity.content.session? run.sessionId = some session) {command : FinishGraphNodeRunCommand}
    (node : command.nodeId = receipt.nodeId) (ran : command.runId = receipt.runId) (origin : Attribution)
    (output : Option GraphNodeOutput) :
    CostPlaced db.identity.content (promised db receipt.executionId output)
      (costRecord now costId command session.projectId origin) where
  project := by
    simp only [IdentityCatalog.validate, bind_ok, exists_unit, forEach_ok, IdentityCatalog.validateSession, require,
      rejectIf_ok, Bool.not_eq_false', List.any_eq_true, decide_eq_true_eq] at checked
    obtain ⟨_, _, _, _, _, _, _, _, _, _, _, _, _, _, sessions, _⟩ := checked
    obtain ⟨project, known, same⟩ := (sessions session (find_some sessionFound).1).2
    exact List.mem_map.mpr ⟨project, known, same⟩
  run := by
    obtain ⟨member, same⟩ := find_some unfinished.runFound
    exact List.mem_map.mpr ⟨run, member, same.trans ran.symm⟩
  node := by
    obtain ⟨_, located, _⟩ := unfinished.node
    obtain ⟨member, same⟩ := find_some located
    have aligned := (sound _ _ unfinished.found).valid.aligned
    have defined := (aligned.same receipt.nodeId).mp (List.mem_map.mpr ⟨_, member, same⟩)
    have named : row.execution.id = receipt.executionId :=
      (sound _ _ unfinished.found).id.symm.trans (Table.find?_key unfinished.found)
    have listed : promise output row.execution ∈ promised db receipt.executionId output := by
      rw [promised, modifyFirst_eq_map sound.ids]
      exact List.mem_map.mpr ⟨row.execution,
        mem_storedExecutions.mpr ⟨row, Table.mem_of_find? unfinished.found, rfl⟩, if_pos named⟩
    refine List.mem_flatMap.mpr ⟨_, listed, ?_⟩
    show command.nodeId ∈ _
    rw [node]
    exact defined

omit [Sha256] in
theorem Unfinished.attempted (unfinished : Unfinished db receipt row run) :
    ∃ attempt, db.nodeRuns.find? receipt.runId = some attempt := by
  obtain ⟨found, inside, same⟩ := Option.map_eq_some_iff.mp unfinished.latest
  have member : found ∈ db.nodeRuns.rows := (List.mem_filter.mp (List.mem_of_find?_eq_some inside)).1
  exact ⟨found, same ▸ Table.find?_mem member⟩

theorem GraphRow.Sound.bumped (sound : row.Sound) : bump row.execution.revision = row.execution.revision + 1 := by
  have bounded := sound.revision ▸ sound.bounded
  unfold sqlLimit at bounded
  exact Nat.mod_eq_of_lt (by omega)

/-- A command that commits records an outcome that can be recorded. -/
theorem Unfinished.recordable (unfinished : Unfinished db receipt row run) (sound : SoundGraphs db)
    (checked : db.identity.content.validate = .ok ()) (terminal : outcome.terminalState.isTerminal = true)
    {result : Database × FinishGraphNodeRunReceipt}
    (committed : finishGraphNodeRun db now costId receipt.executionId
      (currentFinish db receipt row outcome.withoutStrayOutput) = .ok result) :
    ∃ session, Recordable db receipt row run session outcome := by
  obtain ⟨after, answer⟩ := result
  have stored := sound _ _ unfinished.found
  simp only [currentFinish, finishGraphNodeRun, bind_ok, exists_unit, expectRevision_ok, loadGraph_ok, Prod.exists,
    lift_ok, loadGraphExecutions_ok, validateM3State, pure_ok, Prod.mk.injEq] at committed
  obtain ⟨_, _, _, ⟨_, found, _, _, rfl⟩, _, _, current, selected, malformed, trusted, finished, made,
    catalogValid, _, ⟨readable, rfl⟩, _, replaced, consistent, middle, written, rfl, _⟩ := committed
  obtain rfl := Option.some.inj (unfinished.found.symm.trans found)
  obtain ⟨_, rfl⟩ := replaceExecution_ok replaced
  simp only [finishingRun, bind_ok, exists_unit, required_ok, pure_ok, Prod.mk.injEq] at current
  obtain ⟨_, _, _, runFound, _, session, sessionFound, rfl, rfl⟩ := current
  obtain rfl := Option.some.inj (unfinished.runFound.symm.trans runFound)
  obtain rfl : selectionDistrusted db session run = malformed := by rw [selectionDistrusted, trusted]
  rw [told_command] at made written
  have works : (currentFinish db receipt row (outcome.told (selectionDistrusted db session run))).WorksOn row.execution :=
    unfinished.node
  have accepted := (finishDocuments_iff works (ProviderOutcome.told_terminal terminal)
    ProviderOutcome.told_strayless).mp ⟨finished, made⟩
  obtain ⟨state, _, outputMade, graphMade, catalogMade, m3Made⟩ := finishDocuments_ok made
  obtain ⟨_, _, left⟩ := finishedOutput_iff.mp outputMade
  obtain ⟨cited, revision⟩ := finishedGraph_cited stored.valid.aligned.distinct graphMade
  obtain ⟨kept, ids⟩ := finishedCatalog_kept catalogMade
  have valid := ((finishedGraph_written graphMade).kept stored.valid).2.1
  obtain ⟨catalogRoom, m3Room, graphRoom, outputs, _, recorded, _⟩ := writeFinished_ok written
  have placed : CostPlaced db.identity.content (promised db receipt.executionId finished.output)
      (costRecord now costId (currentFinish db receipt row (outcome.told (selectionDistrusted db session run)))
        session.projectId (attribution selected (selectionDistrusted db session run))) :=
    unfinished.placed sound checked sessionFound rfl rfl _ _
  rw [m3Made] at consistent
  generalize finished.identity = next at kept ids catalogValid consistent
  rw [kept] at consistent catalogValid
  obtain ⟨consistent, cost⟩ :=
    (validate_finished sound unfinished.found cited valid checked catalogValid ids placed).mp consistent
  rw [costRecord_invalid (trustedSelection_named trusted), Bool.not_eq_false'] at cost
  have unused : (outcome.told (selectionDistrusted db session run)).outputMarkdown.isSome = true →
      db.outputs.find? receipt.runId = none := by
    intro spoken
    obtain ⟨markdown, spoken⟩ := Option.isSome_iff_exists.mp spoken
    have left : finished.output = some ⟨receipt.nodeId, receipt.runId, outputHash markdown, markdown⟩ :=
      left.trans (congrArg (Option.map _) spoken)
    rw [left] at recorded
    exact Table.insert_fresh recorded
  have sessionRoom : (outcome.told (selectionDistrusted db session run)).providerSessionId.isSome = true →
      session.metadata.revision + 1 < 2 ^ 64 := by
    intro named
    obtain ⟨spoken, named⟩ := Option.isSome_iff_exists.mp named
    exact (accepted.named spoken named).2
  rw [left] at consistent
  exact ⟨session, ⟨sessionFound, readable, consistent, unused, catalogRoom, m3Room,
    stored.bumped ▸ revision ▸ graphRoom, accepted.runRoom, sessionRoom⟩, ProviderOutcome.recordable_iff.mpr
    ⟨accepted.fits, accepted.success, fun spoken named => (accepted.named spoken named).1, cost⟩⟩

/-- The documents of a recordable outcome are made, and written. -/
theorem Unfinished.finish_commits (unfinished : Unfinished db receipt row run) (sound : SoundGraphs db)
    (checked : db.identity.content.validate = .ok ()) (started : run.startedAt.isSome = true)
    (terminal : outcome.terminalState.isTerminal = true)
    (recordable : Recordable db receipt row run session outcome) :
    ∃ result, finishGraphNodeRun db now costId receipt.executionId
      (currentFinish db receipt row outcome.withoutStrayOutput) = .ok result := by
  have stored := sound _ _ unfinished.found
  have named : run.metadata.id = receipt.runId := (find_some unfinished.runFound).2
  have located : db.identity.content.run? run.metadata.id = some run := named ▸ unfinished.runFound
  obtain ⟨attempt, attempted⟩ := unfinished.attempted
  obtain ⟨fits, success, spoken, cost⟩ := ProviderOutcome.recordable_iff.mp recordable.recordable
  obtain ⟨selected, trusted⟩ : ∃ selected, trustedSelection db session run =
      .ok (selected, selectionDistrusted db session run) := trustedSelection_total (named ▸ attempted)
  have works : (currentFinish db receipt row (outcome.told (selectionDistrusted db session run))).WorksOn row.execution :=
    unfinished.node
  have fresh : (outcome.told (selectionDistrusted db session run)).outputMarkdown.isSome = true →
      ∀ existing ∈ row.execution.outputs, existing.runId ≠ receipt.runId := by
    intro left
    obtain ⟨markdown, left⟩ := Option.isSome_iff_exists.mp left
    have consistent := recordable.consistent
    rw [ProviderOutcome.leaves, left] at consistent
    exact fresh_of_promised sound unfinished.found consistent
  have accepted : Acceptable row.execution run session
      (currentFinish db receipt row (outcome.told (selectionDistrusted db session run))) :=
    ⟨fits, success, fresh, recordable.runRoom, fun name named =>
      ⟨spoken name named, recordable.sessionRoom (Option.isSome_iff_exists.mpr ⟨name, named⟩)⟩⟩
  obtain ⟨finished, made⟩ : ∃ finished, finishDocuments db now costId row.execution
      (currentFinish db receipt row (outcome.told (selectionDistrusted db session run))) run session
      (attribution selected (selectionDistrusted db session run)) = .ok finished :=
    (finishDocuments_iff works (ProviderOutcome.told_terminal terminal) ProviderOutcome.told_strayless).mpr accepted
  obtain ⟨state, _, outputMade, graphMade, catalogMade, m3Made⟩ := finishDocuments_ok made
  obtain ⟨_, _, left⟩ := finishedOutput_iff.mp outputMade
  obtain ⟨cited, revision⟩ := finishedGraph_cited stored.valid.aligned.distinct graphMade
  obtain ⟨kept, ids⟩ := finishedCatalog_kept catalogMade
  have catalogValid := finishedCatalog_valid catalogMade checked located started
  have valid := ((finishedGraph_written graphMade).kept stored.valid).2.1
  have promisedOutput : finished.output = (outcome.told (selectionDistrusted db session run)).leaves receipt := left
  have placed : CostPlaced db.identity.content (promised db receipt.executionId finished.output)
      (costRecord now costId (currentFinish db receipt row (outcome.told (selectionDistrusted db session run)))
        session.projectId (attribution selected (selectionDistrusted db session run))) :=
    unfinished.placed sound checked recordable.sessionFound rfl rfl _ _
  have consistent : M3State.validate ⟨finished.m3, modifyFirst (·.id) receipt.executionId
      (fun _ => finished.execution) (storedExecutions db)⟩ finished.identity = .ok () := by
    have nextValid := catalogValid
    generalize finished.identity = next at kept ids nextValid ⊢
    rw [m3Made]
    rw [kept] at nextValid ⊢
    refine (validate_finished sound unfinished.found cited valid checked nextValid ids placed).mpr ⟨?_, ?_⟩
    · rw [promisedOutput]
      exact recordable.consistent
    · rw [costRecord_invalid (trustedSelection_named trusted), Bool.not_eq_false']
      exact cost
  obtain ⟨after, written⟩ : ∃ after, writeFinished db now receipt.executionId
      (currentFinish db receipt row (outcome.told (selectionDistrusted db session run))) finished = .ok after := by
    have graphRoom : finished.execution.revision < sqlLimit := by
      rw [revision, stored.bumped]
      exact recordable.graphRoom
    refine writeFinished_succeeds recordable.catalogRoom recordable.m3Room graphRoom attempted fun output made => ?_
    obtain ⟨markdown, spoken, rfl⟩ := Option.map_eq_some_iff.mp (promisedOutput.symm.trans made)
    have fits : outputFits markdown = true := by
      rw [spoken, Option.all_some] at fits
      exact fits
    exact ⟨rfl, fits, recordable.unused (Option.isSome_iff_exists.mpr ⟨markdown, spoken⟩)⟩
  have listed : row.execution ∈ storedExecutions db :=
    mem_storedExecutions.mpr ⟨row, Table.mem_of_find? unfinished.found, rfl⟩
  have active : run.state.isActive = true := by
    rcases unfinished.working with state | state <;> rw [state] <;> rfl
  have bound : (row.execution.node? receipt.nodeId).bind (·.runId) = some receipt.runId := by
    obtain ⟨_, found, _, _, bound⟩ := unfinished.node
    exact Option.bind_eq_some_iff.mpr ⟨_, found, bound⟩
  have current : finishingRun db receipt.executionId row.execution
      (currentFinish db receipt row outcome.withoutStrayOutput) = .ok (run, session) := by
    simp only [finishingRun, isLatestAttempt, bind_ok, exists_unit, reject_ok, required_ok, pure_ok, Prod.mk.injEq,
      decide_eq_false_iff_not, not_not, Bool.not_eq_false', decide_eq_true_eq]
    exact ⟨bound, unfinished.latest, run, unfinished.runFound, active, session, recordable.sessionFound, rfl, rfl⟩
  have replaced : replaceExecution (storedExecutions db) receipt.executionId finished.execution =
      .ok (modifyFirst (·.id) receipt.executionId (fun _ => finished.execution) (storedExecutions db)) := by
    have same : row.execution.id = receipt.executionId := stored.id.symm.trans (Table.find?_key unfinished.found)
    have inside : receipt.executionId ∈ (storedExecutions db).map (·.id) := List.mem_map.mpr ⟨_, listed, same⟩
    obtain ⟨old, found⟩ := exists_of_mem_keys inside
    exact bind_ok.mpr ⟨old, required_ok.mpr found, rfl⟩
  have readable := recordable.readable row.execution listed
  simp only [finishGraphNodeRun, bind_ok, exists_unit, expectRevision_ok, loadGraph_ok, Prod.exists, lift_ok,
    loadGraphExecutions_ok, validateM3State, pure_ok]
  exact ⟨_, _, rfl, rfl, row.execution, ⟨row, unfinished.found, stored.revision, readable, rfl⟩, run, session, current,
    selected, _, trusted, finished, by rw [currentFinish, told_command]; exact made, catalogValid, _,
    ⟨recordable.readable, rfl⟩, _, replaced, consistent, after, by rw [currentFinish, told_command]; exact written, rfl⟩

end Recording

section Persisting

variable [Sha256] [SerdeJson] {process : DaemonProcess} {receipt : BeginGraphNodeRunReceipt} {row : GraphRow}
  {run : Run} {session : Session} {outcome : ProviderOutcome} {draws : Nat → Nat × CostRecordId}

/-- What `persist_outcome` does with its next access to the store. -/
def persistNext (receipt : BeginGraphNodeRunReceipt) (outcome : ProviderOutcome) (draw : Nat × CostRecordId) :
    DaemonProcess × Option PersistStage → DaemonProcess × Option PersistStage
  | (process, some stage) => persistStep process receipt outcome draw.1 draw.2 stage
  | (process, none) => (process, none)

/-- `persist_outcome` after a number of accesses to a store that nothing else works on. The times and the ids of the
cost records are drawn as given. -/
def persistOutcome (process : DaemonProcess) (receipt : BeginGraphNodeRunReceipt) (outcome : ProviderOutcome)
    (draws : Nat → Nat × CostRecordId) : Nat → DaemonProcess × Option PersistStage
  | 0 => (process, some .catalog)
  | accesses + 1 => persistNext receipt outcome (draws accesses) (persistOutcome process receipt outcome draws accesses)

omit [Sha256] [SerdeJson] in
/-- The run of a receipt and its node have ended. -/
structure RunEnded (db : Database) (receipt : BeginGraphNodeRunReceipt) : Prop where
  run : ∃ run, db.identity.content.run? receipt.runId = some run ∧ run.state.isTerminal = true
  node : ∃ row node, db.graphs.find? receipt.executionId = some row ∧
    row.execution.node? receipt.nodeId = some node ∧ node.state.isTerminal = true

/-- `persist_outcome` returns, and the run has ended with its node. -/
def Persists (process : DaemonProcess) (receipt : BeginGraphNodeRunReceipt) (outcome : ProviderOutcome)
    (draws : Nat → Nat × CostRecordId) : Prop :=
  ∃ accesses, (persistOutcome process receipt outcome draws accesses).2 = none ∧
    RunEnded (persistOutcome process receipt outcome draws accesses).1.db receipt

omit [SerdeJson] in
/-- What has been read before a stage. -/
def StageFollows (db : Database) (receipt : BeginGraphNodeRunReceipt) : PersistStage → Prop
  | .catalog => True
  | .m3 catalog => catalogRevision db = .ok catalog
  | .graph catalog m3 => catalogRevision db = .ok catalog ∧ m3Revision db = .ok m3
  | .finish catalog m3 graph => (catalogRevision db = .ok catalog ∧ m3Revision db = .ok m3) ∧
    (graphExecution db receipt.executionId).map (·.revision) = .ok graph

omit [Sha256] [SerdeJson] in
theorem afterRead_some {proceed : Nat → PersistStage} {result : StoreResult Nat} {stage : PersistStage}
    (after : afterRead proceed result = some stage) : stage = .catalog ∨ ∃ revision, result = .ok revision ∧
      stage = proceed revision := by
  unfold afterRead at after
  split at after
  · exact .inr ⟨_, rfl, (Option.some.inj after).symm⟩
  · exact .inl (Option.some.inj after).symm
  · exact .inl (Option.some.inj after).symm
  · cases after

omit [Sha256] [SerdeJson] in
theorem afterFinish_some {α : Type} {result : StoreResult α} {stage : PersistStage}
    (after : afterFinish result = some stage) : stage = .catalog := by
  unfold afterFinish at after
  split at after
  · exact (Option.some.inj after).symm
  · exact (Option.some.inj after).symm
  · exact (Option.some.inj after).symm
  · cases after

omit [Sha256] [SerdeJson] in
theorem DaemonProcess.read_ok {α : Type} {query : Database → StoreResult α} {value : α}
    (done : process.read query = .ok value) : query process.db = .ok value := by
  unfold DaemonProcess.read at done
  split at done
  · exact done
  · cases done

theorem next_idle (idle : process.service ≠ .serving) (command : Command) : process.next (.command command) = process := by
  simp only [DaemonProcess.next, DaemonProcess.commit]
  split
  · exact absurd ‹_› idle
  · exact absurd ‹_› idle
  · rfl

/-- A finish command changes the database when the daemon serves and the command commits, and only then. -/
theorem next_finish (process : DaemonProcess) (now : Nat) (costId : CostRecordId) (id : GraphRunId)
    (command : FinishGraphNodeRunCommand) :
    (∃ result, process.service = .serving ∧ finishGraphNodeRun process.db now costId id command = .ok result) ∨
    (process.next (.command (.finishGraphNodeRun now costId id command))).db = process.db ∧
      ((process.next (.command (.finishGraphNodeRun now costId id command))).service = .serving →
        process.service = .serving) := by
  by_cases serving : process.service = .serving
  · rcases DaemonProcess.commit_cases process (execute process.db (.finishGraphNodeRun now costId id command))
        (fun db => { process with
          db, created := process.created ++ (Command.finishGraphNodeRun now costId id command).creates.toList.filter
            (DaemonProcess.newExecution process.db db) }) with
      ⟨db, _, committed, _⟩ | ⟨_, same⟩
    · simp only [execute, bind_ok, pure_ok] at committed
      obtain ⟨result, committed, _⟩ := committed
      exact .inl ⟨result, serving, committed⟩
    · refine .inr ⟨?_, fun _ => serving⟩
      simp only [DaemonProcess.next]
      rw [same]
  · rw [next_idle serving]
    exact .inr ⟨rfl, fun again => again⟩

theorem next_finish_commits {now : Nat} {costId : CostRecordId} {id : GraphRunId}
    {command : FinishGraphNodeRunCommand} {result : Database × FinishGraphNodeRunReceipt}
    (serving : process.service = .serving)
    (committed : finishGraphNodeRun process.db now costId id command = .ok result) :
    (process.next (.command (.finishGraphNodeRun now costId id command))).db = result.1 := by
  have executed : execute process.db (.finishGraphNodeRun now costId id command) = .ok result.1 :=
    bind_ok.mpr ⟨result, committed, rfl⟩
  simp only [DaemonProcess.next, DaemonProcess.commit, serving, executed]

/-- Until it has committed, `persist_outcome` has only read. -/
theorem persistOutcome_reads (accesses : Nat) :
    ((persistOutcome process receipt outcome draws accesses).1.db = process.db ∧
      ((persistOutcome process receipt outcome draws accesses).1.service = .serving → process.service = .serving) ∧
      ∀ stage, (persistOutcome process receipt outcome draws accesses).2 = some stage →
        StageFollows process.db receipt stage) ∨
    ∃ now costId catalog m3 graph result, process.service = .serving ∧
      StageFollows process.db receipt (.finish catalog m3 graph) ∧
      finishGraphNodeRun process.db now costId receipt.executionId
        (finishCommand receipt outcome.withoutStrayOutput catalog m3 graph) = .ok result := by
  induction accesses with
  | zero =>
    refine .inl ⟨rfl, id, fun stage same => ?_⟩
    obtain rfl := Option.some.inj same
    trivial
  | succ accesses ih =>
    rcases ih with ⟨unchanged, serves, follows⟩ | committed
    · rw [persistOutcome]
      generalize persistOutcome process receipt outcome draws accesses = reached at *
      obtain ⟨before, stage⟩ := reached
      cases stage with
      | none => exact .inl ⟨unchanged, serves, fun _ none => by cases none⟩
      | some stage =>
        have follows := follows stage rfl
        cases stage with
        | catalog =>
          refine .inl ⟨unchanged, serves, fun next after => ?_⟩
          rcases afterRead_some after with rfl | ⟨revision, done, rfl⟩
          · trivial
          · exact unchanged ▸ DaemonProcess.read_ok done
        | m3 catalog =>
          refine .inl ⟨unchanged, serves, fun next after => ?_⟩
          rcases afterRead_some after with rfl | ⟨revision, done, rfl⟩
          · trivial
          · exact ⟨follows, unchanged ▸ DaemonProcess.read_ok done⟩
        | graph catalog m3 =>
          refine .inl ⟨unchanged, serves, fun next after => ?_⟩
          rcases afterRead_some after with rfl | ⟨revision, done, rfl⟩
          · trivial
          · exact ⟨follows, unchanged ▸ DaemonProcess.read_ok done⟩
        | finish catalog m3 graph =>
          rcases next_finish before (draws accesses).1 (draws accesses).2 receipt.executionId
            (finishCommand receipt outcome.withoutStrayOutput catalog m3 graph) with
            ⟨result, serving, done⟩ | ⟨same, later⟩
          · exact .inr ⟨_, _, catalog, m3, graph, result, serves serving, follows, unchanged ▸ done⟩
          · refine .inl ⟨same.trans unchanged, fun serving => serves (later serving), fun next after => ?_⟩
            rw [afterFinish_some after]
            trivial
    · exact .inr committed

omit [SerdeJson] in
/-- The command that commits ends the run and its node. -/
theorem finishGraphNodeRun_ends {db : Database} {now : Nat} {costId : CostRecordId} {catalog m3 graph : Nat}
    {result : Database × FinishGraphNodeRunReceipt}
    (committed : finishGraphNodeRun db now costId receipt.executionId (finishCommand receipt outcome catalog m3 graph) =
      .ok result) : RunEnded result.1 receipt := by
  obtain ⟨command, same, finishing, events, written⟩ := finishGraphNodeRun_ok committed
  have names : command.nodeId = receipt.nodeId ∧ command.runId = receipt.runId := by
    rcases same with rfl | rfl <;> exact ⟨rfl, rfl⟩
  obtain ⟨ended, concluded⟩ := graphState_ok finishing.terminal
  rw [written]
  constructor
  · obtain ⟨later, found, reached⟩ := finishing.verdict
    exact ⟨later, names.2 ▸ found, reached ▸ ended⟩
  · obtain ⟨node, found, reached⟩ := finishedGraph_node finishing.bound finishing.graphMade
    refine ⟨finishing.row.store finishing.finished.execution (timestamp now), node, ?_, names.1 ▸ found, reached ▸ concluded⟩
    show (db.graphs.update receipt.executionId _ GraphRow.store_executionId).find? receipt.executionId = _
    rw [Table.find?_update_self, finishing.found, Option.map_some]

/-- The accesses of `persist_outcome` follow each other, and the last one records an outcome that can be recorded. -/
theorem Unfinished.persists (serving : process.service = .serving) (unfinished : Unfinished process.db receipt row run)
    (sound : SoundGraphs process.db) (checked : process.db.identity.content.validate = .ok ())
    (started : run.startedAt.isSome = true) (terminal : outcome.terminalState.isTerminal = true)
    (recordable : Recordable process.db receipt row run session outcome) : Persists process receipt outcome draws := by
  obtain ⟨result, committed⟩ : ∃ result, finishGraphNodeRun process.db (draws 3).1 (draws 3).2 receipt.executionId
      (finishCommand receipt outcome.withoutStrayOutput process.db.identity.revision process.db.m3.revision
        row.execution.revision) = .ok result :=
    unfinished.finish_commits sound checked started terminal recordable
  have read : ∀ {α : Type} (query : Database → StoreResult α), process.read query = query process.db := by
    intro α query
    rw [DaemonProcess.read, if_pos serving]
  have catalog : catalogRevision process.db = .ok process.db.identity.revision := by
    simp only [catalogRevision, bind_ok, exists_unit, lift_ok, pure_ok, and_true]
    exact checked
  have m3 : m3Revision process.db = .ok process.db.m3.revision := by
    have valid := recordable.consistent
    simp only [M3State.validate, bind_ok, exists_unit, mapError_ok] at valid
    simp only [m3Revision, validateM3Catalog, bind_ok, exists_unit, lift_ok, pure_ok, and_true]
    exact ⟨valid.2.1, valid.2.2.1, valid.2.2.2.1⟩
  have graph : (graphExecution process.db receipt.executionId).map (·.revision) = .ok row.execution.revision := by
    have listed : row.execution ∈ storedExecutions process.db :=
      mem_storedExecutions.mpr ⟨row, Table.mem_of_find? unfinished.found, rfl⟩
    refine map_ok.mpr ⟨row.execution, ?_, rfl⟩
    simp only [graphExecution, bind_ok, exists_unit, required_ok, pure_ok]
    exact ⟨row, unfinished.found, recordable.readable _ listed, rfl⟩
  have reached : persistOutcome process receipt outcome draws 3 = (process, some (.finish process.db.identity.revision
      process.db.m3.revision row.execution.revision)) := by
    simp only [persistOutcome, persistNext, persistStep, read, catalog, m3, graph, afterRead]
  refine ⟨4, ?_, ?_⟩
  · rw [persistOutcome, reached]
    simp only [persistNext, persistStep, read, committed, afterFinish]
  · rw [persistOutcome, reached]
    show RunEnded (process.next _).db receipt
    rw [next_finish_commits serving committed]
    exact finishGraphNodeRun_ends committed

/-- `persist_outcome` ends the run of its receipt exactly when the outcome can be recorded. -/
theorem Unfinished.persists_iff (unfinished : Unfinished process.db receipt row run) (sound : SoundGraphs process.db)
    (checked : process.db.identity.content.validate = .ok ()) (started : run.startedAt.isSome = true)
    (terminal : outcome.terminalState.isTerminal = true) :
    Persists process receipt outcome draws ↔
      process.service = .serving ∧ ∃ session, Recordable process.db receipt row run session outcome := by
  constructor
  · rintro ⟨accesses, _, ended⟩
    rcases persistOutcome_reads accesses with ⟨unchanged, _⟩ | ⟨_, _, _, _, _, result, serving, follows, committed⟩
    · rw [unchanged] at ended
      obtain ⟨other, found, concluded⟩ := ended.run
      obtain rfl := Option.some.inj (unfinished.runFound.symm.trans found)
      rcases unfinished.working with state | state <;> rw [state] at concluded <;> cases concluded
    · obtain ⟨⟨catalog, m3⟩, graph⟩ := follows
      simp only [catalogRevision, bind_ok, exists_unit, pure_ok] at catalog
      simp only [m3Revision, bind_ok, exists_unit, pure_ok] at m3
      obtain ⟨_, loaded, rfl⟩ := map_ok.mp graph
      simp only [graphExecution, bind_ok, exists_unit, required_ok, pure_ok] at loaded
      obtain ⟨_, rfl⟩ := catalog
      obtain ⟨_, rfl⟩ := m3
      obtain ⟨_, found, _, rfl⟩ := loaded
      obtain rfl := Option.some.inj (unfinished.found.symm.trans found)
      exact ⟨serving, unfinished.recordable sound checked terminal committed⟩
  · rintro ⟨serving, session, recordable⟩
    exact unfinished.persists serving sound checked started terminal recordable

end Persisting

section Runs

variable [Sha256] [SerdeJson] {receipt : BeginGraphNodeRunReceipt} {row : GraphRow} {run : Run}

theorem Attempted.next (process : DaemonProcess) (action : Action) (attempted : Attempted process.db) :
    Attempted (process.next action).db := by
  rcases process.next_change action with same | change
  · exact same ▸ attempted
  · exact change.attempted attempted

theorem run_attempted (actions : List Action) : Attempted (DaemonProcess.fresh.run actions).db :=
  @Machine.run_preserves _ _ _ (fun process : DaemonProcess => Attempted process.db) Attempted.next _
    StopsIdle.fresh.attempted actions

omit [Sha256] [SerdeJson] in
/-- An unfinished attempt has begun. -/
theorem Unfinished.started {db : Database} (unfinished : Unfinished db receipt row run) (attempted : Attempted db)
    (valid : db.identity.content.validate = .ok ()) : run.startedAt.isSome = true := by
  rcases unfinished.working with starting | running
  · obtain ⟨attempt, recorded⟩ := unfinished.attempted
    have member : receipt.runId ∈ db.nodeRuns.rows.map (·.runId) :=
      List.mem_map.mpr ⟨attempt, Table.mem_of_find? recorded, Table.find?_key recorded⟩
    obtain ⟨other, found, started⟩ := attempted _ member
    obtain rfl := Option.some.inj (unfinished.runFound.symm.trans found)
    exact started starting
  · exact validate_started valid (find_some unfinished.runFound).1 (by rw [running]; rfl)

omit [Sha256] [SerdeJson] in
theorem outcome_terminal {state : NormalizedRunState} (terminal : state.isTerminal = true)
    (providerSessionId : Option String) (cost : CostEvidence) (output : Option String) (failure : Option AdapterFailure) :
    (ProviderOutcome.outcome state providerSessionId cost output failure).terminalState.isTerminal = true := by
  unfold ProviderOutcome.outcome
  dsimp only
  split
  · rfl
  · exact terminal

omit [Sha256] [SerdeJson] in
theorem told_recordable {distrusted : Bool} {state : NormalizedRunState} {providerSessionId : Option String}
    {cost : CostEvidence} {output : Option String} {failure : Option AdapterFailure} :
    ((ProviderOutcome.outcome state providerSessionId cost output failure).told distrusted).recordable = true ↔
      distrusted = true ∨ reportRecordable state providerSessionId cost output failure = true := by
  cases distrusted with
  | true => exact ⟨fun _ => .inl rfl, fun _ => ProviderOutcome.withheld_recordable⟩
  | false =>
    rw [← outcome_recordable]
    exact ⟨.inr, fun either => either.resolve_left Bool.false_ne_true⟩

/-- What a provider reports of an unfinished attempt is recorded exactly when it is recordable, or not trusted, and the
store has room for it. -/
theorem outcome_persists (actions : List Action) {state : NormalizedRunState} (providerSessionId : Option String)
    (cost : CostEvidence) (output : Option String) (failure : Option AdapterFailure) (draws : Nat → Nat × CostRecordId)
    (unfinished : Unfinished (DaemonProcess.fresh.run actions).db receipt row run) (terminal : state.isTerminal = true) :
    Persists (DaemonProcess.fresh.run actions) receipt (.outcome state providerSessionId cost output failure) draws ↔
      (DaemonProcess.fresh.run actions).service = .serving ∧
        ∃ session, (selectionDistrusted (DaemonProcess.fresh.run actions).db session run = true ∨
            reportRecordable state providerSessionId cost output failure = true) ∧
          Placeable (DaemonProcess.fresh.run actions).db receipt row run session
            ((ProviderOutcome.outcome state providerSessionId cost output failure).told
              (selectionDistrusted (DaemonProcess.fresh.run actions).db session run)) := by
  have valid := (SoundRuns.fresh.run actions).valid
  have started := unfinished.started (run_attempted actions) valid
  rw [unfinished.persists_iff (SoundGraphs.fresh.run actions) valid started (outcome_terminal terminal _ _ _ _)]
  refine and_congr_right fun _ => exists_congr fun session => ?_
  rw [← told_recordable]
  exact ⟨fun taken => ⟨taken.recordable, taken.toPlaceable⟩, fun taken => ⟨taken.2, taken.1⟩⟩

end Runs

section ProviderRun

/-- The daemon begins the first run itself. -/
def providerRun : List Action :=
  firstRun.take 2 ++ [.command (.beginGraphNodeRun 6 ⟨nth 30, nth 31, nth 32⟩ (nth 24)
    ⟨1, 0, nth 21, providerOwner (nth 21)⟩ none)]

def providerReceipt : BeginGraphNodeRunReceipt :=
  ⟨nth 24, nth 21, nth 30, nth 31, none, "codex_cli", "gpt", "/workspace", "", 2, 1, 3⟩

/-- The session of the first run. -/
def startedSession : Session := ⟨entityMetadata 6 (nth 30) "graph_node_run", nth 13, nth 1, none⟩

/-- The first run is unfinished, and the store has room for its findings. -/
theorem provider_begun : ∃ row,
    Unfinished (@DaemonProcess.run (.table []) SerdeJson.compact .fresh providerRun).db providerReceipt row startedRun ∧
    (@DaemonProcess.run (.table []) SerdeJson.compact .fresh providerRun).service = .serving ∧
    selectionDistrusted (@DaemonProcess.run (.table []) SerdeJson.compact .fresh providerRun).db startedSession
      startedRun = false ∧
    @Placeable (.table []) (@DaemonProcess.run (.table []) SerdeJson.compact .fresh providerRun).db providerReceipt row
      startedRun startedSession ⟨.succeeded, some "thread", unknownCost, some "Findings", none⟩ := by
  have stored : (fun process : DaemonProcess =>
      ((process.db.graphs.find? (nth 24)).any fun row => (row.execution.node? (nth 21)).any (fun node =>
        node.state = .running ∧ node.owner = some (providerOwner (nth 21)) ∧ node.runId = some (nth 31)) ∧
        row.execution.revision + 1 < sqlLimit) = true ∧
      ((process.db.latestAttempt (nth 24) (nth 21)).map (·.runId) = some (nth 31) ∧
        process.db.identity.content.run? (nth 31) = some startedRun) ∧ process.service = .serving ∧
      selectionDistrusted process.db startedSession startedRun = false ∧
      (process.db.identity.content.session? (nth 30) = some startedSession ∧
        ∀ execution ∈ storedExecutions process.db, isOk (@validateStored (.table []) process.db execution) = true) ∧
      isOk (@M3State.validate (.table []) ⟨process.db.m3.content, promised process.db (nth 24)
        (some ⟨nth 21, nth 31, @outputHash (.table []) "Findings", "Findings"⟩)⟩ process.db.identity.content) = true ∧
      process.db.outputs.find? (nth 31) = none ∧ process.db.identity.revision + 1 < sqlLimit ∧
      process.db.m3.revision + 1 < sqlLimit) (@DaemonProcess.run (.table []) SerdeJson.compact .fresh providerRun) := by
    decide +kernel
  obtain ⟨held, ⟨latest, ran⟩, serving, trusted, ⟨session, readable⟩, consistent, unused, catalogRoom, m3Room⟩ := stored
  obtain ⟨row, found, held⟩ := (Option.any_eq_true _ _).mp held
  obtain ⟨held, graphRoom⟩ := of_decide_eq_true held
  obtain ⟨node, located, held⟩ := (Option.any_eq_true _ _).mp held
  obtain ⟨_, consistent⟩ := isOk_iff.mp consistent
  refine ⟨row, ⟨found, ⟨node, located, of_decide_eq_true held⟩, latest, ran, .inl rfl⟩, serving, trusted, ?_⟩
  refine @Placeable.mk (.table []) _ _ _ _ _ _ session ?_ consistent (fun _ => unused) catalogRoom m3Room graphRoom
    (by decide) (fun _ => by decide)
  intro execution member
  obtain ⟨_, stored⟩ := isOk_iff.mp (readable execution member)
  exact stored

theorem outcome_persists_started :
    @Persists (.table []) SerdeJson.compact (@DaemonProcess.run (.table []) SerdeJson.compact .fresh providerRun)
      providerReceipt (.outcome .succeeded (some "thread") unknownCost (some "Findings") none)
      (fun _ => (7, nth 40)) := by
  obtain ⟨row, unfinished, serving, trusted, placeable⟩ := provider_begun
  refine (@outcome_persists (.table []) SerdeJson.compact providerReceipt row startedRun providerRun _ _ _ _ _ _
    unfinished rfl).mpr ⟨serving, startedSession, .inr (by decide +kernel), ?_⟩
  rw [trusted]
  exact placeable

/-- A blank answer makes the success a failure, and the failure is not recorded for its blank answer. -/
theorem outcome_persists_fails : ∃ row,
    Unfinished (@DaemonProcess.run (.table []) SerdeJson.compact .fresh providerRun).db providerReceipt row startedRun ∧
      ¬@Persists (.table []) SerdeJson.compact (@DaemonProcess.run (.table []) SerdeJson.compact .fresh providerRun)
        providerReceipt (.outcome .succeeded (some "thread") unknownCost (some "\n") none) (fun _ => (7, nth 40)) := by
  obtain ⟨row, unfinished, _, trusted, placeable⟩ := provider_begun
  refine ⟨row, unfinished, fun persists => ?_⟩
  have valid := (@SoundRuns.run (.table []) SerdeJson.compact _ SoundRuns.fresh providerRun).valid
  obtain ⟨_, session, recordable⟩ := (@Unfinished.persists_iff (.table []) SerdeJson.compact _ _ _ _ _ _ unfinished
    (@SoundGraphs.run (.table []) SerdeJson.compact _ (@SoundGraphs.fresh (.table [])) providerRun) valid rfl rfl).mp
    persists
  have found := @Placeable.sessionFound (.table []) _ _ _ _ _ _ placeable
  have again := @Placeable.sessionFound (.table []) _ _ _ _ _ _ (@Recordable.toPlaceable (.table []) _ _ _ _ _ _ recordable)
  obtain rfl := Option.some.inj (found.symm.trans again)
  have accepted := @Recordable.recordable (.table []) _ _ _ _ _ _ recordable
  rw [trusted] at accepted
  have refused : ((ProviderOutcome.outcome .succeeded (some "thread") unknownCost (some "\n") none).told
      false).recordable = false := by
    decide +kernel
  rw [refused] at accepted
  cases accepted

end ProviderRun

end Bastet.Daemon
