import Bastet.Daemon.Commands

/-! What a committed command did: the facts its checks established and the database it left.
Every result over runs is proved from these, without unfolding a command. -/

set_option autoImplicit false

namespace Bastet.Daemon

open Fallible Bastet.Core

variable [Sha256] [SerdeJson] {db after : Database}

section Catalogs

omit [SerdeJson] in
theorem replaceCatalog_ok {command : ReplaceCatalogCommand} {receipt : CatalogReceipt}
    (committed : replaceCatalog db command = .ok (after, receipt)) :
    command.catalog.validate = .ok () ∧
      (∀ run ∈ db.identity.content.runs, keepsRun db.identity.content command.catalog run = .ok ()) ∧
      (∀ run ∈ command.catalog.runs, introducesIdle db.identity.content run = .ok ()) ∧
      M3State.validate ⟨db.m3.content, storedExecutions db⟩ command.catalog = .ok () ∧
      bump db.identity.revision < sqlLimit ∧
      ∃ events, after = { db with identity := ⟨bump db.identity.revision, command.catalog⟩, events } := by
  simp only [replaceCatalog, validateM3State, bind_ok, exists_unit, lift_ok, expectRevision_ok, forEach_ok,
    loadGraphExecutions_ok, writeIdentity_ok, pure_ok, Prod.mk.injEq] at committed
  obtain ⟨valid, _, kept, idle, _, ⟨_, rfl⟩, consistent, _, ⟨bounded, rfl⟩, rfl, _⟩ := committed
  exact ⟨valid, kept, idle, consistent, bounded, _, rfl⟩

omit [SerdeJson] in
theorem replaceM3Catalog_ok {command : ReplaceM3CatalogCommand} {receipt : CatalogReceipt}
    (committed : replaceM3Catalog db command = .ok (after, receipt)) :
    db.m3.revision = command.expectedRevision ∧ validateM3Catalog command.catalog db.identity.content = .ok () ∧
      db.m3.revision + 1 < sqlLimit ∧
      ∃ events, after = { db with m3 := ⟨db.m3.revision + 1, command.catalog⟩, events } := by
  simp only [replaceM3Catalog, bind_ok, exists_unit, expectRevision_ok, nextRevision_ok, writeM3_ok, pure_ok,
    Prod.mk.injEq] at committed
  obtain ⟨valid, expected, _, ⟨_, rfl⟩, _, ⟨bounded, rfl⟩, rfl, _⟩ := committed
  exact ⟨expected, valid, bounded, _, rfl⟩

omit [SerdeJson] in
theorem prepareMvp_ok {ids : MvpDraftIds} {directory : Bool} {command : PrepareMvpCommand}
    {receipt : PrepareMvpReceipt} (committed : prepareMvp db ids directory command = .ok (after, receipt)) :
    ∃ draft, MvpDraft.prepare ids directory command.projectName command.workspaceRoot command.codexModel
        command.agyModel = .ok draft ∧
      db.identity.content = .empty ∧ m3IsUnconfigured db.m3.content = true ∧
      db.identity.revision + 1 < sqlLimit ∧ db.m3.revision + 1 < sqlLimit ∧
      ∃ events, after = { db with
        identity := ⟨db.identity.revision + 1, draft.identity⟩
        m3 := ⟨db.m3.revision + 1, keepProfiles draft.m3 db.m3.content⟩
        events } := by
  simp only [prepareMvp, bind_ok, exists_unit, lift_ok, reject_ok, expectRevision_ok, nextRevision_ok,
    writeIdentity_ok, writeM3_ok, pure_ok, Prod.mk.injEq, Bool.or_eq_false_iff, decide_eq_false_iff_not,
    not_not, Bool.not_eq_eq_eq_not, Bool.not_false] at committed
  obtain ⟨draft, prepared, ⟨initial, unconfigured⟩, _, _, _, ⟨_, rfl⟩, _, ⟨_, rfl⟩, _, ⟨identity, rfl⟩, _,
    ⟨m3, rfl⟩, rfl, _⟩ := committed
  exact ⟨draft, prepared, initial, unconfigured, identity, m3, _, rfl⟩

omit [Sha256] [SerdeJson] in
theorem markRunning_ok {catalog marked : IdentityCatalog} {updatedAt : String} {run : Run}
    (done : markRunning catalog updatedAt run = .ok marked) :
    marked = if run.state = .starting then catalog.updateRun run.metadata.id (Run.enter .running updatedAt)
      else catalog := by
  unfold markRunning at done
  by_cases starting : run.state = .starting
  · simp only [starting, if_true, bind_ok, nextRevision_ok, pure_ok] at done ⊢
    obtain ⟨_, _, rfl⟩ := done
    rfl
  · rw [if_neg starting] at done ⊢
    exact (pure_ok.mp done).symm

omit [Sha256] [SerdeJson] in
theorem nameSession_ok {catalog named : IdentityCatalog} {updatedAt : String} {session : Session}
    {providerSessionId : Option String} (done : nameSession catalog updatedAt session providerSessionId = .ok named) :
    named = catalog ∨ ∃ name, named = catalog.updateSession session.metadata.id (Session.name name updatedAt) := by
  unfold nameSession at done
  cases providerSessionId with
  | none => exact .inl (pure_ok.mp done).symm
  | some name =>
    simp only at done
    split at done
    · simp only [bind_ok, nextRevision_ok, pure_ok] at done
      obtain ⟨_, _, rfl⟩ := done
      exact .inr ⟨name, rfl⟩
    · exact .inl (pure_ok.mp done).symm

omit [Sha256] [SerdeJson] in
/-- A report changes the state of a run at work, and the name of its session. -/
theorem recordProviderRunning_ok {now : Nat} {runId : RunId} {providerSessionId : Option String} {revision : Nat}
    (committed : recordProviderRunning db now runId providerSessionId = .ok (after, revision)) :
    after = db ∨ ∃ run session marked catalog, isCurrentAttempt db runId = true ∧
      db.identity.content.run? runId = some run ∧ run.state.isActive = true ∧
      db.identity.content.session? run.sessionId = some session ∧
      markRunning db.identity.content (timestamp now) run = .ok marked ∧
      nameSession marked (timestamp now) session providerSessionId = .ok catalog ∧
      catalog.validate = .ok () ∧ db.identity.revision + 1 < sqlLimit ∧
      ∃ events, after = { db with identity := ⟨db.identity.revision + 1, catalog⟩, events } := by
  simp only [recordProviderRunning, bind_ok, exists_unit, reject_ok, required_ok, Bool.not_eq_eq_eq_not,
    Bool.not_false] at committed
  obtain ⟨_, current, run, found, active, session, located, marked, markedOk, catalog, named, committed⟩ := committed
  split at committed
  · simp only [pure_ok, Prod.mk.injEq] at committed
    exact .inl committed.1.symm
  · simp only [bind_ok, exists_unit, lift_ok, nextRevision_ok, writeIdentity_ok, pure_ok, Prod.mk.injEq] at committed
    obtain ⟨valid, _, ⟨_, rfl⟩, _, ⟨bounded, rfl⟩, rfl, _⟩ := committed
    exact .inr ⟨run, session, marked, catalog, current, found, active, located, markedOk, named, valid, bounded, _, rfl⟩

omit [Sha256] [SerdeJson] in
theorem enterCancelling_ok {now : Nat} {run : Run} {revision : Nat}
    (committed : enterCancelling db now run = .ok (after, revision)) :
    (db.identity.content.updateRun run.metadata.id (Run.enter .cancelling (timestamp now))).validate = .ok () ∧
      db.identity.revision + 1 < sqlLimit ∧
      after = { db with identity := ⟨db.identity.revision + 1,
        db.identity.content.updateRun run.metadata.id (Run.enter .cancelling (timestamp now))⟩ } := by
  simp only [enterCancelling, bind_ok, exists_unit, lift_ok, nextRevision_ok, writeIdentity_ok, pure_ok,
    Prod.mk.injEq] at committed
  obtain ⟨_, _, valid, _, ⟨_, rfl⟩, _, ⟨bounded, rfl⟩, rfl, _⟩ := committed
  exact ⟨valid, bounded, rfl⟩

omit [Sha256] [SerdeJson] in
/-- A cancellation reaches runs at work only; a run that has ended stays as it is. -/
theorem recordProviderCancelAfterPreflight_ok {now : Nat} {runId : RunId} {receipt : CancelRunReceipt}
    (committed : recordProviderCancelAfterPreflight db now runId = .ok (after, receipt)) :
    (∃ events, after = { db with events }) ∨ ∃ run catalog,
      db.identity.content.run? runId = some run ∧
      (run.state.isCancellable = true ∨ run.state = .cancelling) ∧
      catalog = db.identity.content.updateRun run.metadata.id (Run.enter .cancelling (timestamp now)) ∧
      catalog.validate = .ok () ∧ db.identity.revision + 1 < sqlLimit ∧
      ∃ events, after = { db with identity := ⟨db.identity.revision + 1, catalog⟩, events } := by
  simp only [recordProviderCancelAfterPreflight, bind_ok, required_ok] at committed
  obtain ⟨run, found, committed⟩ := committed
  split at committed
  · simp only [pure_ok, Prod.mk.injEq] at committed
    exact .inl ⟨_, committed.1.symm⟩
  · split at committed
    · rename_i cancellable
      simp only [bind_ok, Prod.exists, pure_ok, Prod.mk.injEq] at committed
      obtain ⟨written, _, entered, rfl, _⟩ := committed
      obtain ⟨valid, bounded, rfl⟩ := enterCancelling_ok entered
      exact .inr ⟨run, _, found, by simpa using cancellable, rfl, valid, bounded, _, rfl⟩
    · cases committed

omit [Sha256] [SerdeJson] in
theorem recordProviderCancelAccepted_ok {now : Nat} {runId : RunId} {expected : Nat} {receipt : CancelRunReceipt}
    (committed : recordProviderCancelAccepted db now runId expected = .ok (after, receipt)) :
    ∃ run catalog, db.identity.content.run? runId = some run ∧ run.state.isCancellable = true ∧
      catalog = db.identity.content.updateRun run.metadata.id (Run.enter .cancelling (timestamp now)) ∧
      catalog.validate = .ok () ∧ db.identity.revision + 1 < sqlLimit ∧
      ∃ events, after = { db with identity := ⟨db.identity.revision + 1, catalog⟩, events } := by
  simp only [recordProviderCancelAccepted, bind_ok, exists_unit, expectRevision_ok, required_ok, reject_ok,
    Bool.not_eq_eq_eq_not, Bool.not_false, Prod.exists, pure_ok, Prod.mk.injEq] at committed
  obtain ⟨_, run, found, cancellable, written, _, entered, rfl, _⟩ := committed
  obtain ⟨valid, bounded, rfl⟩ := enterCancelling_ok entered
  exact ⟨run, _, found, cancellable, rfl, valid, bounded, _, rfl⟩

end Catalogs

section Documents

omit [SerdeJson] in
theorem storeM3_ok {convert : Message → StoreError} {catalog : M3Catalog} {executions : List GraphExecution}
    {kind : String} {revision : Nat} (committed : storeM3 db convert catalog executions kind = .ok (after, revision)) :
    M3State.validate ⟨catalog, executions⟩ db.identity.content = .ok () ∧ db.m3.revision + 1 < sqlLimit ∧
      ∃ events, after = { db with m3 := ⟨db.m3.revision + 1, catalog⟩, events } := by
  simp only [storeM3, validateM3State, bind_ok, exists_unit, lift_ok, nextRevision_ok, writeM3_ok, pure_ok,
    Prod.mk.injEq] at committed
  obtain ⟨consistent, _, ⟨_, rfl⟩, _, ⟨bounded, rfl⟩, rfl, _⟩ := committed
  exact ⟨consistent, bounded, _, rfl⟩

/-- The database with another M3 catalog, which the stored executions and identities agree with. -/
def StoresM3 (db : Database) (catalog : M3Catalog) (after : Database) : Prop :=
  M3State.validate ⟨catalog, storedExecutions db⟩ db.identity.content = .ok () ∧ db.m3.revision + 1 < sqlLimit ∧
    ∃ events, after = { db with m3 := ⟨db.m3.revision + 1, catalog⟩, events }

omit [SerdeJson] in
theorem acceptMvpDecision_ok {now : Nat} {ids : DecisionIds} {command : AcceptDecisionBaselineCommand}
    {receipt : AcceptDecisionBaselineReceipt} (committed : acceptMvpDecision db now ids command = .ok (after, receipt)) :
    ∃ catalog execution graphs,
      Core.acceptMvpDecision ids db.m3.content db.identity.content command.meetingId command.content
        command.acceptedBy command.acceptedAt = .ok (catalog, execution) ∧
      Readable db ∧
      M3State.validate ⟨catalog, storedExecutions db ++ [execution]⟩ db.identity.content = .ok () ∧
      db.m3.revision + 1 < sqlLimit ∧ execution.revision < sqlLimit ∧
      db.graphs.insert ⟨execution.id, execution.revision, execution, timestamp now⟩ = some graphs ∧
      ∃ events, after = { db with m3 := ⟨db.m3.revision + 1, catalog⟩, graphs, events } := by
  simp only [acceptMvpDecision, validateM3State, bind_ok, exists_unit, expectRevision_ok, Prod.exists, lift_ok,
    loadGraphExecutions_ok, nextRevision_ok, writeM3_ok, insertGraph_ok, pure_ok, Prod.mk.injEq] at committed
  obtain ⟨_, catalog, execution, accepted, _, ⟨readable, rfl⟩, consistent, _, ⟨_, rfl⟩, _, ⟨m3, rfl⟩, _,
    ⟨bounded, graphs, inserted, rfl⟩, rfl, _⟩ := committed
  exact ⟨catalog, execution, graphs, accepted, readable, consistent, m3, bounded, inserted, _, rfl⟩

omit [SerdeJson] in
/-- A new document cites a stored execution that is complete. -/
theorem createMvpDocument_ok {now : Nat} {artifactId : ArtifactId} {versionId : ArtifactVersionId}
    {command : CreateDocumentCommand} {receipt : DocumentReceipt}
    (committed : createMvpDocument db now artifactId versionId command = .ok (after, receipt)) :
    ∃ execution joinNode document version, execution ∈ storedExecutions db ∧
      (∀ node ∈ execution.nodes, node.state = .succeeded) ∧
      version.sourceExecutionId = some execution.id ∧ version.sourceJoinNodeId = some joinNode ∧
      document.versions = [version] ∧ StoresM3 db (addDocument db.m3.content document) after := by
  simp only [createMvpDocument, documentSources, DocumentVersion.create, DocumentVersion.bindJoinReceipt, bind_ok,
    exists_unit, expectRevision_ok, loadGraphExecutions_ok, required_ok, reject_ok, Prod.exists, lift_ok,
    rejectIf_ok, pure_ok, Prod.mk.injEq] at committed
  obtain ⟨_, _, ⟨_, rfl⟩, execution, found, sources, joinNode, output, ⟨complete, _, _, _, _, _, rfl, rfl, rfl⟩,
    projectId, _, _, ⟨_, rfl⟩, version, ⟨_, rfl⟩, _, _, stored, rfl, _⟩ := committed
  obtain ⟨consistent, bounded, events, rfl⟩ := storeM3_ok stored
  refine ⟨execution, _, _, _, List.mem_of_find?_eq_some found, ?_, rfl, rfl, rfl, consistent, bounded, events, rfl⟩
  simpa using complete

omit [SerdeJson] in
/-- Accepting a version keeps where it came from. -/
theorem acceptMvpDocument_ok {command : AcceptDocumentCommand} {receipt : DocumentReceipt}
    (committed : acceptMvpDocument db command = .ok (after, receipt)) :
    ∃ document version accepted,
      (db.m3.content.deliverables.documents.find? fun document => document.metadata.id = command.artifactId) =
        some document ∧
      (document.versions.find? fun version => version.id = command.versionId) = some version ∧
      version.accept command.acceptedBy command.acceptedAt = .ok accepted ∧
      StoresM3 db (updateVersion db.m3.content command.artifactId command.versionId fun _ => accepted) after := by
  simp only [acceptMvpDocument, bind_ok, exists_unit, expectRevision_ok, required_ok, reject_ok, lift_ok,
    loadGraphExecutions_ok, Prod.exists, pure_ok, Prod.mk.injEq] at committed
  obtain ⟨_, version, found, _, accepted, acceptedOk, _, ⟨_, rfl⟩, _, _, stored, rfl, _⟩ := committed
  obtain ⟨document, located, inside⟩ := Option.bind_eq_some_iff.mp found
  obtain ⟨consistent, bounded, events, rfl⟩ := storeM3_ok stored
  exact ⟨document, version, accepted, located, inside, acceptedOk, consistent, bounded, events, rfl⟩

omit [SerdeJson] in
theorem prepareKnowledgeDelivery_ok {now : Nat} {deliveryId : KnowledgeDeliveryId}
    {command : PrepareKnowledgeDeliveryCommand} {receipt : KnowledgeDeliveryReceipt}
    (committed : prepareKnowledgeDelivery db now deliveryId command = .ok (after, receipt)) :
    ∃ deliveries, StoresM3 db (withDeliveries db.m3.content deliveries) after := by
  simp only [prepareKnowledgeDelivery, bind_ok, exists_unit, expectRevision_ok, reject_ok, lift_ok,
    loadGraphExecutions_ok, Prod.exists, pure_ok, Prod.mk.injEq] at committed
  obtain ⟨_, _, delivery, _, _, ⟨_, rfl⟩, _, _, stored, rfl, _⟩ := committed
  exact ⟨_, storeM3_ok stored⟩

omit [SerdeJson] in
theorem completeKnowledgeDelivery_ok {command : CompleteKnowledgeDeliveryCommand} {receipt : KnowledgeDeliveryReceipt}
    (committed : completeKnowledgeDelivery db command = .ok (after, receipt)) :
    ∃ deliveries, StoresM3 db (withDeliveries db.m3.content deliveries) after := by
  simp only [completeKnowledgeDelivery, bind_ok, exists_unit, expectRevision_ok, required_ok, lift_ok,
    loadGraphExecutions_ok, Prod.exists, pure_ok, Prod.mk.injEq] at committed
  obtain ⟨_, _, _, _, _, _, ⟨_, rfl⟩, _, _, stored, rfl, _⟩ := committed
  exact ⟨_, storeM3_ok stored⟩

omit [SerdeJson] in
theorem recordCost_ok {command : RecordCostCommand} {receipt : CostReceipt}
    (committed : recordCost db command = .ok (after, receipt)) :
    StoresM3 db (addCost db.m3.content command.record) after := by
  simp only [recordCost, bind_ok, exists_unit, expectRevision_ok, reject_ok, loadGraphExecutions_ok, Prod.exists,
    pure_ok, Prod.mk.injEq] at committed
  obtain ⟨_, _, _, ⟨_, rfl⟩, _, _, stored, rfl, _⟩ := committed
  exact storeM3_ok stored

end Documents

section Graphs

omit [SerdeJson] in
theorem createGraphExecution_ok {now : Nat} {submitted : GraphExecution} {receipt : GraphExecutionReceipt}
    (committed : createGraphExecution db now submitted = .ok (after, receipt)) :
    ∃ execution graphs, execution = sanitizeExecution submitted ∧ execution.validate = .ok () ∧
      execution.revision < sqlLimit ∧
      db.graphs.insert ⟨execution.id, execution.revision, execution, timestamp now⟩ = some graphs ∧
      ∃ events, after = { db with graphs, events } := by
  simp only [createGraphExecution, bind_ok, exists_unit, lift_ok, insertGraph_ok, pure_ok, Prod.mk.injEq] at committed
  obtain ⟨valid, _, ⟨bounded, graphs, inserted, rfl⟩, rfl, _⟩ := committed
  exact ⟨_, graphs, rfl, valid, bounded, inserted, _, rfl⟩

omit [SerdeJson] in
/-- A restart answers with a stored execution that names the original, or stores the first one. -/
theorem restartMissingOutputGraph_answers {now : Nat} {restartedId originalId : GraphRunId} {expected : Nat}
    {receipt : GraphExecutionReceipt}
    (committed : restartMissingOutputGraph db now restartedId originalId expected = .ok (after, receipt)) :
    (∃ existing ∈ storedExecutions db, existing.restartedFromExecutionId = some originalId ∧ after = db ∧
      receipt.executionId = existing.id) ∨
    (∀ execution ∈ storedExecutions db, execution.restartedFromExecutionId ≠ some originalId) ∧
    ∃ row baseline restarted graphs,
      db.graphs.find? originalId = some row ∧ validateStored db row.execution = .ok () ∧
      baseline ∈ db.m3.content.meetings.decisionBaselines ∧
      baseline.metadata.id = row.execution.graph.decisionBaselineId ∧
      row.execution.restartAs restartedId = .ok restarted ∧ restarted.revision < sqlLimit ∧
      db.graphs.insert ⟨restarted.id, restarted.revision, restarted, timestamp now⟩ = some graphs ∧
      (∃ events, after = { db with graphs, events }) ∧ receipt.executionId = restarted.id := by
  simp only [restartMissingOutputGraph, bind_ok, loadGraph_ok, loadGraphExecutions_ok] at committed
  obtain ⟨_, ⟨row, found, _, readable, rfl⟩, _, ⟨_, rfl⟩, committed⟩ := committed
  split at committed
  · rename_i existing located
    simp only [pure_ok, Prod.mk.injEq] at committed
    obtain ⟨rfl, rfl⟩ := committed
    exact .inl ⟨existing, List.mem_of_find?_eq_some located, by simpa using List.find?_some located, rfl, rfl⟩
  · rename_i absent
    simp only [bind_ok, exists_unit, required_ok, reject_ok, lift_ok, insertGraph_ok, pure_ok,
      Prod.mk.injEq] at committed
    obtain ⟨baseline, located, _, restarted, restartedOk, _, ⟨bounded, graphs, inserted, rfl⟩, rfl, rfl⟩ := committed
    have accepted := List.find?_some located
    exact .inr ⟨by simpa using absent, row, baseline, restarted, graphs, found, readable,
      List.mem_of_find?_eq_some located, by simpa using accepted, restartedOk, bounded, inserted, ⟨_, rfl⟩, rfl⟩

omit [SerdeJson] in
theorem restartMissingOutputGraph_ok {now : Nat} {restartedId originalId : GraphRunId} {expected : Nat}
    {receipt : GraphExecutionReceipt}
    (committed : restartMissingOutputGraph db now restartedId originalId expected = .ok (after, receipt)) :
    after = db ∨ ∃ row baseline restarted graphs,
      db.graphs.find? originalId = some row ∧ validateStored db row.execution = .ok () ∧
      baseline ∈ db.m3.content.meetings.decisionBaselines ∧
      baseline.metadata.id = row.execution.graph.decisionBaselineId ∧
      row.execution.restartAs restartedId = .ok restarted ∧ restarted.revision < sqlLimit ∧
      db.graphs.insert ⟨restarted.id, restarted.revision, restarted, timestamp now⟩ = some graphs ∧
      ∃ events, after = { db with graphs, events } := by
  rcases restartMissingOutputGraph_answers committed with ⟨_, _, _, same, _⟩ | ⟨_, row, baseline, restarted, graphs,
    found, readable, decided, accepted, made, bounded, inserted, left, _⟩
  · exact .inl same
  · exact .inr ⟨row, baseline, restarted, graphs, found, readable, decided, accepted, made, bounded, inserted, left⟩

omit [SerdeJson] in
theorem updateStoredGraph_ok {α : Type} {now : Nat} {id : GraphRunId} {expected : Nat} {kind : String}
    {update : GraphExecution → Except GraphError (α × GraphExecution)} {result : α}
    (committed : updateStoredGraph db now id expected kind update = .ok (after, result)) :
    ∃ row execution, db.graphs.find? id = some row ∧ validateStored db row.execution = .ok () ∧
      update row.execution = .ok (result, execution) ∧ execution.validate = .ok () ∧
      execution.revision < sqlLimit ∧
      ∃ events, after = { db with
        graphs := db.graphs.update id (GraphRow.store execution (timestamp now)) GraphRow.store_executionId
        events } := by
  simp only [updateStoredGraph, bind_ok, exists_unit, loadGraph_ok, Prod.exists, lift_ok, updateGraph_ok, pure_ok,
    Prod.mk.injEq] at committed
  obtain ⟨_, ⟨row, found, _, readable, rfl⟩, _, execution, updated, valid, _, ⟨bounded, rfl⟩, rfl, rfl⟩ := committed
  exact ⟨row, execution, found, readable, updated, valid, bounded, _, rfl⟩

/-- The database with another value of one stored execution, which is valid. -/
def StoresGraph (db : Database) (now : Nat) (id : GraphRunId) (row : GraphRow) (execution : GraphExecution)
    (after : Database) : Prop :=
  db.graphs.find? id = some row ∧ validateStored db row.execution = .ok () ∧ execution.validate = .ok () ∧
    execution.revision < sqlLimit ∧
    ∃ events, after = { db with
      graphs := db.graphs.update id (GraphRow.store execution (timestamp now)) GraphRow.store_executionId
      events }

omit [SerdeJson] in
theorem retryFailedGraphNode_ok {now : Nat} {id : GraphRunId} {command : RetryFailedGraphNodeCommand}
    {receipt : GraphExecutionReceipt} (committed : retryFailedGraphNode db now id command = .ok (after, receipt)) :
    ∃ row execution, row.execution.retryFailed command.nodeId = .ok execution ∧
      StoresGraph db now id row execution after := by
  simp only [retryFailedGraphNode, bind_ok, Prod.exists, pure_ok, Prod.mk.injEq] at committed
  obtain ⟨_, _, updated, rfl, _⟩ := committed
  obtain ⟨row, execution, found, readable, retried, valid, bounded, events, rfl⟩ := updateStoredGraph_ok updated
  simp only [bind_ok, pure_ok, Prod.mk.injEq] at retried
  obtain ⟨_, retried, _, rfl⟩ := retried
  exact ⟨row, _, retried, found, readable, valid, bounded, events, rfl⟩

omit [SerdeJson] in
theorem claimGraphNodes_ok {now : Nat} {id : GraphRunId} {expected limit : Nat} {owner : String}
    {claimed : List GraphNodeId} (committed : claimGraphNodes db now id expected owner limit = .ok (after, claimed)) :
    ∃ row execution, row.execution.claimReady owner limit = (.ok claimed, execution) ∧
      StoresGraph db now id row execution after := by
  obtain ⟨row, execution, found, readable, updated, valid, bounded, events, rfl⟩ := updateStoredGraph_ok committed
  refine ⟨row, execution, ?_, found, readable, valid, bounded, events, rfl⟩
  split at updated
  · rename_i claimedNow result
    simp only [Except.ok.injEq, Prod.mk.injEq] at updated
    obtain ⟨rfl, rfl⟩ := updated
    exact result
  · cases updated

omit [SerdeJson] in
theorem completeGraphNode_ok {now : Nat} {id : GraphRunId} {expected : Nat} {nodeId : GraphNodeId} {owner : String}
    {succeeded : Bool} {result : Unit}
    (committed : completeGraphNode db now id expected nodeId owner succeeded = .ok (after, result)) :
    ∃ row execution, row.execution.complete nodeId owner succeeded = .ok execution ∧
      StoresGraph db now id row execution after := by
  obtain ⟨row, execution, found, readable, updated, valid, bounded, events, rfl⟩ := updateStoredGraph_ok committed
  simp only [bind_ok, pure_ok, Prod.mk.injEq] at updated
  obtain ⟨_, completed, _, rfl⟩ := updated
  exact ⟨row, _, completed, found, readable, valid, bounded, events, rfl⟩

end Graphs

section Lifecycle

omit [Sha256] [SerdeJson] in
theorem transition_ok {lifecycle : DaemonLifecycle} {kind : String} {sequence : Nat}
    (committed : transition db lifecycle kind = .ok (after, sequence)) :
    ∃ events, after = { db with daemon := ⟨bump db.daemon.revision, lifecycle⟩, events } := by
  simp only [transition, bind_ok, writeDaemon_ok, pure_ok, Prod.mk.injEq] at committed
  obtain ⟨_, ⟨_, rfl⟩, rfl, _⟩ := committed
  exact ⟨_, rfl⟩

omit [Sha256] [SerdeJson] in
/-- A checkpoint is taken in the lifecycle it needs; the one of a shutdown needs that no provider is at work. -/
theorem persistCheckpoint_ok {checkpointId : Uuid} {expected : Nat} {needed : Option DaemonLifecycle}
    {final : DaemonLifecycle} {kind : String} {receipt : CheckpointReceipt}
    (committed : persistCheckpoint db checkpointId expected needed final kind = .ok (after, receipt)) :
    (∀ lifecycle, needed = some lifecycle → db.daemon.lifecycle = lifecycle) ∧
      (final = .stopping → ∀ run ∈ db.identity.content.runs, runMayBeActive run = false) ∧
      ∃ events, after = { db with daemon := ⟨bump db.daemon.revision, final⟩, events } := by
  have idle : (decide (final = .stopping) && db.identity.content.runs.any runMayBeActive) = false →
      final = .stopping → ∀ run ∈ db.identity.content.runs, runMayBeActive run = false := by
    intro none stopping run member
    simp only [stopping, decide_true, Bool.true_and, List.any_eq_false] at none
    exact Bool.eq_false_iff.mpr (none run member)
  cases needed with
  | none =>
    simp only [persistCheckpoint, bind_ok, exists_unit, reject_ok, writeDaemon_ok, pure_ok, Prod.mk.injEq] at committed
    obtain ⟨_, _, none, _, ⟨_, rfl⟩, _, ⟨_, rfl⟩, rfl, _⟩ := committed
    exact ⟨by simp, idle none, _, rfl⟩
  | some lifecycle =>
    simp only [persistCheckpoint, bind_ok, exists_unit, reject_ok, decide_eq_false_iff_not, not_not, ne_eq,
      writeDaemon_ok, pure_ok, Prod.mk.injEq] at committed
    obtain ⟨_, same, none, _, ⟨_, rfl⟩, _, ⟨_, rfl⟩, rfl, _⟩ := committed
    exact ⟨fun _ needs => Option.some.inj needs ▸ same, idle none, _, rfl⟩

omit [Sha256] [SerdeJson] in
theorem resume_ok {expected sequence : Nat} (committed : resume db expected = .ok (after, sequence)) :
    db.daemon.lifecycle = .suspended ∧
      ∃ events, after = { db with daemon := ⟨bump db.daemon.revision, .ready⟩, events } := by
  simp only [resume, bind_ok, exists_unit, reject_ok, decide_eq_false_iff_not, not_not, ne_eq] at committed
  exact ⟨committed.2.1, transition_ok committed.2.2⟩

end Lifecycle

section Staged

omit [Sha256] [SerdeJson] in
@[simp] theorem loadCatalog_ok {catalog : IdentityCatalog} :
    loadCatalog db = .ok catalog ↔ db.identity.content.validate = .ok () ∧ db.identity.content = catalog := by
  simp [loadCatalog]

omit [Sha256] [SerdeJson] in
theorem replaceExecution_ok {executions replaced : List GraphExecution} {id : GraphRunId} {execution : GraphExecution}
    (done : replaceExecution executions id execution = .ok replaced) :
    (∃ old ∈ executions, old.id = id) ∧ replaced = Lookup.modifyFirst (·.id) id (fun _ => execution) executions := by
  simp only [replaceExecution, bind_ok, required_ok, pure_ok] at done
  obtain ⟨old, found, rfl⟩ := done
  exact ⟨⟨old, Lookup.find_some found⟩, rfl⟩

/-- The grants of the database, or the same with the unspent one of a request revoked. -/
def RevokesUnspent (db : Database) (requestId : ApprovalRequestId) (finishedAtMs : Nat)
    (grants : Table GrantRow.requestId) : Prop :=
  (∃ grant, db.grants.find? requestId = some grant ∧ grant.unspent = true ∧
    grants = db.grants.update requestId
      (GrantRow.revoke (fun issued => max issued finishedAtMs) "daemon:staged_launch_cancelled")
      GrantRow.revoke_requestId) ∨
  ((∀ grant, db.grants.find? requestId = some grant → grant.unspent = false) ∧ grants = db.grants)

/-- The time a launch that is cancelled at `now` finishes. -/
def StagedRow.finishTime (row : StagedRow) (now : Nat) : Nat :=
  max now row.stagedAtMs

/-- The catalog in which the run of a cancelled launch has ended. -/
def cancelledRun (catalog : IdentityCatalog) (row : StagedRow) (now : Nat) : IdentityCatalog :=
  catalog.updateRun row.runId (endRun .cancelled (timestamp (row.finishTime now)))

/-- The cancellation of a waiting launch: its run, its node, its attempt and its ledger row
end together, and its unspent grant is revoked. -/
structure Cancels (db : Database) (now : Nat) (row : StagedRow) (reason : String) (run : Run)
    (plan : ProviderLaunchPlan) (graphRow : GraphRow) (execution : GraphExecution) (after : Database) : Prop where
  waits : row.state.isWaiting = true
  found : db.identity.content.run? row.runId = some run
  context : validateStagedContext db run false false = .ok ()
  planned : ProviderLaunchPlan.load db row.runId = .ok plan
  stored : db.graphs.find? plan.executionId = some graphRow
  cancelled : graphRow.execution.cancelStagedNode plan.nodeId plan.owner plan.runId = .ok execution
  valid : execution.validate = .ok ()
  bounded : execution.revision < sqlLimit
  catalogBounded : db.identity.revision + 1 < sqlLimit
  catalogValid : (cancelledRun db.identity.content row now).validate = .ok ()
  readable : Readable db
  consistent : M3State.validate
    ⟨db.m3.content, Lookup.modifyFirst (·.id) execution.id (fun _ => execution) (storedExecutions db)⟩
    (cancelledRun db.identity.content row now) = .ok ()
  left : ∃ grants events, RevokesUnspent db row.requestId (row.finishTime now) grants ∧
    after = { db with
      identity := ⟨db.identity.revision + 1, cancelledRun db.identity.content row now⟩
      graphs := db.graphs.update execution.id
        (GraphRow.store execution (timestamp (row.finishTime now))) GraphRow.store_executionId
      nodeRuns := db.nodeRuns.update row.runId
        (NodeRunRow.finish (timestamp (row.finishTime now)) .cancelled none) NodeRunRow.finish_runId
      staged := db.staged.update row.runId (StagedRow.cancel (row.finishTime now) reason) StagedRow.cancel_runId
      grants
      events }

/-- The launch of a request was cancelled; nothing happened if it did not wait. -/
def MayCancel (db : Database) (now : Nat) (requestId : ApprovalRequestId) (reason : String) (after : Database) : Prop :=
  (after = db ∧ ∀ row, db.stagedFor? requestId = some row → row.state.isWaiting = false) ∨
    ∃ row run plan graphRow execution, db.stagedFor? requestId = some row ∧
    Cancels db now row reason run plan graphRow execution after

omit [Sha256] [SerdeJson] in
theorem writeCancellation_ok {row : StagedRow} {catalog : IdentityCatalog} {execution : GraphExecution}
    {finishedAtMs : Nat} {reason : String}
    (committed : writeCancellation db row catalog execution finishedAtMs reason = .ok after) :
    db.identity.revision + 1 < sqlLimit ∧ execution.revision < sqlLimit ∧
      ∃ grants events, RevokesUnspent db row.requestId finishedAtMs grants ∧ after = { db with
        identity := ⟨db.identity.revision + 1, catalog⟩
        graphs := db.graphs.update execution.id (GraphRow.store execution (timestamp finishedAtMs))
          GraphRow.store_executionId
        nodeRuns := db.nodeRuns.update row.runId
          (NodeRunRow.finish (timestamp finishedAtMs) .cancelled none) NodeRunRow.finish_runId
        staged := db.staged.update row.runId (StagedRow.cancel finishedAtMs reason) StagedRow.cancel_runId
        grants
        events } := by
  simp only [writeCancellation, bind_ok, exists_unit, nextRevision_ok, writeIdentity_ok, updateGraph_ok, reject_ok,
    storable_ok, Prod.exists, pure_ok] at committed
  obtain ⟨_, ⟨_, rfl⟩, _, ⟨catalogBounded, rfl⟩, _, ⟨bounded, rfl⟩, _, _, revoked, left, spent, rfl⟩ := committed
  rcases updateUnspentGrant_ok.mp spent with ⟨grant, found, unspent, _, rfl, rfl⟩ | ⟨none, rfl, rfl⟩
  · exact ⟨catalogBounded, bounded, _, _, .inl ⟨grant, found, unspent, rfl⟩, rfl⟩
  · exact ⟨catalogBounded, bounded, _, _, .inr ⟨none, rfl⟩, rfl⟩

theorem cancelWaiting_ok {now : Nat} {row : StagedRow} {reason : String} (waits : row.state.isWaiting = true)
    (committed : cancelWaiting db now row reason = .ok after) :
    ∃ run plan graphRow execution, Cancels db now row reason run plan graphRow execution after := by
  simp only [cancelWaiting, cancelledGraph, cancelledCatalog, validateM3State, bind_ok, exists_unit, loadCatalog_ok,
    required_ok, reject_ok, lift_ok, nowMs_ok, nextRevision_ok, pure_ok, loadGraphExecutions_ok] at committed
  obtain ⟨_, ⟨_, rfl⟩, run, found, context, plan, planned, execution, ⟨graphRow, stored, _, _, cancelled, valid, rfl⟩,
    _, catalog, ⟨_, _, catalogValid, rfl⟩, _, ⟨readable, rfl⟩, _, replaced, consistent, written⟩ := committed
  have same : run.metadata.id = row.runId := (Lookup.find_some found).2
  rw [same] at catalogValid consistent written
  obtain ⟨_, rfl⟩ := replaceExecution_ok replaced
  obtain ⟨catalogBounded, bounded, left⟩ := writeCancellation_ok written
  exact ⟨run, plan, graphRow, _, waits, found, context, planned, stored, cancelled, valid, bounded, catalogBounded,
    catalogValid, readable, consistent, left⟩

theorem cancelForRequest_ok {now : Nat} {requestId : ApprovalRequestId} {reason : String}
    (committed : cancelForRequest db now requestId reason = .ok after) : MayCancel db now requestId reason after := by
  simp only [cancelForRequest, bind_ok, exists_unit, reject_ok] at committed
  obtain ⟨_, committed⟩ := committed
  split at committed
  · rename_i none_
    exact .inl ⟨(pure_ok.mp committed).symm, by simp [none_]⟩
  · rename_i row found
    split at committed
    · rename_i late
      refine .inl ⟨(pure_ok.mp committed).symm, fun other again => ?_⟩
      obtain rfl := Option.some.inj (found.symm.trans again)
      rw [late]
      rfl
    · simp only [bind_ok, exists_unit, reject_ok, Bool.not_eq_eq_eq_not, Bool.not_false] at committed
      obtain ⟨run, plan, graphRow, execution, cancels⟩ := cancelWaiting_ok committed.1 committed.2
      exact .inr ⟨row, run, plan, graphRow, execution, found, cancels⟩

/-- What every cancellation preserves, a pass over the overdue launches preserves. -/
theorem expire_preserves {holds : Database → Prop} {now : Nat}
    (preserved : ∀ before later requestId, MayCancel before now requestId "approval_expired" later →
      holds before → holds later)
    (committed : expire db now = .ok after) (initial : holds db) : holds after := by
  simp only [expire, bind_ok, exists_unit] at committed
  exact foldEach_preserves (fun requestId _ before later step =>
    preserved before later requestId (cancelForRequest_ok step)) committed.2 initial

/-- A launch that is recorded with its approval request. -/
structure Staging (db : Database) (now : Nat) (requestId : ApprovalRequestId) (plan : ProviderLaunchPlan) where
  run : Run
  action : ApprovalAction
  rolePolicy : ScopedPolicy
  request : ApprovalRequest
  approvals : Table ApprovalRow.requestId
  staged : Table StagedRow.runId
  runFound : db.identity.content.run? plan.runId = some run
  asked : approvalAction plan = .ok action
  permitted : currentRolePolicy db.identity.content plan = .ok rolePolicy
  bounded : now + approvalTtlMs < sqlLimit
  created : ApprovalRequest.create requestId now (now + approvalTtlMs) action rolePolicy = .ok request
  valid : request.validateAgainst db.identity.content = .ok ()
  requested : db.approvals.insert
    ⟨request.id, request.requestHash, request, request.expiresAtMs, none, timestamp now, none⟩ = some approvals
  unused : ∀ other ∈ db.staged.rows, other.requestId ≠ request.id
  launched : db.staged.insert ⟨plan.runId, request.id, .awaitingApproval, now, none, none⟩ = some staged
  context : validateStagedContext { db with approvals, staged } run false true = .ok ()

def Staging.database {now : Nat} {requestId : ApprovalRequestId} {plan : ProviderLaunchPlan}
    (self : Staging db now requestId plan) (events : List String) : Database :=
  { db with approvals := self.approvals, staged := self.staged, events }

theorem stage_ok {now : Nat} {requestId : ApprovalRequestId} {plan : ProviderLaunchPlan}
    (committed : stage db now requestId plan = .ok after) :
    ∃ (staging : Staging db now requestId plan) (events : List String), after = staging.database events := by
  simp only [stage, bind_ok, exists_unit, loadCatalog_ok, required_ok, nowMs_ok, reject_ok, lift_ok, liftFault_ok,
    insertApproval_ok, insertStaged_ok, pure_ok, decide_eq_false_iff_not, not_le] at committed
  obtain ⟨_, ⟨_, rfl⟩, run, found, action, actionOk, rolePolicy, policyOk, _, bounded, request, created, valid, _,
    ⟨_, _, approvals, approvalsOk, rfl⟩, _, ⟨_, unused, staged, stagedOk, rfl⟩, context, rfl⟩ := committed
  exact ⟨⟨run, action, rolePolicy, request, approvals, staged, found, actionOk, policyOk, bounded, created, valid,
    approvalsOk, unused, stagedOk, context⟩, _, rfl⟩

/-- An approved launch is ready; a denied one is cancelled; other requests have none. -/
theorem onDecision_ok {now : Nat} {request : ApprovalRequest} {kind : ApprovalDecisionKind}
    (committed : onDecision db now request kind = .ok after) :
    (db.stagedFor? request.id = none ∧ after = db) ∨
    (kind = .approve ∧ ∃ row run plan, db.stagedFor? request.id = some row ∧ row.state = .awaitingApproval ∧
      db.identity.content.run? row.runId = some run ∧ validateStagedContext db run false true = .ok () ∧
      ProviderLaunchPlan.load db row.runId = .ok plan ∧ validateRequestForPlan plan request = .ok () ∧
      ∃ events, after = { db with
        staged := db.staged.update row.runId (StagedRow.move .ready) StagedRow.move_runId
        events }) ∨
    (kind = .deny ∧ MayCancel db now request.id "approval_denied" after) := by
  unfold onDecision at committed
  split at committed
  · rename_i none_
    exact .inl ⟨none_, (pure_ok.mp committed).symm⟩
  · rename_i row found
    simp only [bind_ok, exists_unit, reject_ok, loadCatalog_ok, required_ok, decide_eq_false_iff_not, not_not]
      at committed
    obtain ⟨awaiting, _, ⟨_, rfl⟩, run, located, committed⟩ := committed
    cases kind with
    | approve =>
      simp only [bind_ok, exists_unit, pure_ok] at committed
      obtain ⟨context, plan, planned, agreed, rfl⟩ := committed
      exact .inr (.inl ⟨rfl, row, run, plan, found, awaiting, located, context, planned, agreed, _, rfl⟩)
    | deny =>
      simp only [bind_ok, exists_unit] at committed
      obtain ⟨_, _, _, cancelled⟩ := committed
      exact .inr (.inr ⟨rfl, cancelForRequest_ok cancelled⟩)

end Staged

end Bastet.Daemon
