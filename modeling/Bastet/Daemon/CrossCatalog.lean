import Bastet.Core.M3Moves
import Bastet.Daemon.ExpiryProgress
import Bastet.Daemon.OutputLedger
import Bastet.Daemon.Shutdown

/-! The three stored documents refer to one another: executions to baselines and roles, costs and outputs to runs,
document versions to what an execution left. The stored state stays valid as long as the two commands that check a
document by itself are given one that fits the others. -/

set_option autoImplicit false

namespace Bastet.Daemon

open Fallible Bastet.Core Lookup

section Executions

open M3State

variable {db later : Database} {id : GraphRunId} {row : GraphRow} {execution : GraphExecution} {updatedAt : String}

/-- The store after the change of one execution, as it was checked before. -/
theorem stored_replaced [Sha256] (sound : SoundGraphs db) (found : db.graphs.find? id = some row)
    (graphs : later.graphs = db.graphs.update id (GraphRow.store execution updatedAt) GraphRow.store_executionId) :
    (modifyFirst (·.id) id (fun _ => execution) (storedExecutions db)).Perm (storedExecutions later) := by
  refine List.Perm.trans ?_ (storedExecutions_perm later).symm
  rw [modifyFirst_eq_map sound.ids, graphs, Table.rows_update, List.map_map]
  refine ((storedExecutions_perm db).map _).trans (.of_eq ?_)
  rw [List.map_map]
  refine List.map_congr_left fun other member => ?_
  simp only [Function.comp_apply]
  rw [← (sound.member member).id]
  split <;> rfl

/-- The store with one more execution. -/
theorem stored_inserted {graphs : Table GraphRow.executionId} {now : Nat}
    (inserted : db.graphs.insert ⟨execution.id, execution.revision, execution, timestamp now⟩ = some graphs)
    (same : later.graphs = graphs) : (storedExecutions db ++ [execution]).Perm (storedExecutions later) := by
  refine List.Perm.trans ?_ (storedExecutions_perm later).symm
  rw [same, Table.rows_insert inserted, List.map_append]
  exact (storedExecutions_perm db).append_right _

/-- One stored execution moves on. -/
theorem stored_proceeds [Sha256] (sound : SoundGraphs db) (found : db.graphs.find? id = some row)
    (proceeds : row.execution.Proceeds execution)
    (graphs : later.graphs = db.graphs.update id (GraphRow.store execution updatedAt) GraphRow.store_executionId) :
    AllProceed (storedExecutions db) (storedExecutions later) := by
  have replaced : (modifyFirst (·.id) id (fun _ => execution) (storedExecutions db)).Perm (storedExecutions later) :=
    stored_replaced sound found graphs
  have named : row.execution.id = id := (sound id row found).id.symm.trans (Table.find?_key found)
  constructor
  · refine (replaced.symm.map _).trans (.of_eq ?_)
    rw [modifyFirst_eq_map sound.ids, List.map_map]
    refine List.map_congr_left fun other member => ?_
    simp only [Function.comp_apply]
    split
    · rename_i same
      rw [proceeds.id, named, same]
    · rfl
  · intro moved member
    rcases mem_modifyFirst (replaced.mem_iff.mpr member) with old | ⟨old, inside, same, rfl⟩
    · exact ⟨moved, old, rfl, rfl, rfl, fun _ _ found _ => found⟩
    · obtain rfl := sound.only found inside same
      exact ⟨_, inside, proceeds⟩

variable [Sha256] {before after : GraphExecution}

theorem Written.proceeds (written : Written before after) (valid : before.Valid)
    (outputs : after.outputs = before.outputs) : before.Proceeds after := by
  obtain ⟨frame, _, remembers⟩ := written.kept valid
  exact .of_remembers frame remembers outputs

theorem Works.written {command : Command} (works : Works before command after) : Written before after := by
  cases works with
  | retried done => exact .retried done
  | claimed done => exact .claimed done
  | completed done => exact .completed done

/-- Recovery moves the stored executions on. -/
theorem recovered_proceeds (sound : SoundGraphs db) (now : Nat) (daemon : DaemonState) (revision : Nat)
    (events : List String) :
    AllProceed (storedExecutions db) (storedExecutions (db.recovered now daemon revision events)) := by
  have moves : ∀ row ∈ db.graphs.rows, row.execution.Proceeds (row.reconciled now).execution := by
    intro row member
    unfold GraphRow.reconciled
    split
    · exact ⟨rfl, rfl, rfl, fun _ _ found _ => found⟩
    · exact Written.proceeds .reconciled (sound.member member).valid rfl
  constructor
  · refine ((storedExecutions_perm _).map _).trans (.trans (.of_eq ?_) ((storedExecutions_perm db).map _).symm)
    show ((db.graphs.rows.map (GraphRow.reconciled now)).map (·.execution)).map (·.id) = _
    rw [List.map_map, List.map_map, List.map_map]
    exact List.map_congr_left fun row member => (moves row member).id
  · intro later member
    obtain ⟨moved, inside, rfl⟩ := mem_storedExecutions.mp member
    obtain ⟨row, stored, rfl⟩ := List.mem_map.mp inside
    exact ⟨row.execution, mem_storedExecutions.mpr ⟨row, stored, rfl⟩, moves row stored⟩

end Executions

section Entities

variable {before after : IdentityCatalog}

/-- Nothing but the sessions and runs of the catalog changes, and no run is lost. -/
structure KeepsEntities (before after : IdentityCatalog) : Prop where
  same : after = { before with sessions := after.sessions, runs := after.runs }
  runs : before.runs.map (·.metadata.id) ⊆ after.runs.map (·.metadata.id)

theorem KeepsEntities.trans {last : IdentityCatalog} (first : KeepsEntities before after)
    (second : KeepsEntities after last) : KeepsEntities before last where
  same := by
    rw [second.same, first.same]
  runs := List.Subset.trans first.runs second.runs

theorem KeepsEntities.updateRun {runId : RunId} {change : Run → Run}
    (kept : ∀ run, (change run).metadata.id = run.metadata.id) : KeepsEntities before (before.updateRun runId change) where
  same := rfl
  runs := by
    rw [IdentityCatalog.updateRun, map_modifyFirst kept]
    exact List.Subset.refl _

theorem KeepsEntities.withAttempt {now : Nat} {ids : RunIds} {binding : ProviderRunBinding} {staged : Bool} :
    KeepsEntities before (withAttempt before now ids binding staged) where
  same := rfl
  runs := by
    rw [Daemon.withAttempt, List.map_append]
    exact List.subset_append_left _ _

theorem KeepsEntities.recovered (updatedAt : String) : KeepsEntities before (before.recovered updatedAt) where
  same := rfl
  runs := by
    have kept : ∀ run : Run, (run.recovered updatedAt).metadata.id = run.metadata.id := by
      intro run
      unfold Run.recovered
      split
      · rfl
      · split <;> rfl
    intro id listed
    obtain ⟨run, member, rfl⟩ := List.mem_map.mp listed
    exact List.mem_map.mpr ⟨run.recovered updatedAt, List.mem_map_of_mem member, kept run⟩

theorem Reports.keepsEntities [Sha256] {db : Database} {updatedAt : String} {command : Command}
    (reports : Reports db updatedAt command after) : KeepsEntities db.identity.content after := by
  cases reports with
  | @running run session marked _ providerSessionId _ _ _ mark name =>
    have first : KeepsEntities db.identity.content marked := by
      unfold markRunning at mark
      split at mark
      · simp only [bind_ok, pure_ok] at mark
        obtain ⟨_, _, rfl⟩ := mark
        exact .updateRun fun _ => rfl
      · obtain rfl := pure_ok.mp mark
        exact ⟨rfl, List.Subset.refl _⟩
    have second : KeepsEntities marked after := by
      unfold nameSession at name
      split at name
      · split at name
        · simp only [bind_ok, pure_ok] at name
          obtain ⟨_, _, rfl⟩ := name
          exact ⟨rfl, List.Subset.refl _⟩
        · obtain rfl := pure_ok.mp name
          exact ⟨rfl, List.Subset.refl _⟩
      · obtain rfl := pure_ok.mp name
        exact ⟨rfl, List.Subset.refl _⟩
    exact first.trans second
  | cancelling => exact .updateRun fun _ => rfl

end Entities

section Steps

open M3State

variable [Sha256] {db after : Database}

/-- The stored documents fit one another, and what the document versions cite has succeeded. -/
structure Referenced (db : Database) : Prop where
  sound : SoundGraphs db
  consistent : M3State.validate ⟨db.m3.content, storedExecutions db⟩ db.identity.content = .ok ()
  cites : db.m3.content.CitesSucceeded (storedExecutions db)

theorem validate_perm {catalog : M3Catalog} {identity : IdentityCatalog} {first second : List GraphExecution}
    (validated : M3State.validate ⟨catalog, first⟩ identity = .ok ()) (perm : first.Perm second) :
    M3State.validate ⟨catalog, second⟩ identity = .ok () := by
  have parts := validated
  simp only [M3State.validate, bind_ok, exists_unit, mapError_ok, forEach_ok, validateExecution] at parts
  obtain ⟨valid, _, _, _, _, executions, _⟩ := parts
  refine @validate_of_cited _ _ _ _ identity identity.sessions identity.runs validated (perm.symm.map _) ?_ rfl valid
  exact fun execution member => (executions execution (perm.mem_iff.mpr member)).1

/-- The stored state stays valid while its executions move on. -/
theorem Referenced.proceeds (referenced : Referenced db) (sound : SoundGraphs after)
    (m3 : after.m3.content = db.m3.content) (all : AllProceed (storedExecutions db) (storedExecutions after))
    (entities : KeepsEntities db.identity.content after.identity.content)
    (valid : after.identity.content.validate = .ok ()) :
    M3State.validate ⟨after.m3.content, storedExecutions after⟩ after.identity.content = .ok () := by
  rw [entities.same] at valid ⊢
  rw [m3]
  exact validate_of_proceeds referenced.consistent all referenced.cites
    (fun _ member => sound.validExecution member) entities.runs valid

/-- A version that cites an execution has its receipt. -/
theorem Referenced.receipt (referenced : Referenced db) {document : DocumentArtifact} {version : DocumentVersion}
    (member : document ∈ db.m3.content.deliverables.documents) (listed : version ∈ document.versions)
    (cited : version.sourceExecutionId.isSome = true) :
    ∃ execution ∈ storedExecutions db, version.sourceExecutionId = some execution.id := by
  have matched := validate_receipts referenced.consistent version (List.mem_flatMap.mpr ⟨document, member, listed⟩)
  rcases receiptInvalid_iff.mp matched with unsourced | ⟨execution, _, _, found, receipt⟩
  · rw [unsourced.1] at cited
    cases cited
  · exact ⟨execution, List.mem_of_find?_eq_some found, receipt.source⟩

/-- What has succeeded stays so, whatever happens to the stored executions. -/
theorem Referenced.citesFollow (referenced : Referenced db) (follow : GraphsFollow db after) :
    db.m3.content.CitesSucceeded (storedExecutions after) := by
  intro document member version listed execution stored source joinNodeId joined join defined named nodeId cited
  obtain ⟨origin, known, same⟩ := referenced.receipt member listed (by rw [source]; rfl)
  have succeeded := referenced.cites document member version listed origin known same joinNodeId joined
  obtain ⟨row, inside, rfl⟩ := mem_storedExecutions.mp known
  obtain ⟨moved, reached, rfl⟩ := mem_storedExecutions.mp stored
  have sound := referenced.sound.member inside
  have later := (follow.sound referenced.sound).member reached
  have alike : moved.executionId = row.executionId := by
    rw [later.id, sound.id]
    exact Option.some.inj (source.symm.trans same)
  obtain ⟨other, found, leads⟩ := follow.kept _ row (Table.find?_mem inside)
  rw [← alike, Table.find?_mem reached] at found
  obtain rfl := Option.some.inj found
  have frame : GraphExecution.Frame row.execution moved.execution :=
    leads.relates sound GraphExecution.Frame.refl (fun _ _ _ => .trans) fun _ _ valid written => (written.kept valid).1
  rw [frame.graph] at defined
  exact (leads.remembers sound).hasSucceeded (succeeded join defined named nodeId cited)

/-- In a complete execution every join has succeeded. -/
theorem complete_joinSucceeded {execution : GraphExecution} (valid : execution.Valid)
    (complete : ∀ node ∈ execution.nodes, node.state = .succeeded) (joinNodeId : GraphNodeId) :
    execution.JoinSucceeded joinNodeId := by
  have each : ∀ nodeId ∈ execution.graph.nodes.map (·.id), execution.HasSucceeded nodeId := by
    intro nodeId defined
    obtain ⟨node, member, rfl⟩ := List.mem_map.mp ((valid.aligned.same nodeId).mpr defined)
    exact ⟨node, find_of_mem valid.aligned.distinct member, complete node member⟩
  have graph := WorkflowGraph.validate_valid valid.graph
  intro join member _ nodeId cited
  rcases List.mem_cons.mp cited with rfl | needed
  · exact each _ (List.mem_map_of_mem member)
  · obtain ⟨_, other, known, rfl⟩ := graph.known join member nodeId needed
    exact each _ (List.mem_map_of_mem known)

/-- A redrafted catalog cites what was cited, or complete executions. -/
theorem Referenced.citesRedrafted (referenced : Referenced db) {catalog : M3Catalog} (cites : CitesComplete db catalog) :
    catalog.CitesSucceeded (storedExecutions db) := by
  intro document member version listed execution stored source joinNodeId joined
  rcases cites document member version listed (by rw [source]; rfl) with
    ⟨old, kept, origin, inside, same, node⟩ | ⟨complete, known, named, each⟩
  · exact referenced.cites old kept origin inside execution stored (same.trans source) joinNodeId (node ▸ joined)
  · have alike : complete.id = execution.id := Option.some.inj (named.symm.trans source)
    obtain rfl : complete = execution := by
      have found := find_of_mem referenced.sound.ids known
      rw [alike, find_of_mem referenced.sound.ids stored] at found
      exact (Option.some.inj found).symm
    exact complete_joinSucceeded (GraphExecution.validate_iff.mp (referenced.sound.validExecution known)) each joinNodeId

omit [Sha256] in
theorem unconfigured_meetings {catalog : M3Catalog} (unconfigured : m3IsUnconfigured catalog = true) :
    catalog.meetings = ⟨[], []⟩ ∧ (catalog.office.petProfiles = [] ∨ catalog.office.petProfiles = [builtinPetProfile] ∨
      catalog.office.petProfiles = [legacyDesktopProfile]) := by
  simp only [m3IsUnconfigured, Bool.or_eq_true, Bool.and_eq_true, decide_eq_true_eq] at unconfigured
  rcases unconfigured with rfl | ⟨⟨⟨⟨profiles, _⟩, _⟩, meetings⟩, _⟩
  · exact ⟨rfl, .inl rfl⟩
  · exact ⟨meetings, .inr profiles⟩

/-- The first project belongs to a store without executions, and is valid with either of the built-in profiles. -/
theorem Referenced.prepared (referenced : Referenced db) {ids : MvpDraftIds} {directory : Bool}
    {projectName workspaceRoot codexModel agyModel : String} {draft : MvpDraft}
    (made : MvpDraft.prepare ids directory projectName workspaceRoot codexModel agyModel = .ok draft)
    (unconfigured : m3IsUnconfigured db.m3.content = true) :
    M3State.validate ⟨keepProfiles draft.m3 db.m3.content, storedExecutions db⟩ draft.identity = .ok () := by
  obtain ⟨meetings, profiles⟩ := unconfigured_meetings unconfigured
  have empty : storedExecutions db = [] := by
    have consistent := referenced.consistent
    simp only [M3State.validate, bind_ok, exists_unit, mapError_ok, forEach_ok, validateExecution, rejectIf_ok, meetings,
      List.map_nil, decide_eq_false_iff_not, not_not] at consistent
    obtain ⟨_, _, _, _, _, executions, _⟩ := consistent
    refine List.eq_nil_iff_forall_not_mem.mpr fun execution member => ?_
    cases (executions execution member).2.1
  simp only [MvpDraft.prepare, bind_ok, exists_unit, pure_ok] at made
  obtain ⟨_, checked, rfl⟩ := made
  simp only [MvpDraft.validate, bind_ok, exists_unit, mapError_ok] at checked
  obtain ⟨identity, office, meeting⟩ := checked
  rw [empty]
  -- both profiles have the id that the assignments of the draft name
  have kept : keepProfiles ⟨MvpDraft.draftOffice ids, MvpDraft.draftMeetings ids, ⟨[], [], []⟩⟩ db.m3.content =
        ⟨MvpDraft.draftOffice ids, MvpDraft.draftMeetings ids, ⟨[], [], []⟩⟩ ∨
      keepProfiles ⟨MvpDraft.draftOffice ids, MvpDraft.draftMeetings ids, ⟨[], [], []⟩⟩ db.m3.content =
        ⟨{ MvpDraft.draftOffice ids with petProfiles := [legacyDesktopProfile] }, MvpDraft.draftMeetings ids,
          ⟨[], [], []⟩⟩ := by
    unfold keepProfiles
    rcases profiles with none | builtin | legacy
    · rw [none]
      exact .inl rfl
    · rw [builtin]
      exact .inl rfl
    · rw [legacy]
      exact .inr rfl
  rcases kept with kept | kept
  · rw [kept]
    simp only [M3State.validate, bind_ok, exists_unit, mapError_ok]
    exact ⟨identity, office, meeting, rfl, rfl, rfl, rfl, rfl⟩
  · rw [kept]
    simp only [M3State.validate, bind_ok, exists_unit, mapError_ok]
    exact ⟨identity, office, meeting, rfl, rfl, rfl, rfl, rfl⟩

end Steps

section Changes

open M3State

variable [Sha256] [SerdeJson] {db after : Database}

theorem Cancels.consistentAfter {now : Nat} {row : StagedRow} {reason : String} {run : Run} {plan : ProviderLaunchPlan}
    {graphRow : GraphRow} {execution : GraphExecution}
    (cancels : Cancels db now row reason run plan graphRow execution after) (sound : SoundGraphs db) :
    M3State.validate ⟨after.m3.content, storedExecutions after⟩ after.identity.content = .ok () := by
  have stored := sound _ _ cancels.stored
  have written : Written graphRow.execution execution := .cancelled cancels.cancelled
  have same : execution.id = plan.executionId :=
    (written.kept stored.valid).1.id.trans (stored.id.symm.trans (Table.find?_key cancels.stored))
  have consistent := cancels.consistent
  obtain ⟨_, _, _, rfl⟩ := cancels.left
  exact validate_perm consistent (stored_replaced sound (same ▸ cancels.stored) rfl)

theorem MayCancel.consistentAfter {now : Nat} {requestId : ApprovalRequestId} {reason : String}
    (cancels : MayCancel db now requestId reason after) (sound : SoundGraphs db)
    (consistent : M3State.validate ⟨db.m3.content, storedExecutions db⟩ db.identity.content = .ok ()) :
    M3State.validate ⟨after.m3.content, storedExecutions after⟩ after.identity.content = .ok () := by
  rcases cancels with ⟨rfl, _⟩ | ⟨_, _, _, _, _, _, cancels⟩
  · exact consistent
  · exact cancels.consistentAfter sound

theorem CancelsSome.consistentAfter {now : Nat} (cancels : CancelsSome now db after) (sound : SoundGraphs db)
    (consistent : M3State.validate ⟨db.m3.content, storedExecutions db⟩ db.identity.content = .ok ()) :
    M3State.validate ⟨after.m3.content, storedExecutions after⟩ after.identity.content = .ok () := by
  induction cancels with
  | refl => exact consistent
  | tail reached last ih =>
    obtain ⟨_, _, cancels⟩ := last
    exact cancels.consistentAfter ((CancelsSome.graphsFollow reached sound).sound sound) ih

/-- The two commands that check their document by itself are given one that fits the stored ones. -/
def keepsReferences (db : Database) : Action → Bool
  | .command (.replaceM3Catalog command) =>
    decide (db.m3.revision ≠ command.expectedRevision) ||
      !isOk (validateM3Catalog command.catalog db.identity.content) ||
      (isOk (M3State.validate ⟨command.catalog, storedExecutions db⟩ db.identity.content) &&
        decide (command.catalog.CitesSucceeded (storedExecutions db)))
  | .command (.createGraphExecution _ submitted) =>
    (db.graphs.find? submitted.id).isSome || !isOk (sanitizeExecution submitted).validate ||
      decide (sqlLimit ≤ submitted.revision) ||
      isOk (M3State.validate ⟨db.m3.content, storedExecutions db ++ [sanitizeExecution submitted]⟩ db.identity.content)
  | _ => true

omit [SerdeJson] in
theorem keepsReferences_m3 {command : ReplaceM3CatalogCommand}
    (keeps : keepsReferences db (.command (.replaceM3Catalog command)) = true)
    (expected : db.m3.revision = command.expectedRevision)
    (valid : validateM3Catalog command.catalog db.identity.content = .ok ()) :
    M3State.validate ⟨command.catalog, storedExecutions db⟩ db.identity.content = .ok () ∧
      command.catalog.CitesSucceeded (storedExecutions db) := by
  simp only [keepsReferences, expected, ne_eq, not_true_eq_false, decide_false, valid, isOk_ok, Bool.not_true,
    Bool.or_self, Bool.false_or, Bool.and_eq_true, decide_eq_true_eq, isOk_unit] at keeps
  exact keeps

omit [SerdeJson] in
theorem keepsReferences_graph {now : Nat} {submitted : GraphExecution}
    (keeps : keepsReferences db (.command (.createGraphExecution now submitted)) = true)
    (fresh : db.graphs.find? submitted.id = none) (valid : (sanitizeExecution submitted).validate = .ok ())
    (bounded : submitted.revision < sqlLimit) :
    M3State.validate ⟨db.m3.content, storedExecutions db ++ [sanitizeExecution submitted]⟩ db.identity.content =
      .ok () := by
  simp only [keepsReferences, fresh, Option.isSome_none, valid, Nat.not_le.mpr bounded, decide_false, isOk_ok,
    Bool.not_true, Bool.or_self, Bool.false_or, isOk_unit] at keeps
  exact keeps

omit [Sha256] [SerdeJson] in
theorem allProceed_same (same : after.graphs = db.graphs) :
    AllProceed (storedExecutions db) (storedExecutions after) := by
  unfold storedExecutions
  rw [same]
  exact ⟨.refl _, fun execution member => ⟨execution, member, rfl, rfl, rfl, fun _ _ found _ => found⟩⟩

/-- One change keeps the stored state valid. -/
theorem Change.consistentAfter {action : Action} (change : Change db action after) (referenced : Referenced db)
    (keeps : keepsReferences db action = true) :
    M3State.validate ⟨after.m3.content, storedExecutions after⟩ after.identity.content = .ok () := by
  have sound := referenced.sound
  have soundAfter := (change.graphsFollow sound).sound sound
  have catalogValid := change.catalogValid (validate_identity referenced.consistent)
  cases change with
  | quiet | shifted | requested | consumed => exact referenced.consistent
  | replacedCatalog events valid kept idle consistent => exact consistent
  | replacedM3 events expected valid => exact (keepsReferences_m3 keeps expected valid).1
  | prepared events made initial unconfigured => exact referenced.prepared made unconfigured
  | accepted events made consistent m3Bounded graphBounded inserted =>
    exact validate_perm consistent (stored_inserted inserted rfl)
  | storedM3 stored =>
    obtain ⟨consistent, _, _, rfl⟩ := stored
    exact consistent
  | reported events valid reports =>
    exact referenced.proceeds soundAfter rfl (allProceed_same rfl) reports.keepsEntities valid
  | @createdGraph now submitted graphs events valid bounded inserted =>
    have consistent := keepsReferences_graph keeps (Table.insert_fresh inserted) valid bounded
    exact validate_perm consistent
      (@stored_inserted db _ (sanitizeExecution submitted) graphs now inserted rfl)
  | @restartedGraph now restartedId originalId expected row baseline restarted graphs events found decided same made
      bounded inserted =>
    have fresh : restarted.id ∉ (storedExecutions db).map (·.id) := by
      intro listed
      obtain ⟨execution, member, named⟩ := List.mem_map.mp listed
      obtain ⟨old, inside, rfl⟩ := mem_storedExecutions.mp member
      have located := Table.find?_mem inside
      rw [(sound.member inside).id, named, Table.insert_fresh inserted] at located
      cases located
    have like : row.execution ∈ storedExecutions db :=
      mem_storedExecutions.mpr ⟨row, Table.mem_of_find? found, rfl⟩
    have valid := GraphExecution.validate_iff.mpr (GraphExecution.restartAs_valid made)
    obtain ⟨graph, outputs⟩ := GraphExecution.restartAs_outline made
    exact validate_perm (validate_append referenced.consistent like valid graph outputs fresh)
      (stored_inserted inserted rfl)
  | worked stored works =>
    obtain ⟨found, _, _, bounded, _, rfl⟩ := stored
    exact referenced.proceeds soundAfter rfl
      (stored_proceeds sound found (works.written.proceeds (sound _ _ found).valid works.outputs) rfl)
      ⟨rfl, List.Subset.refl _⟩ catalogValid
  | @begun now ids id command expected middle events begun serving attended current left =>
    have stages := Beginning.stages left
    have moves := (occupyNode_written begun.occupied).proceeds (sound _ _ begun.found).valid
      (occupyNode_outputs begun.occupied)
    refine referenced.proceeds soundAfter (congrArg Versioned.content stages.m3)
      (stored_proceeds sound begun.found moves stages.graphs) ?_ catalogValid
    show KeepsEntities _ middle.identity.content
    rw [stages.identity]
    exact .withAttempt
  | finished events trusted finishing =>
    exact validate_perm finishing.consistent (stored_replaced sound finishing.found rfl)
  | decided issued events deciding informed =>
    rcases onDecision_ok informed with ⟨_, rfl⟩ | ⟨_, _, _, _, _, _, _, _, _, _, _, rfl⟩ | ⟨_, cancels⟩
    · exact referenced.consistent
    · exact referenced.consistent
    · exact cancels.consistentAfter sound referenced.consistent
  | cancelled events cancels =>
    exact cancels.consistentAfter sound referenced.consistent
  | revoked events spent cancels =>
    exact cancels.consistentAfter sound referenced.consistent
  | claimed events claiming =>
    have written : Written claiming.row.execution claiming.execution := .activated claiming.activated
    have outputs : claiming.execution.outputs = claiming.row.execution.outputs := by
      obtain ⟨_, _, _, _, _, same⟩ := GraphExecution.activateStagedNode_ok claiming.activated
      rw [same]
      rfl
    exact referenced.proceeds soundAfter rfl
      (stored_proceeds sound claiming.found (written.proceeds (sound _ _ claiming.found).valid outputs) rfl)
      (.updateRun fun _ => rfl) catalogValid
  | abandoned events abandoning =>
    have written : Written abandoning.row.execution abandoning.execution := .finished abandoning.ended
    have moves := written.proceeds (sound _ _ abandoning.found).valid (finishTerminal_outputs abandoning.ended)
    exact referenced.proceeds soundAfter rfl (stored_proceeds sound abandoning.found moves rfl)
      (.updateRun fun _ => rfl) catalogValid
  | @recovered now _ revision events middle proved valid recoverable revised expired =>
    have first := recovered_graphsFollow now ⟨bump db.daemon.revision, .recovering⟩ revision middle recoverable
    have consistent := referenced.proceeds (first.sound sound) rfl
      (recovered_proceeds sound now ⟨bump db.daemon.revision, .recovering⟩ revision middle) (.recovered (timestamp now))
      valid
    exact expired.consistentAfter (first.sound sound) consistent

/-- One change leaves document versions that cite what has succeeded. -/
theorem Change.citesAfter {action : Action} (change : Change db action after) (referenced : Referenced db)
    (keeps : keepsReferences db action = true) : after.m3.content.CitesSucceeded (storedExecutions after) := by
  have follow := change.graphsFollow referenced.sound
  have same : after.m3 = db.m3 → after.m3.content.CitesSucceeded (storedExecutions after) := by
    intro kept
    rw [kept]
    exact referenced.citesFollow follow
  cases change with
  | replacedM3 events expected valid => exact (keepsReferences_m3 keeps expected valid).2
  | prepared events made initial unconfigured =>
    simp only [MvpDraft.prepare, bind_ok, exists_unit, pure_ok] at made
    obtain ⟨_, _, rfl⟩ := made
    intro document member
    unfold keepProfiles at member
    split at member <;> cases member
  | accepted events made consistent m3Bounded graphBounded inserted =>
    obtain ⟨_, _, _, _, _, rfl⟩ := Core.acceptMvpDecision_ok made
    exact referenced.citesFollow follow
  | storedM3 stored drafts =>
    obtain ⟨_, _, _, rfl⟩ := stored
    exact referenced.citesRedrafted drafts.citesComplete
  | worked stored =>
    obtain ⟨_, _, _, _, _, rfl⟩ := stored
    exact same rfl
  | finished events trusted finishing =>
    show finishing.finished.m3.CitesSucceeded _
    rw [finishing.m3Made]
    exact referenced.citesFollow follow
  | begun events begun serving attended current left => exact same (Beginning.stages left).m3
  | decided issued events deciding informed => exact same (onDecision_spares informed).m3
  | cancelled events cancels => exact same cancels.spares.m3
  | revoked events spent cancels => exact same cancels.spares.m3
  | recovered events middle proved valid recoverable revised expired => exact same expired.spares.m3
  | _ => exact same rfl

end Changes

section Runs

variable [Sha256] [SerdeJson]

theorem Referenced.fresh : Referenced Database.fresh where
  sound := SoundGraphs.fresh
  consistent := rfl
  cites _ member := by cases member

theorem Referenced.next (process : DaemonProcess) (action : Action) (keeps : keepsReferences process.db action = true)
    (referenced : Referenced process.db) : Referenced (process.next action).db := by
  rcases process.next_change action with same | change
  · rw [same]
    exact referenced
  · exact ⟨(change.graphsFollow referenced.sound).sound referenced.sound, change.consistentAfter referenced keeps,
      change.citesAfter referenced keeps⟩

/-- The stored documents stay valid together, as long as each M3 catalog and each execution that is stored as it is
submitted fits the others. -/
theorem cross_catalog_consistency (actions : List Action)
    (permitted : Machine.Allowed DaemonProcess.next
      (fun process action => keepsReferences process.db action = true) .fresh actions) :
    M3State.validate ⟨(DaemonProcess.fresh.run actions).db.m3.content,
      storedExecutions (DaemonProcess.fresh.run actions).db⟩ (DaemonProcess.fresh.run actions).db.identity.content =
        .ok () := by
  have reached : Referenced (DaemonProcess.fresh.run actions).db :=
    Machine.allowed_run_preserves Referenced.next Referenced.fresh permitted
  exact reached.consistent

end Runs

section Submitted

/-- A second execution of the graph that the decision of `firstRun` starts. -/
def submittedExecution : GraphExecution :=
  ⟨nth 40, researchGraph ⟨nth 20, nth 21, nth 22, nth 23, nth 24⟩ (nth 4) (nth 5) (nth 6),
    [⟨nth 21, .pending, none, 0, none, none⟩, ⟨nth 22, .pending, none, 0, none, none⟩,
      ⟨nth 23, .pending, none, 0, none, none⟩], [], none, 0⟩

/-- The execution is submitted after the decision, and the M3 catalog before it. -/
def submittedInOrder : List Action :=
  [.command (.replaceM3Catalog ⟨0, .empty⟩),
    .command (.prepareMvp ⟨nth 1, nth 2, nth 3, (nth 4, nth 5), nth 6, nth 7, nth 8, nth 9, nth 10, nth 11, nth 12,
      nth 13, nth 14, (nth 15, nth 16, nth 17)⟩ true ⟨0, 1, "Project", "/workspace", "gpt", "gemini"⟩),
    .command (.acceptMvpDecision 5 ⟨nth 20, nth 21, nth 22, nth 23, nth 24⟩
      ⟨2, nth 2, "Research the market.", "owner", "2026-09-03"⟩),
    .command (.createGraphExecution 6 submittedExecution)]

theorem cross_catalog_consistency_submitted :
    (fun db : Database => submittedExecution ∈ storedExecutions db ∧ @M3State.validate (.table []) ⟨db.m3.content, storedExecutions db⟩
      db.identity.content = .ok ()) (@DaemonProcess.run (.table []) SerdeJson.compact .fresh submittedInOrder).db := by
  obtain ⟨permitted, stored⟩ :
      Machine.Allowed (@DaemonProcess.next (.table []) SerdeJson.compact)
        (fun process action => @keepsReferences (.table []) process.db action = true) .fresh submittedInOrder ∧
      submittedExecution ∈
        storedExecutions (@DaemonProcess.run (.table []) SerdeJson.compact .fresh submittedInOrder).db := by
    decide +kernel
  exact ⟨stored, @cross_catalog_consistency (.table []) SerdeJson.compact submittedInOrder permitted⟩

/-- The execution is stored before the decision it cites was taken. -/
theorem cross_catalog_consistency_fails :
    (fun db : Database => storedExecutions db = [submittedExecution] ∧ @M3State.validate (.table [])
      ⟨db.m3.content, storedExecutions db⟩ db.identity.content = .error .missingDecisionBaseline)
      (@DaemonProcess.run (.table []) SerdeJson.compact .fresh
        [.command (.createGraphExecution 6 submittedExecution)]).db := by
  decide +kernel

end Submitted

end Bastet.Daemon
