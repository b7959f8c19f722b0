import Bastet.Daemon.GrantEffects

/-! What a committed recovery did: every run, node and dispatch that was at work is
uncertain, and the launches that are overdue are cancelled. -/

set_option autoImplicit false

namespace Bastet.Core

open Bastet.Daemon

/-- A run as recovery leaves it. -/
def Run.recovered (updatedAt : String) (run : Run) : Run :=
  if run.state = .awaitingApproval ∧ run.startedAt = none then run
  else if wasInterrupted run then run.enter .uncertain updatedAt
  else run

def IdentityCatalog.recovered (updatedAt : String) (self : IdentityCatalog) : IdentityCatalog :=
  { self with runs := self.runs.map (Run.recovered updatedAt) }

end Bastet.Core

namespace Bastet.Daemon

open Fallible Bastet.Core

/-- A stored execution as recovery leaves it. -/
def GraphRow.reconciled (now : Nat) (row : GraphRow) : GraphRow :=
  if row.execution.reconcileAfterRestart.1 = 0 then row
  else row.store row.execution.reconcileAfterRestart.2 (timestamp now)

theorem GraphRow.reconciled_executionId (now : Nat) (row : GraphRow) :
    (row.reconciled now).executionId = row.executionId := by
  unfold reconciled
  split <;> rfl

theorem reconcile_none {execution : GraphExecution} (none : execution.reconcileAfterRestart.1 = 0) :
    execution.reconcileAfterRestart.2 = execution := by
  have idle : ∀ node ∈ execution.nodes, GraphExecution.reconcileNode node = node := by
    intro node member
    have unmoved := List.countP_eq_zero.mp none node member
    exact if_neg (by simpa using unmoved)
  simp only [GraphExecution.reconcileAfterRestart] at none ⊢
  rw [none, List.map_congr_left idle, List.map_id'']
  · rfl
  · exact fun _ => rfl

theorem GraphRow.reconciled_execution (now : Nat) (row : GraphRow) :
    (row.reconciled now).execution = row.execution.reconcileAfterRestart.2 := by
  unfold reconciled
  split
  · rename_i none
    exact (reconcile_none none).symm
  · rfl

variable [Sha256] {db after : Database}

/-- Recovery goes through the rows one after another; each is changed once. -/
theorem reconcileEach_ok {now : Nat} {rows : List GraphRow} (distinct : (rows.map GraphRow.executionId).Nodup)
    (stored : ∀ row ∈ rows, db.graphs.find? row.executionId = some row)
    (committed : foldEach (reconcileGraph now) rows db = .ok after) :
    (∀ row ∈ rows, row.execution.validate = .ok () ∧
      (row.execution.reconcileAfterRestart.1 ≠ 0 → row.execution.reconcileAfterRestart.2.revision < sqlLimit)) ∧
    ∃ graphs events, after = { db with graphs, events } ∧
      graphs.rows.map GraphRow.executionId = db.graphs.rows.map GraphRow.executionId ∧
      ∀ id, graphs.find? id = if id ∈ rows.map GraphRow.executionId then (db.graphs.find? id).map (GraphRow.reconciled now)
        else db.graphs.find? id := by
  induction rows generalizing db with
  | nil =>
    obtain rfl := Except.ok.inj committed
    exact ⟨nofun, _, _, rfl, rfl, by simp⟩
  | cons first rest ih =>
    obtain ⟨fresh, others⟩ := List.nodup_cons.mp distinct
    simp only [foldEach, bind_ok] at committed
    obtain ⟨middle, stepped, remaining⟩ := committed
    have found := stored first (List.mem_cons_self ..)
    obtain ⟨checks, graphs, events, rfl, keys, lookup⟩ : (first.execution.validate = .ok () ∧
        (first.execution.reconcileAfterRestart.1 ≠ 0 →
          first.execution.reconcileAfterRestart.2.revision < sqlLimit)) ∧
        ∃ graphs events, middle = { db with graphs, events } ∧
          graphs.rows.map GraphRow.executionId = db.graphs.rows.map GraphRow.executionId ∧
          ∀ id, graphs.find? id = if id = first.executionId then some (first.reconciled now) else db.graphs.find? id := by
      simp only [reconcileGraph, bind_ok, exists_unit, lift_ok] at stepped
      obtain ⟨valid, stepped⟩ := stepped
      split at stepped
      · rename_i idle
        refine ⟨⟨valid, fun moved => absurd idle moved⟩, _, _, (pure_ok.mp stepped).symm, rfl, fun id => ?_⟩
        by_cases same : id = first.executionId
        · rw [if_pos same, same, found, GraphRow.reconciled, if_pos idle]
        · rw [if_neg same]
      · rename_i moved
        simp only [bind_ok, updateGraph_ok, pure_ok] at stepped
        obtain ⟨_, ⟨bounded, rfl⟩, rfl⟩ := stepped
        refine ⟨⟨valid, fun _ => bounded⟩, _, _, rfl, ?_, fun id => ?_⟩
        · dsimp only
          rw [Table.keys_update]
        by_cases same : id = first.executionId
        · rw [if_pos same, same, GraphRow.reconciled, if_neg moved]
          dsimp only
          rw [Table.find?_update_self, found, Option.map_some]
        · rw [if_neg same]
          dsimp only
          rw [Table.find?_update_of_ne same]
    have kept : ∀ row ∈ rest, graphs.find? row.executionId = some row := by
      intro row member
      have apart : row.executionId ≠ first.executionId := fun same =>
        fresh (List.mem_map.mpr ⟨row, member, same⟩)
      rw [lookup, if_neg apart]
      exact stored row (List.mem_cons_of_mem _ member)
    obtain ⟨valid, graphs', events', rfl, keys', lookup'⟩ := ih others kept remaining
    refine ⟨List.forall_mem_cons.mpr ⟨checks, valid⟩, graphs', events', rfl, keys'.trans keys, fun id => ?_⟩
    rw [lookup', lookup, List.map_cons]
    by_cases same : id = first.executionId
    · subst same
      rw [if_neg fresh, if_pos rfl, if_pos (List.mem_cons_self ..), found, Option.map_some]
    · rw [if_neg same]
      simp [same]

theorem reconcileGraphsForRecovery_ok {now : Nat} (committed : reconcileGraphsForRecovery db now = .ok after) :
    (∀ row ∈ db.graphs.rows, row.execution.validate = .ok () ∧
      (row.execution.reconcileAfterRestart.1 ≠ 0 → row.execution.reconcileAfterRestart.2.revision < sqlLimit)) ∧
    ∃ events, after = { db with
      graphs := db.graphs.updateAll (GraphRow.reconciled now) (GraphRow.reconciled_executionId now)
      events } := by
  have sorted := List.perm_insertionSort GraphRow.idPrecedes db.graphs.rows
  have distinct : ((db.graphs.rows.insertionSort GraphRow.idPrecedes).map GraphRow.executionId).Nodup :=
    (sorted.map _).nodup_iff.mpr db.graphs.distinct
  have stored : ∀ row ∈ db.graphs.rows.insertionSort GraphRow.idPrecedes,
      db.graphs.find? row.executionId = some row :=
    fun row member => Table.find?_mem (sorted.mem_iff.mp member)
  obtain ⟨valid, graphs, events, rfl, keys, lookup⟩ := reconcileEach_ok distinct stored committed
  refine ⟨fun row member => valid row (sorted.mem_iff.mpr member), events, ?_⟩
  have same : graphs = db.graphs.updateAll (GraphRow.reconciled now) (GraphRow.reconciled_executionId now) := by
    apply Table.ext_find?
    · rw [keys, Table.rows_updateAll, List.map_map]
      exact List.map_congr_left fun row _ => (GraphRow.reconciled_executionId now row).symm
    · intro id
      rw [lookup, Table.find?_updateAll]
      split
      · rfl
      · rename_i absent
        have unknown : db.graphs.find? id = none :=
          Table.find?_none.mpr fun member => absent ((sorted.map _).mem_iff.mpr member)
        rw [unknown]
        rfl
  rw [same]

variable [SerdeJson]

theorem recoverRuns_ok {updatedAt : String} {runs recovered : List Run}
    (done : recoverRuns db updatedAt runs = .ok recovered) :
    recovered = runs.map (Run.recovered updatedAt) ∧
      ∀ run ∈ runs, run.state = .awaitingApproval → run.startedAt = none → validateStagedRun db run = .ok () := by
  induction runs generalizing recovered with
  | nil => exact ⟨(pure_ok.mp done).symm, nofun⟩
  | cons first rest ih =>
    simp only [recoverRuns, recoverRun, bind_ok, pure_ok] at done
    obtain ⟨run, one, others, remaining, rfl⟩ := done
    obtain ⟨rfl, proved⟩ := ih remaining
    split at one
    · rename_i waiting
      simp only [bind_ok, exists_unit, pure_ok] at one
      obtain ⟨valid, rfl⟩ := one
      refine ⟨by rw [List.map_cons, Run.recovered, if_pos waiting], ?_⟩
      exact List.forall_mem_cons.mpr ⟨fun _ _ => valid, proved⟩
    · rename_i moved
      have skipped : first.state = .awaitingApproval → first.startedAt = none → validateStagedRun db first = .ok () :=
        fun state start => absurd ⟨state, start⟩ moved
      refine ⟨?_, List.forall_mem_cons.mpr ⟨skipped, proved⟩⟩
      rw [List.map_cons, Run.recovered, if_neg moved]
      split at one
      · rename_i interrupted
        simp only [bind_ok, pure_ok] at one
        obtain ⟨_, _, rfl⟩ := one
        rw [if_pos interrupted]
      · rename_i idle
        obtain rfl := pure_ok.mp one
        rw [if_neg idle]

omit [Sha256] [SerdeJson] in
theorem recovered_none {catalog : IdentityCatalog} (none : interruptedRuns catalog = 0) (updatedAt : String) :
    catalog.recovered updatedAt = catalog := by
  have idle : ∀ run ∈ catalog.runs, Run.recovered updatedAt run = run := by
    intro run member
    have unmoved := List.countP_eq_zero.mp none run member
    unfold Run.recovered
    split
    · rfl
    · rename_i moved
      rw [if_neg]
      intro interrupted
      apply unmoved
      simp only [interrupted, Bool.and_true, Bool.not_eq_eq_eq_not, Bool.not_true, Bool.and_eq_false_iff,
        decide_eq_false_iff_not, Option.isNone_eq_false_iff]
      by_cases waiting : run.state = .awaitingApproval
      · exact .inr (Option.isSome_iff_ne_none.mpr fun start => moved ⟨waiting, start⟩)
      · exact .inl waiting
  unfold IdentityCatalog.recovered
  rw [List.map_congr_left idle, List.map_id'']
  exact fun _ => rfl

/-- The revision of the catalog after recovery: the next one if a run was at work. -/
def RecoversRevision (db : Database) (revision : Nat) : Prop :=
  (interruptedRuns db.identity.content = 0 ∧ revision = db.identity.revision) ∨
    (revision = db.identity.revision + 1 ∧ revision < sqlLimit)

/-- The catalog after recovery is valid; an undispatched run was proved to wait. -/
theorem reconcileCatalogForRecovery_ok {now : Nat} (committed : reconcileCatalogForRecovery db now = .ok after) :
    (∀ run ∈ db.identity.content.runs, run.state = .awaitingApproval → run.startedAt = none →
      validateStagedRun db run = .ok ()) ∧
    (db.identity.content.recovered (timestamp now)).validate = .ok () ∧
    ∃ revision events, RecoversRevision db revision ∧
      after = { db with identity := ⟨revision, db.identity.content.recovered (timestamp now)⟩, events } := by
  simp only [reconcileCatalogForRecovery, bind_ok, loadCatalog_ok] at committed
  obtain ⟨_, ⟨valid, rfl⟩, runs, ran, committed⟩ := committed
  obtain ⟨rfl, proved⟩ := recoverRuns_ok ran
  refine ⟨proved, ?_⟩
  split at committed
  · rename_i none
    rw [recovered_none none]
    exact ⟨valid, _, _, .inl ⟨none, rfl⟩, (pure_ok.mp committed).symm⟩
  · simp only [bind_ok, exists_unit, lift_ok, nextRevision_ok, writeIdentity_ok, pure_ok] at committed
    obtain ⟨recovered, _, ⟨_, rfl⟩, _, ⟨bounded, rfl⟩, rfl⟩ := committed
    exact ⟨recovered, _, _, .inr ⟨rfl, bounded⟩, rfl⟩

/-- The database between the recovery of its documents and the expiry of overdue launches. -/
def Database.recovered (db : Database) (now : Nat) (daemon : DaemonState) (revision : Nat) (events : List String) :
    Database :=
  { db with
    daemon
    identity := ⟨revision, db.identity.content.recovered (timestamp now)⟩
    graphs := db.graphs.updateAll (GraphRow.reconciled now) (GraphRow.reconciled_executionId now)
    staged := db.staged.updateAll abandonDispatch abandonDispatch_runId
    events }

omit [Sha256] [SerdeJson] in
theorem reconcileClaims_eq (db : Database) : ∃ events, reconcileClaims db =
    { db with staged := db.staged.updateAll abandonDispatch abandonDispatch_runId, events } := by
  unfold reconcileClaims
  simp only
  split
  · exact ⟨_, rfl⟩
  · exact ⟨_, rfl⟩

/-- A stored execution is valid, and its next revision can be stored if recovery makes one. -/
def Recoverable (row : GraphRow) : Prop :=
  row.execution.validate = .ok () ∧
    (row.execution.reconcileAfterRestart.1 ≠ 0 → row.execution.reconcileAfterRestart.2.revision < sqlLimit)

theorem reopen_ok {now : Nat} (committed : reopen db now = .ok after) :
    ∃ revision events events',
      (∀ run ∈ db.identity.content.runs, run.state = .awaitingApproval → run.startedAt = none →
        validateStagedRun { db with daemon := ⟨bump db.daemon.revision, .recovering⟩, events } run = .ok ()) ∧
      (db.identity.content.recovered (timestamp now)).validate = .ok () ∧
      (∀ row ∈ db.graphs.rows, Recoverable row) ∧ RecoversRevision db revision ∧
      expire (db.recovered now ⟨bump db.daemon.revision, .recovering⟩ revision events') now = .ok after := by
  simp only [reopen, bind_ok, exists_unit, writeDaemon_ok] at committed
  obtain ⟨_, ⟨_, rfl⟩, _, catalog, _, graphs, _, expired⟩ := committed
  obtain ⟨proved, valid, revision, _, revised, rfl⟩ := reconcileCatalogForRecovery_ok catalog
  obtain ⟨recoverable, _, rfl⟩ := reconcileGraphsForRecovery_ok graphs
  obtain ⟨events', same⟩ := reconcileClaims_eq _
  rw [same] at expired
  exact ⟨revision, _, events', proved, valid, recoverable, revised, expired⟩

end Bastet.Daemon
