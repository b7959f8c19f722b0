import Bastet.Daemon.CrossCatalog
import Bastet.Daemon.ExactExpiry
import Bastet.Daemon.OutputLedger
import Bastet.Daemon.Revisions
import Bastet.Daemon.StagedSoundness

/-! What the maintenance of a store can fail for. The launches that wait never stand in its way: the expiry of the
overdue ones, and the recovery of a store that is opened again, need room in the counters and a clock that can be
stored, and documents that can be read together if a launch is overdue. -/

set_option autoImplicit false

namespace Bastet.Daemon

open Fallible Bastet.Core

section Expiry

variable [Sha256] [SerdeJson] {db : Database} {now : Nat}

/-- What is always true of a store, as far as the cancellation of launches needs it. -/
structure Maintained (db : Database) : Prop where
  staged : StagedSound db
  valid : db.identity.content.validate = .ok ()
  revised : db.identity.revision < sqlLimit

/-- The stored documents can be read, and fit one another. -/
structure Legible (db : Database) : Prop where
  readable : Readable db
  consistent : M3State.validate ⟨db.m3.content, storedExecutions db⟩ db.identity.content = .ok ()

/-- The runs that wait for their approval pass the checks that recovery makes of them. -/
theorem Maintained.proved (maintained : Maintained db) : ∀ run ∈ db.identity.content.runs,
    run.state = .awaitingApproval → run.startedAt = none → validateStagedRun db run = .ok () := fun _ member =>
  maintained.staged.recoverable (Lookup.find_of_mem (IdentityCatalog.validate_runs_distinct maintained.valid) member)

theorem Maintained.validates (maintained : Maintained db) (legible : Legible db) : Validates db :=
  ⟨legible.readable, maintained.staged.graphs, legible.consistent, fun _ => maintained.staged.proved,
    maintained.staged.launches.requests, maintained.staged.timed, maintained.revised⟩

/-- Documents with which a launch is cancelled were legible before it. -/
theorem Cancels.legible {row : StagedRow} {reason : String} {run : Run} {plan : ProviderLaunchPlan} {graphRow : GraphRow}
    {execution : GraphExecution} {after : Database}
    (cancels : Cancels db now row reason run plan graphRow execution after) (maintained : Maintained db) : Legible db where
  readable := cancels.readable
  consistent := by
    have sound := maintained.staged.graphs
    have stored := sound _ _ cancels.stored
    have same : execution.id = plan.executionId :=
      ((Written.cancelled cancels.cancelled).kept stored.valid).1.id.trans
        (stored.id.symm.trans (Table.find?_key cancels.stored))
    have located : db.graphs.find? execution.id = some graphRow := same ▸ cancels.stored
    have lapses := LapsesExactly.of_cancelled stored.valid.aligned.distinct cancels.cancelled
    have cited := (sameCited_replaced sound located lapses.cited).symm
    exact @M3State.validate_of_cited _ _ _ _ (cancelledRun db.identity.content row now) db.identity.content.sessions
      db.identity.content.runs cancels.consistent cited (fun _ member => sound.validExecution member)
      (cancelledRun_ids db.identity.content row now).symm maintained.valid

omit [Sha256] [SerdeJson] in
theorem overdueRequests_waits (launches : LaunchesSound db) : AllWait db (overdueRequests db now) := by
  intro requestId inside
  obtain ⟨row, listed, rfl⟩ := List.mem_map.mp inside
  have sorted := List.perm_insertionSort StagedRow.precedes (db.staged.rows.filter (isOverdue db now))
  obtain ⟨member, late⟩ := List.mem_filter.mp (sorted.mem_iff.mp listed)
  exact ⟨row, launches.stagedFor? member, isOverdue_waits late⟩

/-- The overdue launches can be cancelled when the clock can be stored and, unless there are none, the documents are
legible and the counters have room. -/
theorem Maintained.expire (maintained : Maintained db) (now : Nat) :
    (∃ after, Daemon.expire db now = .ok after) ↔ now < sqlLimit ∧
      (overdueRequests db now = [] ∨ Legible db ∧ Room db (overdueRequests db now)) := by
  constructor
  · rintro ⟨after, done⟩
    simp only [Daemon.expire, bind_ok, exists_unit, nowMs_ok] at done
    obtain ⟨clock, done⟩ := done
    refine ⟨clock, ?_⟩
    have waits := @overdueRequests_waits db now maintained.staged.launches
    cases overdue : overdueRequests db now with
    | nil => exact .inl rfl
    | cons first rest =>
      rw [overdue] at done waits
      have first_ := done
      simp only [foldEach, bind_ok] at first_
      obtain ⟨middle, stepped, _⟩ := first_
      obtain ⟨row, found, waiting⟩ := waits first (List.mem_cons_self ..)
      rw [cancelForRequest_waiting found waiting] at stepped
      obtain ⟨run, plan, graphRow, execution, cancels⟩ := cancelWaiting_ok waiting stepped
      have legible := cancels.legible maintained
      have store := maintained.validates legible
      have once := (@Validates.overdueRequests _ _ db now store).1
      rw [overdue] at once
      exact .inr ⟨legible, (expireEach_succeeds store once clock waits).mp ⟨after, done⟩⟩
  · rintro ⟨clock, none | ⟨legible, room⟩⟩
    · refine ⟨db, ?_⟩
      simp only [Daemon.expire, bind_ok, exists_unit, nowMs_ok, none]
      exact ⟨clock, rfl⟩
    · have store := maintained.validates legible
      obtain ⟨once, waits, _⟩ := @Validates.overdueRequests _ _ db now store
      obtain ⟨after, done⟩ := (expireEach_succeeds store once clock waits).mpr room
      simp only [Daemon.expire, bind_ok, exists_unit, nowMs_ok]
      exact ⟨after, clock, done⟩

end Expiry

section Catalogs

variable {catalog : IdentityCatalog} {run : Run}

/-- The run is one that recovery changes. -/
def isInterrupted (run : Run) : Bool :=
  !(run.state = .awaitingApproval && run.startedAt.isNone) && wasInterrupted run

theorem isInterrupted_iff :
    isInterrupted run = true ↔ ¬(run.state = .awaitingApproval ∧ run.startedAt = none) ∧ wasInterrupted run = true := by
  simp only [isInterrupted, Bool.and_eq_true, Bool.not_eq_true', Bool.and_eq_false_iff, decide_eq_false_iff_not,
    Option.isNone_eq_false_iff, Option.isSome_iff_ne_none]
  exact and_congr_left' not_and_or.symm

theorem recovered_interrupted (updatedAt : String) :
    run.recovered updatedAt = if isInterrupted run then run.enter .uncertain updatedAt else run := by
  unfold Run.recovered
  split
  · rename_i waits
    rw [if_neg fun interrupted => (isInterrupted_iff.mp interrupted).1 waits]
  · rename_i dispatched
    simp only [isInterrupted_iff, dispatched, not_false_eq_true, true_and]

/-- A run that was interrupted has started. -/
theorem isInterrupted_started (valid : catalog.validate = .ok ()) (member : run ∈ catalog.runs)
    (interrupted : isInterrupted run = true) : run.startedAt.isSome = true := by
  obtain ⟨waits, working⟩ := isInterrupted_iff.mp interrupted
  have needs := validate_started valid member
  unfold wasInterrupted at working
  split at working
  case h_1 state | h_2 state | h_3 state => exact needs (by rw [state]; rfl)
  case h_4 state => exact Option.isSome_iff_ne_none.mpr fun none => waits ⟨state, none⟩
  case h_5 => exact working
  case h_6 => cases working

/-- A catalog stays valid when other valid runs of the same ids take the place of its runs. -/
theorem validate_withRuns {runs : List Run} (valid : catalog.validate = .ok ())
    (same : runs.map (·.metadata.id.value) = catalog.runs.map (·.metadata.id.value))
    (checked : ∀ run ∈ runs, validateMetadata "Run" run.metadata = .ok () ∧ catalog.validateRun run = .ok ()) :
    ({ catalog with runs } : IdentityCatalog).validate = .ok () := by
  simp only [IdentityCatalog.validate, IdentityCatalog.validateRequiredFields, bind_ok, exists_unit, forEach_ok, same]
    at valid ⊢
  obtain ⟨references, agents, models, accounts, items, instances, projects, roles, sessions, ids, ⟨named, model, account,
    item, agent, project, role, session, _, reference⟩, validAccounts, validModels, validAgents, validSessions, _⟩ := valid
  exact ⟨references, agents, models, accounts, items, instances, projects, roles, sessions, ids, ⟨named, model, account,
    item, agent, project, role, session, fun run member => (checked run member).1, reference⟩,
    validAccounts, validModels, validAgents, validSessions, fun run member => (checked run member).2⟩

/-- The catalog that recovery leaves is valid. -/
theorem validate_recovered (valid : catalog.validate = .ok ()) (now : Nat) :
    (catalog.recovered (timestamp now)).validate = .ok () := by
  have kept : ∀ run : Run, (run.recovered (timestamp now)).metadata.id = run.metadata.id := by
    intro run
    rw [recovered_interrupted]
    split <;> rfl
  refine validate_withRuns valid ?_ fun later member => ?_
  · rw [List.map_map]
    exact List.map_congr_left fun run _ => congrArg StableId.value (kept run)
  · obtain ⟨run, inside, rfl⟩ := List.mem_map.mp member
    have started := isInterrupted_started valid inside
    simp only [IdentityCatalog.validate, IdentityCatalog.validateRequiredFields, bind_ok, exists_unit, forEach_ok]
      at valid
    obtain ⟨_, _, _, _, _, _, _, _, _, _, ⟨_, _, _, _, _, _, _, _, metadata, _⟩, _, _, _, _, runs⟩ := valid
    have named := metadata run inside
    have placed := runs run inside
    rw [recovered_interrupted]
    split
    · rename_i interrupted
      simp only [validateMetadata, nonempty, bind_ok, exists_unit, rejectIf_ok] at named
      simp only [IdentityCatalog.validateRun, bind_ok, exists_unit] at placed
      constructor
      · simp only [validateMetadata, nonempty, bind_ok, exists_unit, rejectIf_ok]
        exact ⟨named.1, timestamp_nonblank _, named.2.2⟩
      · simp only [IdentityCatalog.validateRun, bind_ok, exists_unit]
        refine ⟨placed.1, placed.2.1, rejectIf_ok.mpr ?_⟩
        have begun : run.startedAt.isNone = false := Option.isNone_eq_false_iff.mpr (started interrupted)
        show ((true && run.startedAt.isNone) || (false && run.finishedAt.isNone)) = false
        rw [begun]
        rfl
    · exact ⟨named, placed⟩

end Catalogs

section Recovered

variable {db after : Database} {now : Nat}

/-- The revision of the catalog that recovery leaves. -/
def recoveredRevision (db : Database) : Nat :=
  if interruptedRuns db.identity.content = 0 then db.identity.revision else db.identity.revision + 1

/-- The counters that recovery moves have room. -/
structure RecoveryRoom [Sha256] (db : Database) : Prop where
  daemon : bump db.daemon.revision < sqlLimit
  runs : ∀ run ∈ db.identity.content.runs, isInterrupted run = true → run.metadata.revision + 1 < 2 ^ 64
  catalog : recoveredRevision db < sqlLimit
  graphs : ∀ row ∈ db.graphs.rows, row.execution.reconcileAfterRestart.1 ≠ 0 →
    row.execution.reconcileAfterRestart.2.revision < sqlLimit

variable [Sha256] [SerdeJson]

/-- The runs can be recovered when the interrupted ones have room, given that those that wait are proved to do so. -/
theorem recoverRuns_succeeds {updatedAt : String} {runs : List Run}
    (proved : ∀ run ∈ runs, run.state = .awaitingApproval → run.startedAt = none → validateStagedRun db run = .ok ()) :
    (∃ recovered, recoverRuns db updatedAt runs = .ok recovered) ↔
      ∀ run ∈ runs, isInterrupted run = true → run.metadata.revision + 1 < 2 ^ 64 := by
  induction runs with
  | nil => simp [recoverRuns]
  | cons first rest ih =>
    obtain ⟨waits, others⟩ := List.forall_mem_cons.mp proved
    have one : (∃ later, recoverRun db updatedAt first = .ok later) ↔
        (isInterrupted first = true → first.metadata.revision + 1 < 2 ^ 64) := by
      unfold recoverRun
      rw [isInterrupted_iff]
      split
      · rename_i waiting
        simp [waiting, waits waiting.1 waiting.2]
      · rename_i dispatched
        split
        · rename_i interrupted
          simp [dispatched, interrupted]
        · rename_i idle
          simp [idle]
    rw [List.forall_mem_cons, ← one, ← ih others]
    simp only [recoverRuns, bind_ok, pure_ok]
    constructor
    · rintro ⟨_, later, recovered, remaining, done, _⟩
      exact ⟨⟨later, recovered⟩, remaining, done⟩
    · rintro ⟨⟨later, recovered⟩, remaining, done⟩
      exact ⟨_, later, recovered, remaining, done, rfl⟩

/-- The catalog that recovery leaves, and its revision. -/
theorem reconcileCatalogForRecovery_left (committed : reconcileCatalogForRecovery db now = .ok after) :
    ∃ events, after = { db with
      identity := ⟨recoveredRevision db, db.identity.content.recovered (timestamp now)⟩, events } := by
  simp only [reconcileCatalogForRecovery, bind_ok, loadCatalog_ok] at committed
  obtain ⟨_, ⟨_, rfl⟩, runs, ran, committed⟩ := committed
  obtain ⟨rfl, _⟩ := recoverRuns_ok ran
  unfold recoveredRevision
  split at committed
  · rename_i none
    rw [if_pos none, recovered_none none]
    exact ⟨_, (pure_ok.mp committed).symm⟩
  · rename_i some
    simp only [bind_ok, exists_unit, lift_ok, nextRevision_ok, writeIdentity_ok, pure_ok] at committed
    obtain ⟨_, _, ⟨_, rfl⟩, _, ⟨_, rfl⟩, rfl⟩ := committed
    rw [if_neg some]
    exact ⟨_, rfl⟩

/-- The catalog can be recovered when its counters have room. -/
theorem reconcileCatalogForRecovery_succeeds (valid : db.identity.content.validate = .ok ())
    (revised : db.identity.revision < sqlLimit)
    (proved : ∀ run ∈ db.identity.content.runs, run.state = .awaitingApproval → run.startedAt = none →
      validateStagedRun db run = .ok ()) :
    (∃ after, reconcileCatalogForRecovery db now = .ok after) ↔
      (∀ run ∈ db.identity.content.runs, isInterrupted run = true → run.metadata.revision + 1 < 2 ^ 64) ∧
      recoveredRevision db < sqlLimit := by
  rw [← @recoverRuns_succeeds db _ _ (timestamp now) _ proved]
  unfold recoveredRevision
  have loaded : loadCatalog db = .ok db.identity.content := loadCatalog_ok.mpr ⟨valid, rfl⟩
  simp only [reconcileCatalogForRecovery, loaded, ok_bind]
  constructor
  · rintro ⟨_, committed⟩
    simp only [bind_ok] at committed
    obtain ⟨runs, ran, committed⟩ := committed
    refine ⟨⟨runs, ran⟩, ?_⟩
    split
    · exact revised
    · rename_i some
      rw [if_neg some] at committed
      simp only [bind_ok, exists_unit, lift_ok, nextRevision_ok, writeIdentity_ok, pure_ok] at committed
      obtain ⟨_, _, ⟨_, rfl⟩, _, ⟨bounded, _⟩, _⟩ := committed
      exact bounded
  · rintro ⟨⟨runs, ran⟩, bounded⟩
    rw [ran, ok_bind]
    obtain ⟨rfl, _⟩ := recoverRuns_ok ran
    split at bounded
    · rename_i none
      rw [if_pos none]
      exact ⟨db, rfl⟩
    · rename_i some
      have counted : db.identity.revision + 1 < 2 ^ 64 := by
        unfold sqlLimit at bounded
        omega
      rw [if_neg some]
      simp only [bind_ok, exists_unit, lift_ok, nextRevision_ok, writeIdentity_ok, pure_ok]
      exact ⟨_, validate_recovered valid now, _, ⟨counted, rfl⟩, _, ⟨bounded, rfl⟩, rfl⟩

omit [SerdeJson] in
/-- The executions can be recovered when those that recovery writes have room. -/
theorem reconcileGraphsForRecovery_succeeds (sound : SoundGraphs db)
    (room : ∀ row ∈ db.graphs.rows, row.execution.reconcileAfterRestart.1 ≠ 0 →
      row.execution.reconcileAfterRestart.2.revision < sqlLimit) :
    ∃ after, reconcileGraphsForRecovery db now = .ok after := by
  have sorted := List.perm_insertionSort GraphRow.idPrecedes db.graphs.rows
  have each : ∀ row ∈ db.graphs.rows, ∀ store, ∃ after, reconcileGraph now store row = .ok after := by
    intro row member store
    have valid := GraphExecution.validate_iff.mpr (sound.member member).valid
    simp only [reconcileGraph, bind_ok, exists_unit, lift_ok, valid, true_and]
    split
    · exact ⟨store, rfl⟩
    · rename_i moved
      simp only [bind_ok, updateGraph_ok, pure_ok]
      exact ⟨_, _, ⟨room row member moved, rfl⟩, rfl⟩
  cases done : reconcileGraphsForRecovery db now with
  | ok after => exact ⟨after, rfl⟩
  | error error =>
    have kept : ∀ row ∈ db.graphs.rows.insertionSort GraphRow.idPrecedes, ∀ before after,
        reconcileGraph now before row = .ok after → True → True := fun _ _ _ _ _ => id
    obtain ⟨row, listed, store, _, failed⟩ := foldEach_error kept done trivial
    obtain ⟨_, stepped⟩ := each row (sorted.mem_iff.mp listed) store
    rw [failed] at stepped
    cases stepped

omit [Sha256] [SerdeJson] in
/-- The launches that are overdue are those that were overdue before the recovery. -/
theorem overdueRequests_recovered {revision : Nat} {daemon : DaemonState} {events : List String} :
    overdueRequests (db.recovered now daemon revision events) now = overdueRequests db now := by
  have late : isOverdue (db.recovered now daemon revision events) now ∘ abandonDispatch = isOverdue db now :=
    funext isOverdue_recovered
  have kept : ∀ row ∈ db.staged.rows.filter (isOverdue db now), abandonDispatch row = row := by
    intro row member
    have waits := isOverdue_waits (List.mem_filter.mp member).2
    refine if_neg fun dispatching => ?_
    rw [dispatching] at waits
    cases waits
  have rows : (db.recovered now daemon revision events).staged.rows = db.staged.rows.map abandonDispatch := by
    simp only [Database.recovered, Table.rows_updateAll]
  unfold overdueRequests
  rw [rows, List.filter_map, late, List.map_congr_left kept, List.map_id'']
  exact fun _ => rfl

/-- The store whose overdue launches are cancelled when it is opened again. -/
def Database.recoveredStore (db : Database) (now : Nat) : Database :=
  db.recovered now ⟨bump db.daemon.revision, .recovering⟩ (recoveredRevision db) db.events

omit [SerdeJson] in
/-- The log of events neither makes a store illegible nor takes room. -/
theorem legible_events {requests : List ApprovalRequestId}
    (fits : Legible db ∧ Room db requests) (events : List String) :
    Legible { db with events } ∧ Room { db with events } requests := by
  obtain ⟨⟨readable, consistent⟩, ⟨catalog, executions, runs⟩⟩ := fits
  exact ⟨⟨readable, consistent⟩, ⟨catalog, executions, runs⟩⟩

/-- Until it cancels a launch, recovery is a change of the store. -/
theorem Maintained.recovers (maintained : Maintained db) (room : RecoveryRoom db) (now : Nat) (events : List String) :
    Change db (.restart now)
      (db.recovered now ⟨bump db.daemon.revision, .recovering⟩ (recoveredRevision db) events) := by
  have recoverable : ∀ row ∈ db.graphs.rows, Recoverable row := fun row member =>
    ⟨GraphExecution.validate_iff.mpr (maintained.staged.graphs.member member).valid, room.graphs row member⟩
  have revised : RecoversRevision db (recoveredRevision db) := by
    have bounded := room.catalog
    unfold recoveredRevision at bounded ⊢
    split at bounded
    · rename_i none
      rw [if_pos none]
      exact .inl ⟨none, rfl⟩
    · rename_i some
      rw [if_neg some]
      exact .inr ⟨rfl, bounded⟩
  exact .recovered db.events events maintained.proved (validate_recovered maintained.valid now) recoverable revised .refl

theorem Maintained.recovered (maintained : Maintained db) (room : RecoveryRoom db)
    (authorised : ∀ id grant, db.grants.find? id = some grant → Authorised db id) (now : Nat) (events : List String) :
    Maintained (db.recovered now ⟨bump db.daemon.revision, .recovering⟩ (recoveredRevision db) events) where
  staged := maintained.staged.follow (maintained.recovers room now events) authorised
  valid := validate_recovered maintained.valid now
  revised := room.catalog

/-- A store can be opened again when the counters of its recovery have room, the clock can be stored and, unless no
launch is overdue, the documents are legible and the counters of the cancellations have room. -/
theorem Maintained.reopen (maintained : Maintained db)
    (authorised : ∀ id grant, db.grants.find? id = some grant → Authorised db id) (now : Nat) :
    (∃ after, Daemon.reopen db now = .ok after) ↔ RecoveryRoom db ∧ now < sqlLimit ∧
      (overdueRequests db now = [] ∨
        Legible (db.recoveredStore now) ∧ Room (db.recoveredStore now) (overdueRequests db now)) := by
  have proved := maintained.proved
  simp only [Daemon.reopen, bind_ok, exists_unit, writeDaemon_ok, nowMs_ok]
  constructor
  · rintro ⟨after, _, ⟨bounded, rfl⟩, one, catalog, two, graphs, clock, expired⟩
    have counted := (@reconcileCatalogForRecovery_succeeds
      (({ db with daemon := ⟨bump db.daemon.revision, .recovering⟩ } : Database).insertEvent "daemon.recovery_started")
      now _ _ maintained.valid maintained.revised proved).mp ⟨one, catalog⟩
    obtain ⟨_, rfl⟩ := reconcileCatalogForRecovery_left catalog
    obtain ⟨written, _, rfl⟩ := reconcileGraphsForRecovery_ok graphs
    have room : RecoveryRoom db := ⟨bounded, counted.1, counted.2, fun row member => (written row member).2⟩
    obtain ⟨events, same⟩ := reconcileClaims_eq _
    rw [same] at expired
    have progress := ((maintained.recovered room authorised now events).expire now).mp ⟨after, expired⟩
    rw [overdueRequests_recovered] at progress
    exact ⟨room, clock, progress.2.imp_right fun fits => legible_events fits db.events⟩
  · rintro ⟨room, clock, progress⟩
    obtain ⟨one, catalog⟩ := (@reconcileCatalogForRecovery_succeeds
      (({ db with daemon := ⟨bump db.daemon.revision, .recovering⟩ } : Database).insertEvent "daemon.recovery_started")
      now _ _ maintained.valid maintained.revised proved).mpr ⟨room.runs, room.catalog⟩
    obtain ⟨_, left⟩ := reconcileCatalogForRecovery_left catalog
    have same : one.graphs = db.graphs := by
      rw [left]
      rfl
    have sound : SoundGraphs one := fun id row found => maintained.staged.graphs id row (same ▸ found)
    obtain ⟨two, graphs⟩ : ∃ two, reconcileGraphsForRecovery one now = .ok two :=
      reconcileGraphsForRecovery_succeeds sound (same ▸ room.graphs)
    obtain ⟨_, _, rfl⟩ := reconcileGraphsForRecovery_ok graphs
    subst left
    obtain ⟨events, same⟩ := reconcileClaims_eq _
    rw [← @overdueRequests_recovered db now (recoveredRevision db) ⟨bump db.daemon.revision, .recovering⟩ events]
      at progress
    obtain ⟨after, expired⟩ := ((maintained.recovered room authorised now events).expire now).mpr
      ⟨clock, progress.imp_right fun fits => legible_events fits events⟩
    exact ⟨after, _, ⟨room.daemon, rfl⟩, _, catalog, _, graphs, clock, same ▸ expired⟩

end Recovered

section Reached

variable [Sha256] [SerdeJson]

theorem reached_maintained (actions : List Action) : Maintained (DaemonProcess.fresh.run actions).db where
  staged := (ContextsSound.fresh.run actions).staged
  valid := (SoundRuns.fresh.run actions).valid
  revised := by
    have reached : Versioned.Sound (DaemonProcess.fresh.run actions).db :=
      @Machine.run_preserves _ _ _ (fun process : DaemonProcess => Versioned.Sound process.db) Versioned.Sound.next _ .fresh
        actions
    exact reached.identity

/-- In every state that is reached, the overdue launches can be cancelled exactly when the clock can be stored and,
unless no launch is overdue, the documents are legible and the counters have room. -/
theorem expiry_progress (actions : List Action) (now : Nat) :
    let db := (DaemonProcess.fresh.run actions).db
    (∃ after, expire db now = .ok after) ↔ now < sqlLimit ∧
      (overdueRequests db now = [] ∨ Legible db ∧ Room db (overdueRequests db now)) :=
  (reached_maintained actions).expire now

/-- The store that any run leaves can be opened again exactly when the counters of its recovery have room, the clock can
be stored and, unless no launch is overdue, the recovered documents are legible and the counters have room. -/
theorem restart_progress (actions : List Action) (now : Nat) :
    let db := (DaemonProcess.fresh.run actions).db
    (∃ after, reopen db now = .ok after) ↔ RecoveryRoom db ∧ now < sqlLimit ∧
      (overdueRequests db now = [] ∨
        Legible (db.recoveredStore now) ∧ Room (db.recoveredStore now) (overdueRequests db now)) :=
  (reached_maintained actions).reopen
    (fun id grant found => ((ContextsSound.fresh.run actions).grants.authorised id grant found).2) now

/-- The stored documents refer to one another, and both copies of the outputs agree. -/
structure DocumentsSound (db : Database) : Prop where
  referenced : Referenced db
  agrees : LedgerAgrees db

variable {db after : Database}

omit [SerdeJson] in
theorem DocumentsSound.legible (sound : DocumentsSound db) : Legible db where
  readable execution listed := by
    obtain ⟨row, member, rfl⟩ := mem_storedExecutions.mp listed
    exact sound.agrees.validateStored sound.referenced.sound (Table.find?_mem member)
  consistent := sound.referenced.consistent

/-- A document is stored as it is submitted only if it fits the others, and brings no outputs. -/
def keepsDocuments (process : DaemonProcess) (action : Action) : Bool :=
  keepsReferences process.db action && !createsOutputs process action

theorem DocumentsSound.follow {action : Action} (sound : DocumentsSound db) (change : Change db action after)
    (keeps : keepsReferences db action = true) (agrees : LedgerAgrees after) : DocumentsSound after where
  referenced := ⟨(change.graphsFollow sound.referenced.sound).sound sound.referenced.sound,
    change.consistentAfter sound.referenced keeps, change.citesAfter sound.referenced keeps⟩
  agrees := agrees

theorem DocumentsSound.next (process : DaemonProcess) (action : Action) (permitted : keepsDocuments process action = true)
    (sound : DocumentsSound process.db) : DocumentsSound (process.next action).db := by
  simp only [keepsDocuments, Bool.and_eq_true, Bool.not_eq_true'] at permitted
  have ledger : LedgerSound process := ⟨sound.referenced.sound, sound.agrees⟩
  exact ⟨sound.referenced.next process action permitted.1, (ledger.next permitted.2).agrees⟩

/-- Recovery keeps the documents fit. -/
theorem DocumentsSound.recovered (sound : DocumentsSound db) (maintained : Maintained db) (room : RecoveryRoom db)
    (now : Nat) : DocumentsSound (db.recoveredStore now) := by
  have change := maintained.recovers room now db.events
  refine sound.follow change rfl ?_
  rcases change.agrees sound.referenced.sound sound.agrees with agrees | ⟨_, _, created, _⟩
  · exact agrees
  · cases created

/-- As long as each document is stored as it is submitted only if it fits the others, nothing but the clock and the
counters stands in the way of the expiry of launches, and of the next start. -/
theorem maintenance_progress (actions : List Action)
    (permitted : Machine.Allowed DaemonProcess.next (fun process action => keepsDocuments process action = true)
      .fresh actions) (now : Nat) :
    let db := (DaemonProcess.fresh.run actions).db
    ((∃ after, expire db now = .ok after) ↔ now < sqlLimit ∧
      (overdueRequests db now = [] ∨ Room db (overdueRequests db now))) ∧
    ((∃ after, reopen db now = .ok after) ↔ RecoveryRoom db ∧ now < sqlLimit ∧
      (overdueRequests db now = [] ∨ Room (db.recoveredStore now) (overdueRequests db now))) := by
  intro db
  have fresh : DocumentsSound DaemonProcess.fresh.db := ⟨.fresh, LedgerSound.fresh.agrees⟩
  have documents : DocumentsSound db := Machine.allowed_run_preserves DocumentsSound.next fresh permitted
  have maintained : Maintained db := reached_maintained actions
  have authorised : ∀ id grant, db.grants.find? id = some grant → Authorised db id := fun id grant found =>
    ((ContextsSound.fresh.run actions).grants.authorised id grant found).2
  rw [maintained.expire now, maintained.reopen authorised now]
  constructor
  · simp only [documents.legible, true_and]
  · refine and_congr_right fun room => ?_
    simp only [(documents.recovered maintained room now).legible, true_and]

omit [Sha256] [SerdeJson] in
/-- Five minutes after it was asked for, the approved launch of `accountRun` is overdue, and the counters have room. -/
theorem maintenance_progress_readyRun : overdueRequests readyRun.db 300006 ≠ [] ∧
    Room readyRun.db (overdueRequests readyRun.db 300006) ∧
    @RecoveryRoom accountDigests readyRun.db ∧
    Room (readyRun.db.recoveredStore 300006) (overdueRequests readyRun.db 300006) := by
  obtain ⟨permitted, overdue, expires, reopens⟩ :
      Machine.Allowed (@DaemonProcess.next accountDigests firstField)
        (fun process action => @keepsDocuments accountDigests process action = true) .fresh (accountRun.take 6) ∧
      overdueRequests readyRun.db 300006 ≠ [] ∧ isOk (@expire accountDigests firstField readyRun.db 300006) = true ∧
      isOk (@reopen accountDigests firstField readyRun.db 300006) = true := by
    decide +kernel
  obtain ⟨expiry, restart⟩ := @maintenance_progress accountDigests firstField (accountRun.take 6) permitted 300006
  obtain ⟨_, room⟩ := expiry.mp (isOk_iff.mp expires)
  obtain ⟨recovery, _, later⟩ := restart.mp (isOk_iff.mp reopens)
  exact ⟨overdue, room.resolve_left overdue, recovery, later.resolve_left overdue⟩

end Reached

end Bastet.Daemon
