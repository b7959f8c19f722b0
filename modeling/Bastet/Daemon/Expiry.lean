import Bastet.Daemon.LaunchLedger

/-! The expiry of launches: every overdue launch is cancelled with its run and its node, the nodes
that depend on it are blocked, and nothing else changes. -/

set_option autoImplicit false

namespace Bastet.Daemon

open Fallible Bastet.Core

/-- The run is one of a launch that is overdue. -/
def Overdue (db : Database) (now : Nat) (runId : RunId) : Prop :=
  ∃ row, db.staged.find? runId = some row ∧ isOverdue db now row = true

/-- A row of the ledger after the cancellation of overdue launches. -/
def RowExpires (overdue : RunId → Prop) (row later : StagedRow) : Prop :=
  later.requestId = row.requestId ∧ (later = row ∨ overdue row.runId ∧ later.state = .cancelled)

/-- A run after the cancellation of overdue launches. -/
def RunExpires (overdue : RunId → Prop) (run later : Run) : Prop :=
  later = run ∨ overdue run.metadata.id ∧ run.state = .awaitingApproval ∧ run.startedAt = none ∧
    later.state = .cancelled ∧ later.startedAt = none

/-- What the cancellation of overdue launches does to the database. -/
structure Expires (overdue : RunId → Prop) (db after : Database) : Prop where
  spares : Spares db after
  requests : after.staged.rows.map (·.requestId) = db.staged.rows.map (·.requestId)
  staged : ∀ id row, db.staged.find? id = some row →
    ∃ later, after.staged.find? id = some later ∧ RowExpires overdue row later
  runIds : after.identity.content.runs.map (·.metadata.id) = db.identity.content.runs.map (·.metadata.id)
  run : ∀ id run, db.identity.content.run? id = some run →
    ∃ later, after.identity.content.run? id = some later ∧ RunExpires overdue run later
  graphIds : after.graphs.rows.map (·.executionId) = db.graphs.rows.map (·.executionId)
  graph : ∀ id row, db.graphs.find? id = some row →
    ∃ later, after.graphs.find? id = some later ∧ Lapses overdue row.execution later.execution

namespace Expires

variable {overdue : RunId → Prop} {db after last : Database}

theorem refl (db : Database) : Expires overdue db db where
  spares := .refl db
  requests := rfl
  staged _ row found := ⟨row, found, rfl, .inl rfl⟩
  runIds := rfl
  run _ run found := ⟨run, found, .inl rfl⟩
  graphIds := rfl
  graph _ row found := ⟨row, found, .refl _⟩

theorem trans (first : Expires overdue db after) (second : Expires overdue after last) : Expires overdue db last where
  spares := first.spares.trans second.spares
  requests := second.requests.trans first.requests
  staged id row found := by
    obtain ⟨middle, reached, same, moved⟩ := first.staged id row found
    obtain ⟨later, ended, again, further⟩ := second.staged id middle reached
    refine ⟨later, ended, again.trans same, ?_⟩
    rcases further with rfl | ⟨late, cancelled⟩
    · exact moved
    · rcases moved with rfl | ⟨before, _⟩
      · exact .inr ⟨late, cancelled⟩
      · exact .inr ⟨before, cancelled⟩
  runIds := second.runIds.trans first.runIds
  run id run found := by
    obtain ⟨middle, reached, moved⟩ := first.run id run found
    obtain ⟨later, ended, further⟩ := second.run id middle reached
    refine ⟨later, ended, ?_⟩
    rcases further with rfl | ⟨late, awaiting, unstarted, rest⟩
    · exact moved
    · rcases moved with rfl | ⟨_, _, _, cancelled, _⟩
      · exact .inr ⟨late, awaiting, unstarted, rest⟩
      · rw [awaiting] at cancelled
        cases cancelled
  graphIds := second.graphIds.trans first.graphIds
  graph id row found := by
    obtain ⟨middle, reached, lapses⟩ := first.graph id row found
    obtain ⟨later, ended, again⟩ := second.graph id middle reached
    exact ⟨later, ended, lapses.trans again⟩

theorem executionBefore (expires : Expires overdue db after) {later : GraphRow} (member : later ∈ after.graphs.rows) :
    ∃ row, db.graphs.find? later.executionId = some row ∧ Lapses overdue row.execution later.execution := by
  have known : later.executionId ∈ db.graphs.rows.map (·.executionId) := by
    rw [← expires.graphIds]
    exact List.mem_map_of_mem member
  obtain ⟨row, found⟩ := Lookup.exists_of_mem_keys known
  obtain ⟨other, reached, lapses⟩ := expires.graph _ row found
  obtain rfl := Option.some.inj (reached.symm.trans (Table.find?_mem member))
  exact ⟨row, found, lapses⟩

theorem runBefore (expires : Expires overdue db after)
    (distinct : (after.identity.content.runs.map (·.metadata.id)).Nodup) {later : Run}
    (member : later ∈ after.identity.content.runs) :
    ∃ run, db.identity.content.run? later.metadata.id = some run ∧ RunExpires overdue run later := by
  have known : later.metadata.id ∈ db.identity.content.runs.map (·.metadata.id) := by
    rw [← expires.runIds]
    exact List.mem_map_of_mem member
  obtain ⟨run, found⟩ := Lookup.exists_of_mem_keys known
  obtain ⟨other, reached, moved⟩ := expires.run _ run found
  have located : after.identity.content.run? later.metadata.id = some later := Lookup.find_of_mem distinct member
  obtain rfl := Option.some.inj (reached.symm.trans located)
  exact ⟨run, found, moved⟩

theorem launchBefore (expires : Expires overdue db after) {later : StagedRow} (member : later ∈ after.staged.rows) :
    ∃ row, db.staged.find? later.runId = some row ∧ RowExpires overdue row later := by
  have known : later.runId ∈ db.staged.rows.map (·.runId) := by
    rw [← expires.spares.launches]
    exact List.mem_map_of_mem member
  obtain ⟨row, found⟩ := Lookup.exists_of_mem_keys known
  obtain ⟨other, reached, moved⟩ := expires.staged _ row found
  obtain rfl := Option.some.inj (reached.symm.trans (Table.find?_mem member))
  exact ⟨row, found, moved⟩

/-- A launch that is waiting afterwards was waiting before, and is the same. -/
theorem waiting (expires : Expires overdue db after) {row : StagedRow} (member : row ∈ after.staged.rows)
    (waits : row.state.isWaiting = true) : row ∈ db.staged.rows := by
  obtain ⟨old, found, _, rfl | ⟨_, cancelled⟩⟩ := expires.launchBefore member
  · exact Table.mem_of_find? found
  · rw [cancelled] at waits
    cases waits

/-- A launch that is not overdue still waits. -/
theorem undisturbed (expires : Expires overdue db after) {runId : RunId} (spared : ¬overdue runId) :
    Undisturbed db after runId where
  run run found _ _ := by
    obtain ⟨later, reached, rfl | ⟨late, _⟩⟩ := expires.run runId run found
    · exact reached
    · exact absurd ((Lookup.find_some found).2 ▸ late) spared
  plan _ found := expires.spares.plans ▸ found
  node id row found := by
    obtain ⟨later, reached, lapses⟩ := expires.graph id row found
    exact ⟨later, reached, lapses.stillAwaits spared⟩

end Expires

section Expiry

variable [Sha256] [SerdeJson] {overdue : RunId → Prop} {db after : Database} {now : Nat}

/-- The cancellation of one launch. -/
theorem Cancels.expires {row : StagedRow} {reason : String} {run : Run} {plan : ProviderLaunchPlan}
    {graphRow : GraphRow} {execution : GraphExecution}
    (cancels : Cancels db now row reason run plan graphRow execution after) (sound : SoundGraphs db)
    (late : overdue row.runId) : Expires overdue db after := by
  have spares := cancels.spares
  have stored := sound _ _ cancels.stored
  have same : execution.id = plan.executionId :=
    ((Written.cancelled cancels.cancelled).kept stored.valid).1.id.trans
      (stored.id.symm.trans (Table.find?_key cancels.stored))
  have planRun : plan.runId = row.runId := (loadedPlan cancels.planned).2
  obtain ⟨awaiting, unstarted, _⟩ := validateStagedContext_run cancels.context
  have named : run.metadata.id = row.runId := (Lookup.find_some cancels.found).2
  obtain ⟨grants, events, _, rfl⟩ := cancels.left
  have kept : ∀ run, (endRun .cancelled (timestamp (row.finishTime now)) run).metadata.id = run.metadata.id :=
    fun _ => rfl
  refine ⟨spares, ?_, fun id old found => ?_, Lookup.map_modifyFirst kept _, fun id old found => ?_,
    Table.keys_update GraphRow.store_executionId, fun id old found => ?_⟩
  · dsimp only
    exact Table.map_update fun _ => rfl
  · dsimp only
    rw [Table.find?_update]
    by_cases this : id = row.runId
    · refine ⟨old.cancel (row.finishTime now) reason, by rw [if_pos this, found, Option.map_some], rfl, .inr ⟨?_, rfl⟩⟩
      rw [Table.find?_key found, this]
      exact late
    · exact ⟨old, by rw [if_neg this, found], rfl, .inl rfl⟩
  · dsimp only
    rw [cancelledRun, IdentityCatalog.run?_updateRun kept]
    by_cases this : id = row.runId
    · subst this
      obtain rfl := Option.some.inj (cancels.found.symm.trans found)
      refine ⟨endRun .cancelled (timestamp (row.finishTime now)) run, by rw [if_pos rfl, found, Option.map_some], ?_⟩
      exact .inr ⟨named ▸ late, awaiting, unstarted, rfl, unstarted⟩
    · exact ⟨old, by rw [if_neg this, found], .inl rfl⟩
  · dsimp only
    rw [Table.find?_update]
    by_cases this : id = execution.id
    · rw [this, same, cancels.stored] at found
      obtain rfl := Option.some.inj found
      refine ⟨_, by rw [if_pos this, this, same, cancels.stored, Option.map_some], ?_⟩
      exact .of_cancelled cancels.cancelled (planRun ▸ late)
    · exact ⟨old, by rw [if_neg this, found], .refl _⟩

/-- A launch whose request was gone through is cancelled. -/
theorem cancelForRequest_cancels {requestId : ApprovalRequestId} {reason : String}
    (done : cancelForRequest db now requestId reason = .ok after) {row : StagedRow}
    (found : db.stagedFor? requestId = some row) :
    ∃ later, after.staged.find? row.runId = some later ∧ later.state = .cancelled := by
  have located := Table.find?_mem (stagedFor?_some found).1
  simp only [cancelForRequest, bind_ok, exists_unit, found] at done
  obtain ⟨_, done⟩ := done
  split at done
  · rename_i late
    exact ⟨row, pure_ok.mp done ▸ located, late⟩
  · simp only [bind_ok, exists_unit, reject_ok, Bool.not_eq_eq_eq_not, Bool.not_false] at done
    obtain ⟨_, _, _, _, cancels⟩ := cancelWaiting_ok done.1 done.2
    obtain ⟨_, _, _, rfl⟩ := cancels.left
    refine ⟨row.cancel (row.finishTime now) reason, ?_, rfl⟩
    dsimp only
    rw [Table.find?_update_self, located, Option.map_some]

/-- The launches of a list of requests are cancelled one after another. -/
theorem expireEach_ok {requests : List ApprovalRequestId} (distinct : (db.staged.rows.map (·.requestId)).Nodup)
    (sound : SoundGraphs db)
    (late : ∀ row ∈ db.staged.rows, row.requestId ∈ requests → overdue row.runId)
    (done : foldEach (fun db requestId => cancelForRequest db now requestId "approval_expired") requests db =
      .ok after) :
    Expires overdue db after ∧ ∀ row ∈ db.staged.rows, row.requestId ∈ requests →
      ∃ later, after.staged.find? row.runId = some later ∧ later.state = .cancelled := by
  induction requests generalizing db with
  | nil =>
    obtain rfl := Except.ok.inj done
    exact ⟨.refl db, fun _ _ member => by cases member⟩
  | cons first rest ih =>
    simp only [foldEach, bind_ok] at done
    obtain ⟨middle, stepped, remaining⟩ := done
    have cancels := cancelForRequest_ok stepped
    have expires : Expires overdue db middle := by
      rcases cancels with ⟨rfl, _⟩ | ⟨row, _, _, _, _, found, cancels⟩
      · exact .refl _
      · obtain ⟨member, asked⟩ := stagedFor?_some found
        exact cancels.expires sound (late row member (asked ▸ List.mem_cons_self ..))
    have still : ∀ row ∈ middle.staged.rows, row.requestId ∈ rest → overdue row.runId := by
      intro row member inside
      obtain ⟨old, located, asked, _⟩ := expires.launchBefore member
      rw [← Table.find?_key located]
      exact late old (Table.mem_of_find? located) (List.mem_cons_of_mem _ (asked ▸ inside))
    have soundAfter := (cancels.graphsFollow sound).sound sound
    obtain ⟨others, cancelled⟩ := ih (expires.requests ▸ distinct) soundAfter still remaining
    refine ⟨expires.trans others, fun row member inside => ?_⟩
    obtain ⟨next, reached, asked, moved⟩ := expires.staged row.runId row (Table.find?_mem member)
    rcases List.mem_cons.mp inside with rfl | inside
    · -- the launch was cancelled in this step, and stays so in the others
      have located : db.stagedFor? row.requestId = some row := Lookup.find_of_mem distinct member
      obtain ⟨late, there, state⟩ := cancelForRequest_cancels stepped located
      obtain ⟨later, ended, _, further⟩ := others.staged row.runId late there
      refine ⟨later, ended, ?_⟩
      rcases further with rfl | ⟨_, cancelled⟩
      · exact state
      · exact cancelled
    · have same : next.runId = row.runId := Table.find?_key reached
      rw [← same]
      exact cancelled next (Table.mem_of_find? reached) (asked ▸ inside)

/-- The expiry of launches cancels those that are overdue, and no others. -/
theorem expire_ok (committed : expire db now = .ok after) (sound : SoundGraphs db) (launches : LaunchesSound db) :
    Expires (Overdue db now) db after ∧ ∀ row ∈ db.staged.rows, isOverdue db now row = true →
      ∃ later, after.staged.find? row.runId = some later ∧ later.state = .cancelled := by
  simp only [expire, bind_ok, exists_unit] at committed
  have asked : ∀ row ∈ db.staged.rows, row.requestId ∈ overdueRequests db now ↔ isOverdue db now row = true := by
    intro row member
    have sorted := List.perm_insertionSort StagedRow.precedes (db.staged.rows.filter (isOverdue db now))
    constructor
    · intro inside
      obtain ⟨other, found, same⟩ := List.mem_map.mp inside
      obtain ⟨stored, late⟩ := List.mem_filter.mp (sorted.mem_iff.mp found)
      obtain rfl := List.inj_on_of_nodup_map launches.requests stored member same
      exact late
    · intro late
      exact List.mem_map_of_mem (sorted.mem_iff.mpr (List.mem_filter.mpr ⟨member, late⟩))
  have late : ∀ row ∈ db.staged.rows, row.requestId ∈ overdueRequests db now → Overdue db now row.runId :=
    fun row member inside => ⟨row, Table.find?_mem member, (asked row member).mp inside⟩
  obtain ⟨expires, cancelled⟩ := expireEach_ok launches.requests sound late committed.2
  exact ⟨expires, fun row member late => cancelled row member ((asked row member).mpr late)⟩

end Expiry

end Bastet.Daemon
