import Bastet.Daemon.Expiry

/-! What opening the store again leaves: nothing is at work, what was at work is uncertain for good, and only
the launches that are overdue are cancelled. -/

set_option autoImplicit false

namespace Bastet.Daemon

open Fallible Bastet.Core

/-- The states of a run that is at work once it has started. -/
def isAtWork : NormalizedRunState → Bool
  | .starting | .running | .cancelling | .recovering | .awaitingApproval => true
  | _ => false

/-- The execution has this record of the node. -/
def HoldsNode (db : Database) (id : GraphRunId) (nodeId : GraphNodeId) (node : GraphNodeExecution) : Prop :=
  ∃ row, db.graphs.find? id = some row ∧ row.execution.node? nodeId = some node

instance (db : Database) (id : GraphRunId) (nodeId : GraphNodeId) (node : GraphNodeExecution) :
    Decidable (HoldsNode db id nodeId node) :=
  decidable_of_iff ((db.graphs.find? id).bind (·.execution.node? nodeId) = some node) Option.bind_eq_some_iff

/-- What opening the store at `now` makes of a database. -/
structure SoundRecovery (db : Database) (now : Nat) (opened : Database) : Prop where
  noneRunning : ∀ row ∈ opened.graphs.rows, ∀ node ∈ row.execution.nodes, node.state ≠ .running
  noneAtWork : ∀ run ∈ opened.identity.content.runs, run.startedAt.isSome = true → isAtWork run.state = false
  runningNode : ∀ id nodeId node, HoldsNode db id nodeId node → node.state = .running →
    HoldsNode opened id nodeId (GraphExecution.reconcileNode node)
  startedRun : ∀ id run, db.identity.content.run? id = some run → run.startedAt.isSome = true →
    isAtWork run.state = true → opened.identity.content.run? id = some (run.enter .uncertain (timestamp now))
  waitingLaunch : ∀ row ∈ db.staged.rows, row.state.isWaiting = true → isOverdue db now row = false →
    row ∈ opened.staged.rows ∧ opened.approvals.find? row.requestId = db.approvals.find? row.requestId ∧
      ∃ run plan node, Undispatched db row run plan node ∧ Undispatched opened row run plan node
  executions : opened.graphs.rows.map (·.executionId) = db.graphs.rows.map (·.executionId)
  otherNode : ∀ id row, db.graphs.find? id = some row → ∃ later, opened.graphs.find? id = some later ∧
    GraphExecution.Frame row.execution later.execution ∧ ∀ nodeId node, row.execution.node? nodeId = some node →
      node.state ≠ .running → ∃ after, later.execution.node? nodeId = some after ∧
        Lapsed (Overdue db now) row.execution nodeId node after
  runs : opened.identity.content.runs.map (·.metadata.id) = db.identity.content.runs.map (·.metadata.id)
  otherRun : ∀ id run, db.identity.content.run? id = some run →
    ¬(run.startedAt.isSome = true ∧ isAtWork run.state = true) →
    ∃ later, opened.identity.content.run? id = some later ∧ RunExpires (Overdue db now) run later

section Recovered

variable {db after : Database} {now revision : Nat} {daemon : DaemonState} {events : List String}

/-- A launch is overdue after the recovery of the documents if it was before it. -/
theorem isOverdue_recovered (row : StagedRow) :
    isOverdue (db.recovered now daemon revision events) now (abandonDispatch row) = isOverdue db now row := by
  unfold abandonDispatch
  split
  · rename_i dispatching
    simp [isOverdue, Database.recovered, StagedRow.move, dispatching]
  · rfl

theorem overdue_recovered {runId : RunId} :
    Overdue (db.recovered now daemon revision events) now runId ↔ Overdue db now runId := by
  simp only [Overdue, Database.recovered, Table.find?_updateAll]
  constructor
  · rintro ⟨row, found, late⟩
    obtain ⟨old, located, rfl⟩ := Option.map_eq_some_iff.mp found
    exact ⟨old, located, (isOverdue_recovered old).symm.trans late⟩
  · rintro ⟨row, found, late⟩
    exact ⟨abandonDispatch row, by rw [found, Option.map_some], (isOverdue_recovered row).trans late⟩

theorem recovered_staged {id : RunId} {row : StagedRow} (found : db.staged.find? id = some row) :
    (db.recovered now daemon revision events).staged.find? id = some (abandonDispatch row) := by
  simp only [Database.recovered, Table.find?_updateAll, found, Option.map_some]

theorem recovered_graph {id : GraphRunId} {row : GraphRow} (found : db.graphs.find? id = some row) :
    (db.recovered now daemon revision events).graphs.find? id = some (row.reconciled now) := by
  simp only [Database.recovered, Table.find?_updateAll, found, Option.map_some]

theorem reconcileNode_state (node : GraphNodeExecution) : (GraphExecution.reconcileNode node).state ≠ .running := by
  unfold GraphExecution.reconcileNode
  split
  · simp
  · assumption

/-- A node that recovery leaves in another state than uncertain is as it was. -/
theorem reconcileNode_same {node later : GraphNodeExecution} (same : GraphExecution.reconcileNode node = later)
    (other : later.state ≠ .uncertain) : node = later := by
  by_cases running : node.state = .running
  · rw [GraphExecution.reconcileNode, if_pos running] at same
    exact absurd (same ▸ rfl) other
  · rw [GraphExecution.reconcileNode, if_neg running] at same
    exact same

/-- What happens to a node that waits, or is pending, happens after the recovery of its execution. -/
theorem lapsed_of_reconciled {overdue : RunId → Prop} {execution : GraphExecution} {nodeId : GraphNodeId}
    {node later : GraphNodeExecution} (lapsed : Lapsed overdue execution.reconcileAfterRestart.2 nodeId node later) :
    Lapsed overdue execution nodeId node later := by
  cases lapsed with
  | kept => exact .kept
  | cancelled awaiting bound late state => exact .cancelled awaiting bound late state
  | blocked pending needs found awaiting bound late state =>
    rw [GraphExecution.reconcile_lookup] at found
    obtain ⟨old, located, same⟩ := Option.map_eq_some_iff.mp found
    obtain rfl := reconcileNode_same same (by rw [awaiting]; simp)
    exact .blocked pending needs located awaiting bound late state

end Recovered

section Catalogs

/-- A run that has started, and is at work, is interrupted. -/
theorem recovered_atWork {run : Run} (updatedAt : String) (started : run.startedAt.isSome = true)
    (working : isAtWork run.state = true) : run.recovered updatedAt = run.enter .uncertain updatedAt := by
  have dispatched : ¬(run.state = .awaitingApproval ∧ run.startedAt = none) := by
    rintro ⟨_, none⟩
    rw [none] at started
    cases started
  have interrupted : wasInterrupted run = true := by
    unfold wasInterrupted
    cases state : run.state <;> simp_all [isAtWork]
  rw [Run.recovered, if_neg dispatched, if_pos interrupted]

theorem validate_started {catalog : IdentityCatalog} (valid : catalog.validate = .ok ()) {run : Run}
    (member : run ∈ catalog.runs) (needs : run.state.needsStart = true) : run.startedAt.isSome = true := by
  simp only [IdentityCatalog.validate, bind_ok, exists_unit, forEach_ok] at valid
  obtain ⟨_, _, _, _, _, _, _, _, _, _, _, _, _, _, _, timed⟩ := valid
  have timing := timed run member
  simp only [IdentityCatalog.validateRun, validateRunTiming, bind_ok, exists_unit, rejectIf_ok,
    Bool.or_eq_false_iff] at timing
  obtain ⟨_, _, timing, _⟩ := timing
  rw [needs, Bool.true_and, Option.isNone_eq_false_iff] at timing
  exact timing

/-- A run that has not started, or is not at work, is not interrupted. -/
theorem recovered_other {catalog : IdentityCatalog} (valid : catalog.validate = .ok ()) {run : Run}
    (member : run ∈ catalog.runs) (updatedAt : String)
    (other : ¬(run.startedAt.isSome = true ∧ isAtWork run.state = true)) : run.recovered updatedAt = run := by
  unfold Run.recovered
  split
  · rfl
  · rename_i dispatched
    rw [if_neg]
    intro interrupted
    refine other ⟨?_, ?_⟩
    · by_cases needs : run.state.needsStart = true
      · exact validate_started valid member needs
      · cases state : run.state <;> simp_all [wasInterrupted, NormalizedRunState.needsStart]
        exact Option.isSome_iff_ne_none.mpr dispatched
    · cases state : run.state <;> simp_all [wasInterrupted, isAtWork]

end Catalogs

/-- A run is not at work after its recovery. -/
theorem recovered_idle {run : Run} {updatedAt : String} (started : (run.recovered updatedAt).startedAt.isSome = true) :
    isAtWork (run.recovered updatedAt).state = false := by
  unfold Run.recovered at started ⊢
  split
  · rename_i waiting
    rw [if_pos waiting, waiting.2] at started
    cases started
  · split
    · rfl
    · rename_i dispatched idle
      rw [if_neg dispatched, if_neg idle] at started
      cases state : run.state <;> simp_all [wasInterrupted, isAtWork]

section Opened

variable [Sha256] {db opened : Database} {now revision : Nat} {daemon : DaemonState} {events : List String}

/-- What the expiry of launches makes of the recovered documents is sound. -/
theorem Expires.recovery (expires : Expires (Overdue db now) (db.recovered now daemon revision events) opened)
    (valid : db.identity.content.validate = .ok ()) (sound : SoundGraphs db) (launches : LaunchesSound db)
    (validAfter : opened.identity.content.validate = .ok ()) (soundAfter : SoundGraphs opened) :
    SoundRecovery db now opened where
  noneRunning later member node inside running := by
    obtain ⟨row, found, lapses⟩ := expires.executionBefore member
    have distinct := (soundAfter _ _ (Table.find?_mem member)).valid.aligned.distinct
    have located : later.execution.node? node.nodeId = some node := Lookup.find_of_mem distinct inside
    have before := lapses.unchanged located (by simp [running]) (by simp [running])
    simp only [Database.recovered, Table.find?_updateAll] at found
    obtain ⟨old, _, rfl⟩ := Option.map_eq_some_iff.mp found
    rw [GraphRow.reconciled_execution, GraphExecution.reconcile_lookup] at before
    obtain ⟨recorded, _, rfl⟩ := Option.map_eq_some_iff.mp before
    exact reconcileNode_state recorded running
  noneAtWork later member started := by
    obtain ⟨run, found, moved⟩ := expires.runBefore (IdentityCatalog.validate_runs_distinct validAfter) member
    simp only [Database.recovered, recovered_run?] at found
    obtain ⟨old, _, rfl⟩ := Option.map_eq_some_iff.mp found
    rcases moved with rfl | ⟨_, _, _, cancelled, _⟩
    · exact recovered_idle started
    · rw [cancelled]
      rfl
  runningNode id nodeId node := by
    rintro ⟨row, found, located⟩ running
    obtain ⟨later, reached, lapses⟩ := expires.graph id _ (recovered_graph found)
    rw [GraphRow.reconciled_execution] at lapses
    have reconciled : row.execution.reconcileAfterRestart.2.node? nodeId =
        some (GraphExecution.reconcileNode node) := by
      rw [GraphExecution.reconcile_lookup, located, Option.map_some]
    have uncertain : (GraphExecution.reconcileNode node).state = .uncertain := by
      rw [GraphExecution.reconcileNode, if_pos running]
    obtain ⟨after, ended, lapsed⟩ := lapses.node nodeId _ reconciled
    cases lapsed with
    | kept => exact ⟨later, reached, ended⟩
    | cancelled awaiting => rw [uncertain] at awaiting; cases awaiting
    | blocked pending => rw [uncertain] at pending; cases pending
  startedRun id run found started working := by
    have located : (db.recovered now daemon revision events).identity.content.run? id =
        some (run.enter .uncertain (timestamp now)) := by
      simp only [Database.recovered, recovered_run?, found, Option.map_some, recovered_atWork _ started working]
    obtain ⟨later, reached, rfl | ⟨_, awaiting, _⟩⟩ := expires.run id _ located
    · exact reached
    · cases awaiting
  waitingLaunch row member waits timely := by
    have spared : ¬Overdue db now row.runId := by
      rintro ⟨other, found, late⟩
      obtain rfl := Option.some.inj ((Table.find?_mem member).symm.trans found)
      rw [timely] at late
      cases late
    have same : abandonDispatch row = row := by
      refine if_neg fun dispatching => ?_
      rw [dispatching] at waits
      cases waits
    have undisturbed := (recovered_undisturbed db now daemon revision events row.runId).trans
      (expires.undisturbed spared)
    refine ⟨?_, by rw [expires.spares.approvals]; rfl, ?_⟩
    · have stored := Table.find?_mem member
      obtain ⟨later, reached, _, rfl | ⟨late, _⟩⟩ := expires.staged row.runId _ (recovered_staged stored)
      · rw [same] at reached
        exact Table.mem_of_find? reached
      · rw [same] at late
        exact absurd late spared
    · cases launches.coherent row member with
      | awaiting _ held | ready _ held => exact ⟨_, _, _, held, held.undisturbed undisturbed⟩
      | cancelled state => rw [state] at waits; cases waits
      | claimed state => rcases state with state | state <;> rw [state] at waits <;> cases waits
  executions := by
    rw [expires.graphIds]
    simp only [Database.recovered, Table.rows_updateAll, List.map_map]
    exact List.map_congr_left fun row _ => GraphRow.reconciled_executionId now row
  otherNode id row found := by
    obtain ⟨later, reached, lapses⟩ := expires.graph id _ (recovered_graph found)
    rw [GraphRow.reconciled_execution] at lapses
    have frame : GraphExecution.Frame row.execution row.execution.reconcileAfterRestart.2 :=
      Operation.apply_frame (sound id row found).valid.aligned .reconcileAfterRestart
    refine ⟨later, reached, frame.trans lapses.frame, fun nodeId node located idle => ?_⟩
    have reconciled : row.execution.reconcileAfterRestart.2.node? nodeId = some node := by
      rw [GraphExecution.reconcile_lookup, located, Option.map_some, GraphExecution.reconcileNode, if_neg idle]
    obtain ⟨after, ended, lapsed⟩ := lapses.node nodeId node reconciled
    exact ⟨after, ended, lapsed_of_reconciled lapsed⟩
  runs := by
    rw [expires.runIds]
    simp only [Database.recovered, IdentityCatalog.recovered, List.map_map]
    refine List.map_congr_left fun run _ => ?_
    simp only [Function.comp_apply, Run.recovered]
    split
    · rfl
    · split <;> rfl
  otherRun id run found other := by
    have located : (db.recovered now daemon revision events).identity.content.run? id = some run := by
      simp only [Database.recovered, recovered_run?, found, Option.map_some]
      rw [recovered_other valid (Lookup.find_some found).1 _ other]
    exact expires.run id run located

/-- Nothing is left to be dispatched, and no launch is overdue. -/
structure Settled (db : Database) (now : Nat) : Prop where
  undispatched : ∀ row ∈ db.staged.rows, row.state ≠ .dispatching
  timely : ∀ row ∈ db.staged.rows, isOverdue db now row = false

omit [Sha256] in
theorem isOverdue_waits {row : StagedRow} (late : isOverdue db now row = true) : row.state.isWaiting = true := by
  simp only [isOverdue, Option.any_eq_true, Bool.and_eq_true, Bool.or_eq_true, decide_eq_true_eq] at late
  obtain ⟨_, _, _, ⟨state, _⟩ | ⟨state, _⟩⟩ := late <;> rw [state] <;> rfl

omit [Sha256] in
theorem abandonDispatch_state (row : StagedRow) : (abandonDispatch row).state ≠ .dispatching := by
  unfold abandonDispatch
  split
  · simp [StagedRow.move]
  · assumption

omit [Sha256] in
theorem Expires.settled (expires : Expires (Overdue db now) (db.recovered now daemon revision events) opened)
    (cancelled : ∀ row ∈ (db.recovered now daemon revision events).staged.rows,
      isOverdue (db.recovered now daemon revision events) now row = true →
      ∃ later, opened.staged.find? row.runId = some later ∧ later.state = .cancelled) : Settled opened now where
  undispatched later member dispatching := by
    obtain ⟨row, found, _, rfl | ⟨_, late⟩⟩ := expires.launchBefore member
    · obtain ⟨old, _, rfl⟩ := List.mem_map.mp (Table.mem_of_find? found)
      exact abandonDispatch_state old dispatching
    · rw [dispatching] at late
      cases late
  timely row member := by
    by_contra untimely
    have late : isOverdue opened now row = true := by simpa using untimely
    have before := expires.waiting member (isOverdue_waits late)
    have same : isOverdue (db.recovered now daemon revision events) now row = true := by
      unfold isOverdue at late ⊢
      rw [← expires.spares.approvals]
      exact late
    -- an overdue launch was cancelled, so it does not wait any more
    obtain ⟨later, found, state⟩ := cancelled row before same
    obtain rfl := Option.some.inj ((Table.find?_mem member).symm.trans found)
    have waits := isOverdue_waits late
    rw [state] at waits
    cases waits

end Opened

section Reopened

variable [Sha256] [SerdeJson] {db opened again : Database} {now : Nat}

/-- Opening the store again, which settles the ledger of launches. -/
theorem reopen_recovery (committed : reopen db now = .ok opened) (valid : db.identity.content.validate = .ok ())
    (sound : SoundGraphs db) (launches : LaunchesSound db) (validAfter : opened.identity.content.validate = .ok ())
    (soundAfter : SoundGraphs opened) : SoundRecovery db now opened ∧ Settled opened now := by
  obtain ⟨revision, _, events, _, _, recoverable, _, expired⟩ := reopen_ok committed
  have follow := recovered_graphsFollow now ⟨bump db.daemon.revision, .recovering⟩ revision events recoverable
  obtain ⟨expires, cancelled⟩ := expire_ok expired (follow.sound sound) (recovered_launchesSound launches)
  have same : Overdue (db.recovered now ⟨bump db.daemon.revision, .recovering⟩ revision events) now = Overdue db now :=
    funext fun _ => propext overdue_recovered
  rw [same] at expires
  exact ⟨expires.recovery valid sound launches validAfter soundAfter, expires.settled cancelled⟩

/-- Opening a store once more at the same time changes nothing in its documents. -/
theorem SoundRecovery.reopened (recovery : SoundRecovery db now opened) (settled : Settled opened now)
    (valid : opened.identity.content.validate = .ok ()) (committed : reopen opened now = .ok again) :
    again.identity.content = opened.identity.content ∧ again.graphs = opened.graphs ∧ again.staged = opened.staged := by
  obtain ⟨revision, _, events, _, _, _, _, expired⟩ := reopen_ok committed
  have runs : opened.identity.content.recovered (timestamp now) = opened.identity.content := by
    have idle : ∀ run ∈ opened.identity.content.runs, Run.recovered (timestamp now) run = run := by
      intro run member
      refine recovered_other valid member _ ?_
      rintro ⟨started, working⟩
      rw [recovery.noneAtWork run member started] at working
      cases working
    unfold IdentityCatalog.recovered
    rw [List.map_congr_left idle, List.map_id'']
    exact fun _ => rfl
  have graphs : opened.graphs.updateAll (GraphRow.reconciled now) (GraphRow.reconciled_executionId now) =
      opened.graphs := by
    have idle : ∀ row ∈ opened.graphs.rows, GraphRow.reconciled now row = row := by
      intro row member
      refine if_pos (List.countP_eq_zero.mpr fun node inside => ?_)
      simpa using recovery.noneRunning row member node inside
    apply Table.ext
    rw [Table.rows_updateAll, List.map_congr_left idle, List.map_id'']
    exact fun _ => rfl
  have staged : opened.staged.updateAll abandonDispatch abandonDispatch_runId = opened.staged := by
    have idle : ∀ row ∈ opened.staged.rows, abandonDispatch row = row :=
      fun row member => if_neg (settled.undispatched row member)
    apply Table.ext
    rw [Table.rows_updateAll, List.map_congr_left idle, List.map_id'']
    exact fun _ => rfl
  have timely : overdueRequests (opened.recovered now ⟨bump opened.daemon.revision, .recovering⟩ revision events) now =
      [] := by
    have none : opened.staged.rows.filter (isOverdue opened now) = [] :=
      List.filter_eq_nil_iff.mpr fun row member => by simp [settled.timely row member]
    have same : isOverdue (opened.recovered now ⟨bump opened.daemon.revision, .recovering⟩ revision events) now =
        isOverdue opened now := rfl
    rw [overdueRequests, same]
    simp only [Database.recovered, staged, none, List.insertionSort_nil, List.map_nil]
  simp only [expire, bind_ok, exists_unit, timely, foldEach] at expired
  obtain rfl := Except.ok.inj expired.2
  exact ⟨runs, graphs, staged⟩

/-- A node that is uncertain is never claimed, staged or retried. -/
theorem HoldsNode.uncertain {process : DaemonProcess} {id : GraphRunId} {nodeId : GraphNodeId}
    {node : GraphNodeExecution} (holds : HoldsNode process.db id nodeId node) (uncertain : node.state = .uncertain)
    (sound : SoundGraphs process.db) (actions : List Action) : HoldsNode (process.run actions).db id nodeId node := by
  obtain ⟨row, found, located⟩ := holds
  obtain ⟨later, reached, leads⟩ := (run_graphsFollow sound actions).kept id row found
  exact ⟨later, reached, (leads.remembers (sound id row found)).settled nodeId node located (by rw [uncertain]; rfl)⟩

/-- Opening the store of any reachable database leaves nothing at work. What was at work is uncertain, its nodes for
good, and only overdue launches are cancelled. Opening it once more changes nothing. -/
theorem recovery_soundness (first rest : List Action) (now : Nat)
    (opens : isOk (reopen (DaemonProcess.fresh.run first).db now) = true) :
    let process := DaemonProcess.fresh.run first
    let opened := process.next (.restart now)
    let again := opened.next (.restart now)
    SoundRecovery process.db now opened.db ∧
      (∀ id nodeId node, HoldsNode process.db id nodeId node → node.state = .running →
        ∃ later, later.state = .uncertain ∧ HoldsNode opened.db id nodeId later ∧
          HoldsNode (opened.run rest).db id nodeId later) ∧
      again.db.identity.content = opened.db.identity.content ∧ again.db.graphs = opened.db.graphs ∧
      again.db.staged = opened.db.staged := by
  intro process opened again
  have ledgers : LedgersSound process := LedgersSound.fresh.run first
  have runs : SoundRuns process := SoundRuns.fresh.run first
  have soundAfter : SoundGraphs opened.db := ledgers.graphs.next process _
  have validAfter : opened.db.identity.content.validate = .ok () := (runs.next process _).valid
  obtain ⟨db, committed⟩ := isOk_iff.mp opens
  have same : opened.db = db := by
    simp only [opened, process, DaemonProcess.next, committed]
  obtain ⟨recovery, settled⟩ := reopen_recovery (same ▸ committed) runs.valid ledgers.graphs ledgers.launches validAfter
    soundAfter
  refine ⟨recovery, fun id nodeId node holds running => ?_, ?_⟩
  · have uncertain : (GraphExecution.reconcileNode node).state = .uncertain := by
      rw [GraphExecution.reconcileNode, if_pos running]
    have held := recovery.runningNode id nodeId node holds running
    exact ⟨_, uncertain, held, held.uncertain uncertain soundAfter rest⟩
  · cases reopened : reopen opened.db now with
    | ok db =>
      have left : again.db = db := by
        simp only [again, DaemonProcess.next, reopened]
      rw [left]
      exact recovery.reopened settled validAfter reopened
    | error fault =>
      have left : again.db = opened.db := by
        simp only [again, DaemonProcess.next, reopened]
      rw [left]
      exact ⟨rfl, rfl, rfl⟩

omit [Sha256] [SerdeJson] in
theorem recovery_soundness_begun :
    let process := @DaemonProcess.run (.table []) SerdeJson.compact .fresh firstRun
    let opened := @DaemonProcess.next (.table []) SerdeJson.compact process (.restart 8)
    ∃ later, later.state = .uncertain ∧ HoldsNode opened.db (nth 24) (nth 21) later ∧
      HoldsNode (@DaemonProcess.run (.table []) SerdeJson.compact opened
        [.command (.claimGraphNodes 9 (nth 24) 2 "console" 3), .restart 10]).db (nth 24) (nth 21) later := by
  obtain ⟨opens, holds⟩ : (fun process : DaemonProcess =>
      isOk (@reopen (.table []) SerdeJson.compact process.db 8) = true ∧
        HoldsNode process.db (nth 24) (nth 21) ⟨nth 21, .running, some "console", 1, some (nth 31), none⟩)
      (@DaemonProcess.run (.table []) SerdeJson.compact .fresh firstRun) := by
    decide +kernel
  have sound := @recovery_soundness (.table []) SerdeJson.compact firstRun
    [.command (.claimGraphNodes 9 (nth 24) 2 "console" 3), .restart 10] 8 opens
  exact sound.2.1 (nth 24) (nth 21) _ holds rfl

end Reopened

end Bastet.Daemon
