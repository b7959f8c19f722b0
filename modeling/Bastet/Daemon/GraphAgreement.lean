import Bastet.Daemon.Attempts

/-! A node and the run it is bound to are in the same state of their lives, as long as nobody
completes by hand a node that a run works on. -/

set_option autoImplicit false

namespace Bastet.Core

/-- The states of a run that go with the state of the node it is bound to. -/
def GraphNodeState.goesWith : GraphNodeState → NormalizedRunState → Bool
  | .awaitingApproval, .awaitingApproval => true
  | .running, .starting | .running, .running | .running, .cancelling => true
  | .succeeded, .succeeded | .failed, .failed | .cancelled, .cancelled | .blocked, .blocked
  | .uncertain, .uncertain => true
  | _, _ => false

end Bastet.Core

namespace Bastet.Daemon

open Fallible Bastet.Core Lookup

/-- A run is where the node that holds it takes it to be: one that waits has not started, one at work has. -/
structure Fits (state : GraphNodeState) (run : Run) : Prop where
  goes : state.goesWith run.state = true
  unstarted : state = .awaitingApproval → run.startedAt = none
  since : state = .running → run.startedAt.isSome = true

/-- The run of an attempt fits the state in which its node holds it. -/
def Standing.Agrees (standing : Standing) : Prop :=
  ∀ state, standing.held = some state → ∃ run, standing.run = some run ∧ Fits state run

section Moves

variable {step : Step} {id : GraphRunId} {nodeId : GraphNodeId} {runId : RunId} {before after : Standing}

theorem Fits.ended {state : GraphNodeState} {run : Run} (terminal : graphState run.state = .ok state) :
    Fits state run := by
  constructor
  · cases ended : run.state <;> simp_all [graphState, GraphNodeState.goesWith] <;> subst terminal <;> rfl
  · rintro rfl
    cases ended : run.state <;> simp_all [graphState]
  · rintro rfl
    cases ended : run.state <;> simp_all [graphState]

/-- A report moves the run of a node at work. -/
theorem Fits.reported {state : GraphNodeState} {run later : Run} (fits : Fits state run)
    (was : run.state.isActive = true ∨ run.state = .recovering) (still : later.state.isActive = true)
    (since : later.startedAt = run.startedAt) : Fits state later := by
  have running : state = .running := by
    have goes := fits.goes
    cases state <;> cases current : run.state <;>
      simp_all [GraphNodeState.goesWith, NormalizedRunState.isActive]
  subst running
  refine ⟨?_, fun none => (by cases none), fun _ => since ▸ fits.since rfl⟩
  cases current : later.state <;> simp_all [GraphNodeState.goesWith, NormalizedRunState.isActive]

/-- Recovery leaves the run of a node that is not at work. -/
theorem Fits.recovered {state : GraphNodeState} {run : Run} (fits : Fits state run) (idle : state ≠ .running)
    (updatedAt : String) : Run.recovered updatedAt run = run := by
  have goes := fits.goes
  have unstarted := fits.unstarted
  unfold Run.recovered wasInterrupted
  cases state <;> cases current : run.state <;> simp_all [GraphNodeState.goesWith]

/-- Only a completion by hand parts a node and its run. -/
theorem Moves.agrees (moves : Moves step id nodeId runId before after)
    (attended : ∀ now expected owner succeeded,
      step.action = .command (.completeGraphNode now id expected nodeId owner succeeded) →
      step.db.held id nodeId runId ≠ some .running)
    (agrees : before.Agrees) : after.Agrees := by
  intro state held
  cases moves with
  | kept => exact agrees state held
  | free | retried | reopened => cases held
  | staged awaiting unstarted =>
    obtain rfl := Option.some.inj held
    exact ⟨_, rfl, by rw [awaiting]; rfl, fun _ => unstarted, fun none => (by cases none)⟩
  | started starting since =>
    obtain rfl := Option.some.inj held
    exact ⟨_, rfl, by rw [starting]; rfl, fun none => (by cases none), fun _ => since⟩
  | dispatched starting since =>
    obtain rfl := Option.some.inj held
    exact ⟨_, rfl, by rw [starting]; rfl, fun none => (by cases none), fun _ => since⟩
  | reported was still since =>
    obtain ⟨run, same, fits⟩ := agrees state held
    obtain rfl := Option.some.inj same
    exact ⟨_, rfl, fits.reported was still since⟩
  | ended terminal =>
    obtain rfl := Option.some.inj held
    exact ⟨_, rfl, .ended terminal⟩
  | completed asked holds => exact absurd holds (attended _ _ _ _ asked)
  | @recovered was _ updatedAt =>
    simp only at held
    split at held
    · cases held
    · rename_i idle
      obtain ⟨run, rfl, fits⟩ := agrees state held
      have apart : state ≠ .running := fun same => idle (same ▸ held)
      exact ⟨run, by rw [Option.map_some, fits.recovered apart updatedAt], fits⟩

end Moves

section Completion

variable [Sha256] {db : Database} {id : GraphRunId} {expected : Nat} {nodeId : GraphNodeId} {owner : String}

/-- The completion of a node by hand would commit, and a run works on the node. -/
def completesHeld (db : Database) (id : GraphRunId) (expected : Nat) (nodeId : GraphNodeId) (owner : String) : Bool :=
  (db.graphs.find? id).any fun row => decide (row.revision = expected) && isOk (validateStored db row.execution) &&
    decide (bump row.execution.revision < sqlLimit) &&
    (row.execution.node? nodeId).any fun node =>
      decide (node.state = .running) && decide (node.owner = some owner) && node.runId.isSome

theorem completesHeld_iff : completesHeld db id expected nodeId owner = true ↔
    ∃ row node runId, db.graphs.find? id = some row ∧ row.revision = expected ∧
      validateStored db row.execution = .ok () ∧ bump row.execution.revision < sqlLimit ∧
      row.execution.node? nodeId = some node ∧ node.state = .running ∧ node.owner = some owner ∧
      node.runId = some runId := by
  simp only [completesHeld, Option.any_eq_true, Bool.and_eq_true, decide_eq_true_eq, isOk_unit,
    Option.isSome_iff_exists]
  constructor
  · rintro ⟨row, found, ⟨⟨current, readable⟩, bounded⟩, node, located, ⟨running, owned⟩, runId, bound⟩
    exact ⟨row, node, runId, found, current, readable, bounded, located, running, owned, bound⟩
  · rintro ⟨row, node, runId, found, current, readable, bounded, located, running, owned, bound⟩
    exact ⟨row, found, ⟨⟨current, readable⟩, bounded⟩, node, located, ⟨running, owned⟩, runId, bound⟩

/-- A completion that commits, of a node that holds a run. -/
theorem completeGraphNode_held {now : Nat} {succeeded : Bool} {result : Database × Unit} {runId : RunId}
    (committed : completeGraphNode db now id expected nodeId owner succeeded = .ok result)
    (held : db.held id nodeId runId = some .running) : completesHeld db id expected nodeId owner = true := by
  simp only [completeGraphNode, updateStoredGraph, bind_ok, exists_unit, loadGraph_ok, Prod.exists, lift_ok,
    updateGraph_ok, pure_ok, Prod.mk.injEq] at committed
  obtain ⟨_, ⟨row, found, current, readable, rfl⟩, execution, ⟨_, completed, _, rfl⟩, _, _, ⟨bounded, _⟩, _⟩ := committed
  obtain ⟨node, located, running, owned, rfl⟩ := GraphExecution.complete_ok completed
  rw [held_found found, GraphExecution.stateFor_found located] at held
  have bound := (GraphNodeExecution.stateFor_some held).1
  have revised : bump row.execution.revision < sqlLimit := by
    cases succeeded <;> exact bounded
  exact completesHeld_iff.mpr ⟨row, node, runId, found, current, readable, revised, located, running, owned, bound⟩

/-- It ends the node, and leaves the run at work. -/
theorem completeGraphNode_commits (sound : SoundGraphs db) (tracked : Tracked db id)
    (holds : completesHeld db id expected nodeId owner = true) (now : Nat) (succeeded : Bool) :
    ∃ runId after, completeGraphNode db now id expected nodeId owner succeeded = .ok (after, ()) ∧
      after.identity = db.identity ∧ db.held id nodeId runId = some .running ∧
      after.held id nodeId runId = some (if succeeded then .succeeded else .failed) := by
  obtain ⟨row, node, runId, found, current, readable, bounded, located, running, owned, bound⟩ :=
    completesHeld_iff.mp holds
  have valid := (sound id row found).valid
  obtain ⟨other, stored, idle⟩ := tracked.stored
  obtain rfl := Option.some.inj (found.symm.trans stored)
  obtain ⟨execution, completed⟩ : ∃ execution, row.execution.complete nodeId owner succeeded = .ok execution := by
    simp only [GraphExecution.complete, bind_ok, exists_unit, okOr_ok, rejectIf_ok, pure_ok, Bool.not_eq_false',
      GraphExecution.runningFor_iff]
    exact ⟨_, node, located, ⟨running, owned⟩, rfl⟩
  have written : Written row.execution execution := .completed completed
  have checked : execution.validate = .ok () := GraphExecution.validate_iff.mpr (written.kept valid).2.1
  have revised : execution.revision < sqlLimit := by
    obtain ⟨_, _, _, _, rfl⟩ := GraphExecution.complete_ok completed
    cases succeeded <;> exact bounded
  have held : db.held id nodeId runId = some .running := by
    rw [held_found found, GraphExecution.stateFor_found located, GraphNodeExecution.stateFor_bound bound, running]
  refine ⟨runId, { db with
      graphs := db.graphs.update id (GraphRow.store execution (timestamp now)) GraphRow.store_executionId
      events := db.events ++ ["graph.node_completed"] }, ?_, rfl, held, ?_⟩
  · simp only [completeGraphNode, updateStoredGraph, bind_ok, exists_unit, loadGraph_ok, Prod.exists, lift_ok,
      updateGraph_ok, pure_ok, Prod.mk.injEq]
    exact ⟨_, ⟨row, found, current, readable, rfl⟩, execution, ⟨_, completed, trivial, rfl⟩, checked, _,
      ⟨revised, rfl⟩, rfl, trivial⟩
  · rw [held_found found] at held
    rw [held_update found rfl, if_pos rfl]
    exact (GraphExecution.complete_bound idle completed held).now

end Completion

section Runs

variable [Sha256] [SerdeJson] {process : DaemonProcess}

/-- The nodes of a stored execution and the runs they are bound to agree. -/
def NodesAgree (db : Database) (id : GraphRunId) : Prop :=
  ∀ row, db.graphs.find? id = some row → ∀ node ∈ row.execution.nodes, ∀ runId, node.runId = some runId →
    ∃ run, db.identity.content.run? runId = some run ∧ node.state.goesWith run.state = true

/-- They agree in every execution that a decision or a restart created. -/
def GraphsAgree (process : DaemonProcess) : Prop :=
  ∀ id ∈ process.created, NodesAgree process.db id

omit [SerdeJson] in
/-- A node of such an execution would be completed by hand while a run works on it. -/
def completesRun (process : DaemonProcess) : Action → Bool
  | .command (.completeGraphNode _ id expected nodeId owner _) =>
    decide (process.service = .serving) && decide (id ∈ process.created) &&
      completesHeld process.db id expected nodeId owner
  | _ => false

/-- The attempts are tracked, and every run that a node holds fits it. -/
structure AgreementSound (process : DaemonProcess) : Prop where
  attempts : AttemptsSound process
  agrees : ∀ id ∈ process.created, ∀ nodeId runId, (process.db.standing id nodeId runId).Agrees

omit [SerdeJson] in
theorem AgreementSound.fresh : AgreementSound .fresh where
  attempts := .fresh
  agrees _ created := by cases created

omit [SerdeJson] in
theorem AgreementSound.graphsAgree (sound : AgreementSound process) : GraphsAgree process := by
  intro id created row found node member runId bound
  have aligned := (sound.attempts.graphs id row found).valid.aligned
  have located : row.execution.node? node.nodeId = some node := find_of_mem aligned.distinct member
  have held : process.db.held id node.nodeId runId = some node.state := by
    rw [held_found found, GraphExecution.stateFor_found located, GraphNodeExecution.stateFor_bound bound]
  obtain ⟨run, reached, fits⟩ := sound.agrees id created node.nodeId runId node.state held
  exact ⟨run, reached, fits.goes⟩

/-- A completion that is committed parts nothing, if it is not one of a node that a run works on. -/
theorem attended {action : Action} (permitted : completesRun process action = false) {id : GraphRunId}
    (created : id ∈ process.created) (moved : (process.next action).db ≠ process.db) {now expected : Nat}
    {nodeId : GraphNodeId} {owner : String} {succeeded : Bool} {runId : RunId}
    (asked : action = .command (.completeGraphNode now id expected nodeId owner succeeded)) :
    process.db.held id nodeId runId ≠ some .running := by
  intro held
  subst asked
  simp only [DaemonProcess.next] at moved
  rcases DaemonProcess.commit_cases process
      (execute process.db (.completeGraphNode now id expected nodeId owner succeeded)) (fun db => { process with
        db, created := process.created ++ (Command.completeGraphNode now id expected nodeId owner
          succeeded).creates.toList.filter (DaemonProcess.newExecution process.db db) }) with
    ⟨db, serving, committed, _⟩ | ⟨_, same⟩
  · simp only [execute, bind_ok, Prod.exists, pure_ok] at committed
    obtain ⟨_, _, committed, _⟩ := committed
    simp only [completesRun, serving, created, completeGraphNode_held committed held, decide_true, Bool.and_self]
      at permitted
    cases permitted
  · rw [same] at moved
    exact moved rfl

theorem AgreementSound.next (sound : AgreementSound process) {action : Action}
    (permitted : completesRun process action = false) : AgreementSound (process.next action) where
  attempts := sound.attempts.next action
  agrees id created nodeId runId := by
    rcases DaemonProcess.next_tracks sound.attempts action created with ⟨before, tracks⟩ | introduced
    · have agrees := sound.agrees id before nodeId runId
      by_cases same : (process.next action).db = process.db
      · rw [same]
        exact agrees
      · have moves := tracks.moves nodeId runId
        generalize (process.next action).db.standing id nodeId runId = later at moves
        induction moves with
        | refl => exact agrees
        | tail _ last ih => exact last.agrees (fun _ _ _ _ asked => attended permitted before same asked) ih
    · intro state held
      rw [Database.standing, introduced.free] at held
      cases held

theorem AgreementSound.broken (sound : AgreementSound process) {action : Action}
    (completes : completesRun process action = true) : ¬GraphsAgree (process.next action) := by
  intro agree
  cases action with
  | command command =>
    cases command with
    | completeGraphNode now id expected nodeId owner succeeded =>
      simp only [completesRun, Bool.and_eq_true, decide_eq_true_eq] at completes
      obtain ⟨⟨serving, created⟩, holds⟩ := completes
      have tracked := sound.attempts.tracked id created
      obtain ⟨runId, after, committed, identity, held, ended⟩ :=
        completeGraphNode_commits sound.attempts.graphs tracked holds now succeeded
      have next : process.next (.command (.completeGraphNode now id expected nodeId owner succeeded)) =
          { process with db := after, created := process.created ++ [] } := by
        simp only [DaemonProcess.next, execute, committed, DaemonProcess.commit, serving]
        rfl
      rw [next] at agree
      -- the node has ended, and its run is where it was
      obtain ⟨row, found, inside⟩ := Option.bind_eq_some_iff.mp ended
      obtain ⟨node, located, bound, state⟩ := GraphExecution.stateFor_isNode inside
      obtain ⟨run, reached, goes⟩ := agree id (List.mem_append_left _ created) row found node (find_some located).1 runId bound
      obtain ⟨other, again, fits⟩ := sound.agrees id created nodeId runId .running held
      have same : process.db.identity.content.run? runId = some run := identity ▸ reached
      obtain rfl := Option.some.inj (again.symm.trans same)
      have working := fits.goes
      rw [state] at goes
      cases succeeded <;> cases current : other.state <;> simp_all [GraphNodeState.goesWith]
    | _ => cases completes
  | _ => cases completes

/-- Nodes and runs agree in every state of a run of the daemon, exactly when no step completes by hand a node
that a run works on. -/
theorem graphs_agree (actions : List Action) :
    (∀ taken, taken <+: actions → GraphsAgree (DaemonProcess.fresh.run taken)) ↔
      Machine.Allowed DaemonProcess.next (fun process action => completesRun process action = false)
        .fresh actions := by
  have implied : ∀ process, AgreementSound process → GraphsAgree process := fun _ sound => sound.graphsAgree
  have kept : ∀ process action, AgreementSound process → completesRun process action = false →
      AgreementSound (process.next action) := fun _ _ sound permitted => sound.next permitted
  have broken : ∀ process action, AgreementSound process → ¬completesRun process action = false →
      ¬GraphsAgree (process.next action) :=
    fun _ _ sound completes => sound.broken (Bool.eq_true_of_not_eq_false completes)
  exact Machine.holds_along_iff implied kept broken .fresh actions

/-- The node of the first run is completed by hand while the run starts. -/
def completedRun : List Action :=
  firstRun ++ [.command (.completeGraphNode 7 (nth 24) 1 (nth 21) "console" true)]

omit [Sha256] [SerdeJson] in
theorem graphs_agree_fails :
    ¬GraphsAgree (@DaemonProcess.run (.table []) SerdeJson.compact .fresh completedRun) := by
  intro agree
  obtain ⟨created, held, starting⟩ :
      nth 24 ∈ (@DaemonProcess.run (.table []) SerdeJson.compact .fresh completedRun).created ∧
      (@DaemonProcess.run (.table []) SerdeJson.compact .fresh completedRun).db.held (nth 24) (nth 21) (nth 31) =
        some .succeeded ∧
      (@DaemonProcess.run (.table []) SerdeJson.compact .fresh completedRun).db.identity.content.run? (nth 31) =
        some startedRun := by
    decide +kernel
  obtain ⟨row, found, inside⟩ := Option.bind_eq_some_iff.mp held
  obtain ⟨node, located, bound, state⟩ := GraphExecution.stateFor_isNode inside
  obtain ⟨run, reached, goes⟩ := agree (nth 24) created row found node (find_some located).1 (nth 31) bound
  obtain rfl := Option.some.inj (starting.symm.trans reached)
  rw [state] at goes
  cases goes

end Runs

end Bastet.Daemon
