import Bastet.Daemon.LaunchLedger
import Bastet.Daemon.RunControl
import Bastet.Daemon.Verdicts

/-! Every answer to a cancel request is truthful: a request that is accepted belongs to a run
whose worker was cancelled, and no request waits longer than its timeout. -/

set_option autoImplicit false

namespace Bastet.Daemon

open Fallible Bastet.Core

/-- How far a request has come. -/
@[simp] def CancelPhase.rank : CancelPhase → Nat
  | .routed => 0
  | .checked => 1
  | .entered => 2
  | .sent => 3
  | .waiting _ => 4
  | .confirmed => 5
  | .answered _ | .lost => 6

theorem CancelPhase.rank_le (phase : CancelPhase) : phase.rank ≤ 6 := by
  cases phase <;> simp

/-- The request has been told that it is accepted, or is about to tell. -/
def CancelRequest.Promised (request : CancelRequest) : Prop :=
  request.acknowledgement = some .accepted ∨ request.phase = .confirmed ∨ request.phase = .answered .accepted

/-- What one step of the machine may do to a request. -/
inductive RequestStep (state : RunControl) (action : ControlAction) (request : CancelRequest) : CancelRequest → Prop
  | kept : RequestStep state action request request
  | advanced {phase : CancelPhase} (forward : phase.rank = request.phase.rank + 1) (early : phase.rank ≤ 4)
      (now : ∀ since, phase = .waiting since → since = state.clock) : RequestStep state action request { request with phase }
  | refused : RequestStep state action request request.refuse
  | acknowledged {outcome : ProviderOutcome} (held : state.outcome = some outcome) :
      RequestStep state action request
        (request.acknowledge (if outcome.terminalState = NormalizedRunState.cancelled then .accepted else .refused))
  | settled {since : Nat} (waited : request.phase = .waiting since) : RequestStep state action request request.settle
  | recorded (answer : CancelAnswer) (confirmed : request.phase = .confirmed) :
      RequestStep state action request { request with phase := .answered answer }
  | lost {now : Nat} (restarts : action = .store (.restart now)) : RequestStep state action request request.lose

namespace RequestStep

variable {state : RunControl} {action : ControlAction} {request later : CancelRequest}

theorem rank_le (stepped : RequestStep state action request later) : request.phase.rank ≤ later.phase.rank := by
  cases stepped with
  | kept => exact Nat.le_refl _
  | advanced forward => exact forward ▸ Nat.le_succ _
  | refused => exact request.phase.rank_le
  | acknowledged =>
    unfold CancelRequest.acknowledge
    split <;> exact Nat.le_refl _
  | settled waited =>
    unfold CancelRequest.settle
    split <;> simp [waited, CancelRequest.refuse]
  | recorded => exact request.phase.rank_le
  | lost =>
    unfold CancelRequest.lose
    split
    · exact Nat.le_refl _
    · exact request.phase.rank_le

/-- A request is promised what the worker's outcome says. -/
theorem promised (stepped : RequestStep state action request later) (told : later.Promised) :
    request.Promised ∨ ∃ outcome, state.outcome = some outcome ∧ outcome.terminalState = .cancelled := by
  cases stepped with
  | kept => exact .inl told
  | advanced forward early =>
    rcases told with acknowledged | rfl | rfl
    · exact .inl (.inl acknowledged)
    · simp at early
    · simp at early
  | refused =>
    rcases told with acknowledged | phase | phase
    · exact .inl (.inl acknowledged)
    · cases phase
    · cases phase
  | @acknowledged outcome held =>
    unfold CancelRequest.acknowledge at told
    split at told
    · rcases told with acknowledged | phase | phase
      · by_cases cancelled : outcome.terminalState = .cancelled
        · exact .inr ⟨outcome, held, cancelled⟩
        · rw [if_neg cancelled] at acknowledged
          cases acknowledged
      · exact .inl (.inr (.inl phase))
      · exact .inl (.inr (.inr phase))
    · exact .inl told
  | settled =>
    unfold CancelRequest.settle at told
    split at told
    · rename_i acknowledged
      exact .inl (.inl acknowledged)
    · rcases told with acknowledged | phase | phase
      · exact .inl (.inl acknowledged)
      · cases phase
      · cases phase
  | recorded answer confirmed => exact .inl (.inr (.inl confirmed))
  | lost =>
    unfold CancelRequest.lose at told
    split at told
    · exact .inl told
    · rcases told with acknowledged | phase | phase
      · exact .inl (.inl acknowledged)
      · cases phase
      · cases phase

/-- Only the end of the process takes a connection away. -/
theorem loses (stepped : RequestStep state action request later) (lost : later.phase = .lost) :
    request.phase = .lost ∨ ∃ now, action = .store (.restart now) := by
  cases stepped with
  | kept => exact .inl lost
  | advanced forward early =>
    dsimp only at lost
    simp [lost] at early
  | refused => cases lost
  | acknowledged =>
    unfold CancelRequest.acknowledge at lost
    split at lost <;> exact .inl lost
  | settled =>
    unfold CancelRequest.settle at lost
    split at lost <;> cases lost
  | recorded => cases lost
  | lost restarts => exact .inr ⟨_, restarts⟩

/-- A request begins to wait at the reading of the clock. -/
theorem waits {since : Nat} (stepped : RequestStep state action request later) (waiting : later.phase = .waiting since) :
    request.phase = .waiting since ∨ since = state.clock := by
  cases stepped with
  | kept => exact .inl waiting
  | advanced forward early now => exact .inr (now since waiting)
  | refused => cases waiting
  | acknowledged =>
    unfold CancelRequest.acknowledge at waiting
    split at waiting <;> exact .inl waiting
  | settled =>
    unfold CancelRequest.settle at waiting
    split at waiting <;> cases waiting
  | recorded => cases waiting
  | lost =>
    unfold CancelRequest.lose at waiting
    split at waiting
    · exact .inl waiting
    · cases waiting

end RequestStep

namespace RunControl

section Steps

/-- Every request takes a step, and none is added. -/
def Stepped (state : RunControl) (action : ControlAction) (later : RunControl) : Prop :=
  ∀ index : Nat, Option.Rel (RequestStep state action) state.requests[index]? later.requests[index]?

variable {state later : RunControl} {action : ControlAction}

theorem Stepped.of_same (same : later.requests = state.requests) : Stepped state action later := by
  intro index
  rw [same]
  cases state.requests[index]? with
  | none => exact .none
  | some request => exact .some .kept

theorem Stepped.of_modify {changed : Nat} {change : CancelRequest → CancelRequest}
    (modified : later.requests = state.requests.modify changed change)
    (stepped : ∀ request, state.requests[changed]? = some request → RequestStep state action request (change request)) :
    Stepped state action later := by
  intro index
  rw [modified, List.getElem?_modify]
  cases found : state.requests[index]? with
  | none => exact .none
  | some request =>
    refine .some ?_
    split
    · rename_i here
      exact stepped request (here ▸ found)
    · exact .kept

theorem Stepped.of_map {change : CancelRequest → CancelRequest} (mapped : later.requests = state.requests.map change)
    (stepped : ∀ request, RequestStep state action request (change request)) : Stepped state action later := by
  intro index
  rw [mapped, List.getElem?_map]
  cases state.requests[index]? with
  | none => exact .none
  | some request => exact .some (stepped request)

theorem inPhase_cases (index : Nat) (phase : CancelPhase) (step : CancelRequest → RunControl) :
    state.inPhase index phase step = state ∨ ∃ request, state.requests[index]? = some request ∧
      request.phase = phase ∧ state.inPhase index phase step = step request := by
  unfold inPhase requestIn?
  cases found : state.requests[index]? with
  | none => exact .inl rfl
  | some request =>
    rw [Option.filter_some]
    by_cases here : request.phase = phase
    · exact .inr ⟨request, rfl, here, by simp [here]⟩
    · exact .inl (by simp [here])

/-- What a request does in one phase: it goes on to the next one, or is refused. -/
theorem Stepped.inPhase {index : Nat} {phase : CancelPhase} {step : CancelRequest → RunControl}
    (stepped : ∀ request, state.requests[index]? = some request → request.phase = phase → Stepped state action (step request)) :
    Stepped state action (state.inPhase index phase step) := by
  rcases state.inPhase_cases index phase step with same | ⟨request, found, here, taken⟩
  · exact .of_same (congrArg requests same)
  · rw [taken]
    exact stepped request found here

theorem Stepped.moveTo {index : Nat} {phase : CancelPhase} {request : CancelRequest} (middle : RunControl)
    (found : state.requests[index]? = some request) (same : middle.requests = state.requests)
    (forward : phase.rank = request.phase.rank + 1) (early : phase.rank ≤ 4)
    (now : ∀ since, phase = .waiting since → since = state.clock) : Stepped state action (middle.moveTo index phase) := by
  refine .of_modify (congrArg _ same) fun other again => ?_
  obtain rfl := Option.some.inj (found.symm.trans again)
  exact .advanced forward early now

theorem Stepped.refuse (state : RunControl) (action : ControlAction) (index : Nat) : Stepped state action (state.update index .refuse) :=
  .of_modify rfl fun _ _ => .refused

variable [Sha256] [SerdeJson]

/-- Apart from a request that arrives, a step of the machine is a step of every request. -/
theorem next_stepped (state : RunControl) (action : ControlAction)
    (old : ∀ now expected, action ≠ .request now expected) : Stepped state action (state.next action) := by
  cases action with
  | request now expected => exact absurd rfl (old now expected)
  | preflight index =>
    refine .inPhase fun request found here => ?_
    split
    · exact .moveTo state found rfl (by simp [here]) (by simp) (by simp)
    · exact .refuse state _ index
  | enter index =>
    refine .inPhase fun request found here => ?_
    split
    · exact .moveTo state found rfl (by simp [here]) (by simp) (by simp)
    · exact .refuse state _ index
  | send index =>
    refine .inPhase fun request found here => ?_
    split
    · exact .moveTo _ found rfl (by simp [here]) (by simp) (by simp)
    · exact .refuse state _ index
  | signal index =>
    refine .inPhase fun request found here => ?_
    exact .moveTo _ found rfl (by simp [here]) (by simp) (by simp)
  | receive index =>
    simp only [next]
    split
    · rename_i expected since acknowledgement found
      split
      · refine .of_modify rfl fun request again => ?_
        obtain rfl := Option.some.inj (found.symm.trans again)
        exact .settled rfl
      · exact .of_same rfl
    · exact .of_same rfl
  | record now index =>
    refine .inPhase fun request found here => .of_modify rfl fun other again => ?_
    obtain rfl := Option.some.inj (found.symm.trans again)
    exact .recorded _ here
  | elapse milliseconds =>
    refine .of_map rfl fun request => ?_
    split
    · rename_i late
      unfold CancelRequest.overdue at late
      split at late
      · rename_i since waiting
        exact .settled waiting
      · cases late
    · exact .kept
  | drain =>
    simp only [next]
    split
    · rename_i held _
      exact .of_modify rfl fun request _ => .acknowledged held
    · exact .of_same rfl
    · exact .of_same rfl
  | store action =>
    cases action with
    | restart now => exact .of_map rfl fun request => .lost rfl
    | _ => exact .of_same rfl
  | finishRunner | persist | unregister | release =>
    simp only [next]
    split <;> exact .of_same rfl

theorem next_requests (state : RunControl) (action : ControlAction) {later : CancelRequest}
    (member : later ∈ (state.next action).requests) :
    (∃ request ∈ state.requests, RequestStep state action request later) ∨ ∃ now expected,
      action = .request now expected ∧ later = ⟨expected, state.routeRequest now expected, none⟩ := by
  by_cases arrives : ∃ now expected, action = .request now expected
  · obtain ⟨now, expected, rfl⟩ := arrives
    rcases List.mem_append.mp member with old | new
    · exact .inl ⟨later, old, .kept⟩
    · exact .inr ⟨now, expected, rfl, List.mem_singleton.mp new⟩
  · left
    obtain ⟨index, found⟩ := List.mem_iff_getElem?.mp member
    have stepped := state.next_stepped action (fun now expected same => arrives ⟨now, expected, same⟩) index
    rw [found] at stepped
    cases before : state.requests[index]? with
    | none =>
      rw [before] at stepped
      cases stepped
    | some request =>
      rw [before] at stepped
      cases stepped with
      | some stepped => exact ⟨request, List.mem_of_getElem? before, stepped⟩

/-- A request that is there stays, and does not go back. -/
theorem next_rank (state : RunControl) (action : ControlAction) {index : Nat} {request : CancelRequest}
    (found : state.requests[index]? = some request) :
    ∃ later, (state.next action).requests[index]? = some later ∧ request.phase.rank ≤ later.phase.rank := by
  by_cases arrives : ∃ now expected, action = .request now expected
  · obtain ⟨now, expected, rfl⟩ := arrives
    refine ⟨request, ?_, Nat.le_refl _⟩
    simp only [next]
    rw [List.getElem?_append_left (List.getElem?_eq_some_iff.mp found).1, found]
  · have stepped := state.next_stepped action (fun now expected same => arrives ⟨now, expected, same⟩) index
    rw [found] at stepped
    cases after : (state.next action).requests[index]? with
    | none =>
      rw [after] at stepped
      cases stepped
    | some later =>
      rw [after] at stepped
      cases stepped with
      | some stepped => exact ⟨later, rfl, stepped.rank_le⟩

end Steps

section Worker

variable [Sha256] [SerdeJson]

theorem next_receipt (state : RunControl) (action : ControlAction) : (state.next action).receipt = state.receipt := by
  cases action with
  | store action => cases action <;> rfl
  | request | elapse => rfl
  | _ =>
    simp only [next, inPhase]
    repeat' split
    all_goals rfl

/-- The outcome is set when the runner ends, and at no other step. -/
theorem next_worker (state : RunControl) (action : ControlAction) :
    ((state.next action).outcome = state.outcome ∧
      ((state.next action).worker = .running → state.worker = .running)) ∨
    (state.worker = .running ∧ (state.next action).worker = .draining) := by
  cases action with
  | store action => cases action <;> exact .inl ⟨rfl, by simp [next]⟩
  | request | elapse => exact .inl ⟨rfl, id⟩
  | finishRunner ending =>
    simp only [next]
    split
    · rename_i running _
      exact .inr ⟨running, rfl⟩
    · exact .inl ⟨rfl, id⟩
  | persist now costId =>
    simp only [next]
    split
    · refine .inl ⟨rfl, fun running => ?_⟩
      dsimp only at running
      unfold WorkerPhase.persist at running
      split at running <;> cases running
    · exact .inl ⟨rfl, id⟩
  | _ =>
    simp only [next, inPhase]
    repeat' split
    all_goals exact .inl ⟨rfl, by simp [update, moveTo]⟩

/-- The daemon takes a step of the machine as it takes any step; it is the worker that finishes the run, with
the outcome of the runner. -/
theorem next_process (state : RunControl) (action : ControlAction) (alone : state.WorkerFinishes action) :
    (state.next action).process = state.process ∨ ∃ step, (state.next action).process = state.process.next step ∧
      ∀ now costId id submitted, step = .command (.finishGraphNodeRun now costId id submitted) →
        submitted.runId = state.receipt.runId →
          ∃ outcome, state.outcome = some outcome ∧ outcome.terminalState = submitted.terminalState := by
  cases action with
  | request now expected =>
    exact .inr ⟨.command (.cancelStagedRun now state.receipt.runId expected), rfl, fun _ _ _ _ same => by cases same⟩
  | record now index =>
    simp only [next, inPhase]
    split
    · exact .inr ⟨.command (.recordProviderCancelAfterPreflight now state.receipt.runId), rfl,
        fun _ _ _ _ same => by cases same⟩
    · exact .inl rfl
  | persist now costId =>
    simp only [next]
    split
    · rename_i stage outcome _ held
      cases stage with
      | finish catalog m3 graph =>
        refine .inr ⟨.command (.finishGraphNodeRun now costId state.receipt.executionId
          (finishCommand state.receipt outcome.withoutStrayOutput catalog m3 graph)), rfl,
          fun _ _ _ submitted same _ => ⟨outcome, held, ?_⟩⟩
        cases same
        exact outcome.withoutStrayOutput_terminalState.symm
      | _ => exact .inl rfl
    · exact .inl rfl
  | store action =>
    refine .inr ⟨action, ?_, fun _ _ _ submitted same here => absurd (congrArg some here) ?_⟩
    · cases action <;> rfl
    · subst same
      exact alone
  | elapse => exact .inl rfl
  | _ =>
    left
    simp only [next, inPhase]
    repeat' split
    all_goals rfl

end Worker

section Truthful

variable [Sha256] [SerdeJson] {state : RunControl}

/-- No request waits longer than its timeout. -/
def Timely (state : RunControl) : Prop :=
  ∀ request ∈ state.requests, ∀ since, request.phase = .waiting since →
    since ≤ state.clock ∧ state.clock < since + cancelAckTimeout

omit [Sha256] [SerdeJson] in
/-- A wait that is not over at a later reading of the clock. -/
theorem not_overdue {request : CancelRequest} {since clock : Nat} (waiting : request.phase = .waiting since)
    (early : request.overdue clock = false) : clock < since + cancelAckTimeout := by
  unfold CancelRequest.overdue at early
  rw [waiting] at early
  exact Nat.not_le.mp (of_decide_eq_false early)

theorem routeRequest_phase (state : RunControl) (now expected since : Nat) :
    state.routeRequest now expected ≠ .waiting since := by
  unfold routeRequest
  split <;> simp

theorem next_clock (state : RunControl) (action : ControlAction) (still : ∀ milliseconds, action ≠ .elapse milliseconds) :
    (state.next action).clock = state.clock := by
  cases action with
  | elapse milliseconds => exact absurd rfl (still milliseconds)
  | store action => cases action <;> rfl
  | request => rfl
  | _ =>
    simp only [next, inPhase]
    repeat' split
    all_goals rfl

theorem Timely.next (timely : state.Timely) (action : ControlAction) : (state.next action).Timely := by
  intro later member since waiting
  by_cases elapses : ∃ milliseconds, action = .elapse milliseconds
  · obtain ⟨milliseconds, rfl⟩ := elapses
    obtain ⟨request, old, rfl⟩ := List.mem_map.mp member
    -- a request that still waits has time left
    split at waiting
    · unfold CancelRequest.settle at waiting
      split at waiting <;> cases waiting
    · rename_i early
      have begun := (timely request old since waiting).1
      exact ⟨Nat.le_trans begun (Nat.le_add_right ..), not_overdue waiting (Bool.eq_false_of_not_eq_true early)⟩
  · rw [state.next_clock action fun milliseconds same => elapses ⟨milliseconds, same⟩]
    rcases state.next_requests action member with ⟨request, old, stepped⟩ | ⟨now, expected, rfl, rfl⟩
    · rcases stepped.waits waiting with waited | rfl
      · exact timely request old since waited
      · exact ⟨Nat.le_refl _, Nat.lt_add_of_pos_right (by decide)⟩
    · exact absurd waiting (state.routeRequest_phase now expected since)

/-- The run has no verdict but the one its worker came to, and a request is promised what the worker came to. -/
structure Truthful (state : RunControl) : Prop where
  ledgers : LedgersSound state.process
  recorded : ∃ run, state.process.db.identity.content.run? state.receipt.runId = some run ∧
    run.state ≠ .awaitingApproval ∧ (run.state.isVerdict = true →
      ∃ outcome, state.outcome = some outcome ∧ outcome.terminalState = run.state)
  undecided : state.worker = .running → state.outcome = none
  promised : ∀ request ∈ state.requests, request.Promised →
    ∃ outcome, state.outcome = some outcome ∧ outcome.terminalState = .cancelled

/-- No launch waits for a run that is dispatched. -/
theorem cancelStagedRun_none {db : Database} (sound : LaunchesSound db) {runId : RunId} {run : Run}
    (found : db.identity.content.run? runId = some run) (dispatched : run.state ≠ .awaitingApproval)
    (now expected : Nat) : cancelStagedRun db now runId expected = .ok (db, none) := by
  have unstaged : (db.staged.find? runId).filter (·.state.isWaiting) = none := by
    rw [Option.filter_eq_none_iff]
    intro row located waiting
    have named := Table.find?_key located
    have held : ∃ held, db.identity.content.run? row.runId = some held ∧ held.state = .awaitingApproval := by
      cases sound.coherent row (Table.mem_of_find? located) with
      | awaiting _ held => exact ⟨_, held.runFound, held.runState⟩
      | ready _ held => exact ⟨_, held.runFound, held.runState⟩
      | cancelled state => simp [state, StagedLaunchState.isWaiting] at waiting
      | claimed state =>
        rcases state with state | state <;> simp [state, StagedLaunchState.isWaiting] at waiting
    obtain ⟨other, again, awaiting⟩ := held
    rw [named] at again
    obtain rfl := Option.some.inj (found.symm.trans again)
    exact dispatched awaiting
  unfold cancelStagedRun
  rw [unstaged]
  rfl

/-- The staging of launches accepts no request for a run that has a worker. -/
theorem Truthful.routed (truthful : state.Truthful) (now expected : Nat) :
    ¬CancelRequest.Promised ⟨expected, state.routeRequest now expected, none⟩ := by
  obtain ⟨run, found, dispatched, _⟩ := truthful.recorded
  have routed : state.routeRequest now expected = .routed ∨
      state.routeRequest now expected = .answered .refused := by
    unfold routeRequest DaemonProcess.read
    dsimp only
    rw [cancelStagedRun_none truthful.ledgers.launches found dispatched]
    by_cases serving : state.process.service = .serving
    · rw [if_pos serving]
      exact .inl rfl
    · rw [if_neg serving]
      exact .inr rfl
  rintro (acknowledged | phase | phase)
  · cases acknowledged
  all_goals
    dsimp only at phase
    rcases routed with same | same <;> rw [same] at phase <;> cases phase

theorem Truthful.next_outcome (truthful : state.Truthful) (action : ControlAction) {outcome : ProviderOutcome}
    (held : state.outcome = some outcome) : (state.next action).outcome = some outcome := by
  rcases state.next_worker action with ⟨same, _⟩ | ⟨running, _⟩
  · exact same.trans held
  · rw [truthful.undecided running] at held
    cases held

theorem Truthful.next (truthful : state.Truthful) {action : ControlAction} (alone : state.WorkerFinishes action) :
    (state.next action).Truthful where
  ledgers := by
    rcases state.next_process action alone with same | ⟨step, same, _⟩
    · exact same ▸ truthful.ledgers
    · exact same ▸ truthful.ledgers.next _ step
  recorded := by
    obtain ⟨run, found, dispatched, reported⟩ := truthful.recorded
    have later : run.state.isVerdict = true →
        ∃ outcome, (state.next action).outcome = some outcome ∧ outcome.terminalState = run.state := by
      intro verdict
      obtain ⟨outcome, held, ended⟩ := reported verdict
      exact ⟨outcome, truthful.next_outcome action held, ended⟩
    rw [state.next_receipt action]
    rcases state.next_process action alone with same | ⟨step, same, own⟩
    · rw [same]
      exact ⟨run, found, dispatched, later⟩
    · rw [same]
      rcases state.process.next_change step with unchanged | change
      · rw [unchanged]
        exact ⟨run, found, dispatched, later⟩
      · obtain ⟨last, reached, verdicts⟩ := change.verdict found
        obtain ⟨again, advanced, advances⟩ := change.evolves.kept _ run found
        obtain rfl := Option.some.inj (reached.symm.trans advanced)
        refine ⟨last, reached, ?_, fun verdict => ?_⟩
        · rcases advances.moved with rfl | moved
          · exact dispatched
          · exact moved.dispatched
        · rcases verdicts verdict with kept | ⟨now, costId, id, submitted, rfl, named, ended⟩
          · rw [kept] at verdict ⊢
            exact later verdict
          · obtain ⟨outcome, held, terminal⟩ := own now costId id submitted rfl named
            exact ⟨outcome, truthful.next_outcome _ held, terminal.trans ended⟩
  undecided running := by
    rcases state.next_worker action with ⟨same, before⟩ | ⟨_, draining⟩
    · exact same.trans (truthful.undecided (before running))
    · rw [draining] at running
      cases running
  promised later member told := by
    rcases state.next_requests action member with ⟨request, old, stepped⟩ | ⟨now, expected, rfl, rfl⟩
    · have decided : ∃ outcome, state.outcome = some outcome ∧ outcome.terminalState = .cancelled := by
        rcases stepped.promised told with before | decided
        · exact truthful.promised request old before
        · exact decided
      obtain ⟨outcome, held, cancelled⟩ := decided
      exact ⟨outcome, truthful.next_outcome action held, cancelled⟩
    · exact absurd told (truthful.routed now expected)

theorem Timely.run (timely : state.Timely) (actions : List ControlAction) : (state.run actions).Timely :=
  Machine.run_preserves (fun _ action timely => timely.next action) timely actions

theorem run_receipt (state : RunControl) (actions : List ControlAction) : (state.run actions).receipt = state.receipt := by
  induction actions generalizing state with
  | nil => rfl
  | cons action rest ih => exact (ih _).trans (state.next_receipt action)

/-- While the worker is the only one that finishes the run, what is said stays true, and an outcome stays. -/
theorem Truthful.run (truthful : state.Truthful) {actions : List ControlAction}
    (alone : Machine.Allowed RunControl.next WorkerFinishes state actions) :
    (state.run actions).Truthful ∧
      ∀ outcome, state.outcome = some outcome → (state.run actions).outcome = some outcome := by
  induction actions generalizing state with
  | nil => exact ⟨truthful, fun _ held => held⟩
  | cons action rest ih =>
    obtain ⟨later, kept⟩ := ih (truthful.next alone.1) alone.2
    exact ⟨later, fun outcome held => kept outcome (truthful.next_outcome action held)⟩

end Truthful

section Answers

variable [Sha256] [SerdeJson] {state : RunControl}

omit [Sha256] [SerdeJson] in
/-- The steps of a request itself. -/
def ownStep (now index : Nat) : Nat → ControlAction
  | 0 => .preflight index
  | 1 => .enter index
  | 2 => .send index
  | 3 => .signal index
  | 4 => .elapse cancelAckTimeout
  | _ => .record now index

omit [Sha256] [SerdeJson] in
/-- They take a request from its arrival to its answer. -/
def ownSteps (now index : Nat) : List ControlAction :=
  (List.range 6).map (ownStep now index)

omit [Sha256] [SerdeJson] in
theorem settle_rank (request : CancelRequest) : 5 ≤ request.settle.phase.rank := by
  unfold CancelRequest.settle
  split <;> simp [CancelRequest.refuse]

omit [Sha256] [SerdeJson] in
theorem inPhase_found {index : Nat} {phase : CancelPhase} {request : CancelRequest}
    (found : state.requests[index]? = some request) (here : request.phase = phase) (step : CancelRequest → RunControl) :
    state.inPhase index phase step = step request := by
  unfold inPhase requestIn?
  rw [found, Option.filter_some]
  simp [here]

omit [Sha256] [SerdeJson] in
theorem update_found {index : Nat} {request : CancelRequest} (found : state.requests[index]? = some request)
    (change : CancelRequest → CancelRequest) : (state.update index change).requests[index]? = some (change request) := by
  unfold update
  rw [List.getElem?_modify_eq, found]
  rfl

/-- A step of its own takes a request out of its phase, whatever the worker does. -/
theorem ownStep_rank (timely : state.Timely) (now : Nat) {index step : Nat} {request : CancelRequest}
    (found : state.requests[index]? = some request) (reached : step ≤ request.phase.rank) (more : step < 6) :
    ∃ later, (state.next (ownStep now index step)).requests[index]? = some later ∧ step + 1 ≤ later.phase.rank := by
  rcases Nat.lt_or_eq_of_le reached with beyond | here
  · obtain ⟨later, kept, forward⟩ := state.next_rank (ownStep now index step) found
    exact ⟨later, kept, Nat.le_trans beyond forward⟩
  · subst here
    have moved : ∀ phase, (state.moveTo index phase).requests[index]? = some { request with phase } :=
      fun _ => update_found found _
    have refused := update_found found CancelRequest.refuse
    cases phase : request.phase with
    | routed =>
      simp only [CancelPhase.rank, ownStep, next, inPhase_found found phase]
      split
      · exact ⟨_, moved _, Nat.le_refl _⟩
      · exact ⟨_, refused, by simp [CancelRequest.refuse]⟩
    | checked =>
      simp only [CancelPhase.rank, ownStep, next, inPhase_found found phase]
      split
      · exact ⟨_, moved _, Nat.le_refl _⟩
      · exact ⟨_, refused, by simp [CancelRequest.refuse]⟩
    | entered =>
      simp only [CancelPhase.rank, ownStep, next, inPhase_found found phase]
      split
      · exact ⟨_, moved _, Nat.le_refl _⟩
      · exact ⟨_, refused, by simp [CancelRequest.refuse]⟩
    | sent =>
      simp only [CancelPhase.rank, ownStep, next, inPhase_found found phase]
      exact ⟨_, moved _, Nat.le_refl _⟩
    | waiting since =>
      have begun := (timely request (List.mem_of_getElem? found) since phase).1
      have late : request.overdue (state.clock + cancelAckTimeout) = true := by
        unfold CancelRequest.overdue
        rw [phase]
        exact decide_eq_true (Nat.add_le_add_right begun _)
      simp only [CancelPhase.rank, ownStep, next, List.getElem?_map, found, Option.map_some, late, if_true]
      exact ⟨_, rfl, settle_rank request⟩
    | confirmed =>
      simp only [CancelPhase.rank, ownStep, next, inPhase_found found phase]
      exact ⟨_, moved _, Nat.le_refl _⟩
    | answered | lost =>
      rw [phase] at more
      cases Nat.lt_irrefl _ more

/-- A request is answered when its own steps are among those that are taken. -/
theorem ownSteps_close (timely : state.Timely) (now : Nat) {index step : Nat} {request : CancelRequest}
    (found : state.requests[index]? = some request) (reached : step ≤ request.phase.rank) {actions : List ControlAction}
    (taken : ((ownSteps now index).drop step).Sublist actions) :
    ∃ later, (state.run actions).requests[index]? = some later ∧ 6 ≤ later.phase.rank := by
  induction actions generalizing state step request with
  | nil =>
    refine ⟨request, found, Nat.le_trans ?_ reached⟩
    simpa [ownSteps] using List.sublist_nil.mp taken
  | cons action rest ih =>
    have timely' := timely.next action
    by_cases done : 6 ≤ step
    · obtain ⟨later, kept, forward⟩ := state.next_rank action found
      refine ih timely' kept (Nat.le_trans reached forward) ?_
      simp [ownSteps, List.drop_eq_nil_of_le, done]
    · have more : step < 6 := Nat.lt_of_not_le done
      have split_ : (ownSteps now index).drop step = ownStep now index step :: (ownSteps now index).drop (step + 1) := by
        rw [List.drop_eq_getElem_cons (by simpa [ownSteps] using more)]
        simp [ownSteps]
      rw [split_] at taken
      cases taken with
      | cons _ skipped =>
        obtain ⟨later, kept, forward⟩ := state.next_rank action found
        exact ih timely' kept (Nat.le_trans reached forward) (split_ ▸ skipped)
      | cons_cons _ remaining =>
        obtain ⟨later, kept, forward⟩ := ownStep_rank timely now found reached more
        exact ih timely' kept forward remaining

theorem run_lost {actions : List ControlAction} {request : CancelRequest}
    (connected : ∀ request ∈ state.requests, request.phase ≠ .lost)
    (member : request ∈ (state.run actions).requests) (lost : request.phase = .lost) :
    ∃ now, .store (.restart now) ∈ actions := by
  induction actions generalizing state with
  | nil => exact absurd lost (connected request member)
  | cons action rest ih =>
    by_cases restarts : ∃ now, action = .store (.restart now)
    · obtain ⟨now, rfl⟩ := restarts
      exact ⟨now, List.mem_cons_self ..⟩
    · have still : ∀ later ∈ (state.next action).requests, later.phase ≠ .lost := by
        intro later inside gone
        rcases state.next_requests action inside with ⟨old, before, stepped⟩ | ⟨now, expected, rfl, rfl⟩
        · rcases stepped.loses gone with already | restarted
          · exact connected old before already
          · exact restarts restarted
        · exact absurd gone (by
            simp only [routeRequest]
            split <;> simp)
      obtain ⟨now, taken⟩ := ih still member
      exact ⟨now, List.mem_cons_of_mem _ taken⟩

end Answers

end RunControl

variable [Sha256] [SerdeJson]

open RunControl in
/-- Cancel requests on one run and the worker of the run, in any order of their steps: a run whose cancellation
was accepted gets no verdict, a worker that was not cancelled accepts no request, and every request is answered
in time. -/
theorem cancel_answers_truthful (before : List Action) (receipt : BeginGraphNodeRunReceipt) {run : Run}
    (recorded : (DaemonProcess.fresh.run before).db.identity.content.run? receipt.runId = some run)
    (dispatched : run.state ≠ .awaitingApproval) (unjudged : run.state.isVerdict = false)
    (first rest : List ControlAction)
    (alone : Machine.Allowed RunControl.next WorkerFinishes (.start (DaemonProcess.fresh.run before) receipt)
      (first ++ rest)) :
    let reached := (RunControl.start (DaemonProcess.fresh.run before) receipt).run first
    let last := reached.run rest
    ((∃ request ∈ reached.requests, request.phase = .answered .accepted) →
      (∃ outcome, last.outcome = some outcome ∧ outcome.terminalState = .cancelled) ∧
      ∃ later, last.process.db.identity.content.run? receipt.runId = some later ∧
        later.state ≠ .succeeded ∧ later.state ≠ .failed ∧ later.state ≠ .blocked) ∧
    (∀ outcome, reached.outcome = some outcome → outcome.terminalState ≠ .cancelled →
      ∀ request ∈ last.requests, request.phase ≠ .answered .accepted) ∧
    (∀ request ∈ reached.requests, ∀ since, request.phase = .waiting since →
      reached.clock < since + cancelAckTimeout) ∧
    ∀ (now index : Nat) (request : CancelRequest), reached.requests[index]? = some request →
      (ownSteps now index).Sublist rest →
      ∃ later, last.requests[index]? = some later ∧ ((∃ answer, later.phase = .answered answer) ∨
        later.phase = .lost ∧ ∃ now, .store (.restart now) ∈ first ++ rest) := by
  intro reached last
  have started : (RunControl.start (DaemonProcess.fresh.run before) receipt).Truthful := by
    refine ⟨LedgersSound.run .fresh before, ⟨run, recorded, dispatched, fun verdict => ?_⟩, fun _ => rfl,
      fun request member => by cases member⟩
    rw [unjudged] at verdict
    cases verdict
  have idle : (RunControl.start (DaemonProcess.fresh.run before) receipt).Timely := fun request member => by cases member
  obtain ⟨early, late⟩ := alone.append
  have truthful : reached.Truthful := (started.run early).1
  obtain ⟨ended, kept⟩ := truthful.run late
  have timely : reached.Timely := idle.run first
  refine ⟨fun accepted => ?_, fun outcome held other request member told => ?_,
    fun request member since waiting => (timely request member since waiting).2,
    fun now index request found taken => ?_⟩
  · obtain ⟨request, member, phase⟩ := accepted
    obtain ⟨outcome, held, cancelled⟩ := truthful.promised request member (.inr (.inr phase))
    have final := kept outcome held
    refine ⟨⟨outcome, final, cancelled⟩, ?_⟩
    obtain ⟨later, found, _, reported⟩ := ended.recorded
    have same : last.receipt = receipt := by
      rw [run_receipt, run_receipt]
      rfl
    rw [same] at found
    have open_ : later.state.isVerdict = false := by
      apply Bool.eq_false_of_not_eq_true
      intro verdict
      obtain ⟨other, again, terminal⟩ := reported verdict
      obtain rfl := Option.some.inj (final.symm.trans again)
      rw [← terminal, cancelled] at verdict
      cases verdict
    refine ⟨later, found, ?_, ?_, ?_⟩ <;> intro same <;> rw [same] at open_ <;> cases open_
  · obtain ⟨again, final, cancelled⟩ := ended.promised request member (.inr (.inr told))
    obtain rfl := Option.some.inj ((kept outcome held).symm.trans final)
    exact other cancelled
  · obtain ⟨later, answered, closed⟩ := ownSteps_close timely now found (Nat.zero_le _) taken
    refine ⟨later, answered, ?_⟩
    cases phase : later.phase with
    | answered answer => exact .inl ⟨answer, rfl⟩
    | lost =>
      refine .inr ⟨rfl, ?_⟩
      have member : later ∈ ((RunControl.start (DaemonProcess.fresh.run before) receipt).run (first ++ rest)).requests := by
        unfold RunControl.run
        rw [Machine.run_append]
        exact List.mem_of_getElem? answered
      exact run_lost (fun request member => by cases member) member phase
    | _ => simp [phase] at closed

section FirstCancel

omit [Sha256] [SerdeJson]

/-- The first run, begun for a worker. -/
def firstLaunch : List Action :=
  firstRun.dropLast ++
    [.command (.beginGraphNodeRun 6 ⟨nth 30, nth 31, nth 32⟩ (nth 24) ⟨1, 0, nth 21, providerOwner (nth 21)⟩ none)]

/-- What its begin returned. -/
def firstReceipt : BeginGraphNodeRunReceipt :=
  ⟨nth 24, nth 21, nth 30, nth 31, none, "codex_cli", "gpt", "/workspace", "", 2, 1, 3⟩

/-- A request that the runner sees before it has a session. -/
def firstCancel : List ControlAction :=
  [.request 7 2, .preflight 0, .enter 0, .send 0, .signal 0, .finishRunner .cancelled, .drain, .receive 0, .record 8 0]

/-- The rest of the worker. -/
def firstEnd : List ControlAction :=
  [.drain, .persist 9 (nth 40), .persist 9 (nth 40), .persist 9 (nth 40), .persist 9 (nth 40), .unregister, .release]

theorem cancel_answers_truthful_first :
    ∃ later, (@RunControl.run (.table []) SerdeJson.compact (@RunControl.run (.table []) SerdeJson.compact
        (.start (@DaemonProcess.run (.table []) SerdeJson.compact .fresh firstLaunch) firstReceipt) firstCancel)
        firstEnd).process.db.identity.content.run? (nth 31) = some later ∧
      later.state ≠ .succeeded ∧ later.state ≠ .failed ∧ later.state ≠ .blocked := by
  obtain ⟨recorded, accepted⟩ : (fun process : DaemonProcess =>
      process.db.identity.content.run? (nth 31) = some startedRun ∧
        ∃ request ∈ (@RunControl.run (.table []) SerdeJson.compact (.start process firstReceipt) firstCancel).requests,
          request.phase = .answered .accepted)
      (@DaemonProcess.run (.table []) SerdeJson.compact .fresh firstLaunch) := by
    decide +kernel
  have kept := @cancel_answers_truthful (.table []) SerdeJson.compact firstLaunch firstReceipt startedRun recorded
    (by decide) (by decide) firstCancel firstEnd
    ⟨trivial, trivial, trivial, trivial, trivial, trivial, trivial, trivial, trivial, trivial, trivial, trivial,
      trivial, trivial, trivial, trivial, trivial⟩
  exact (kept.1 accepted).2

end FirstCancel

end Bastet.Daemon
