import Bastet.Daemon.GraphExecutor
import Bastet.Library.Workers

/-! What one step of the executor does to the runs it has begun: it begins one, moves one on with its registration and
its count, or ends them all with the process. -/

set_option autoImplicit false

namespace Bastet.Daemon

open Fallible Bastet.Core

section Turn

variable [Sha256] [SerdeJson]

omit [Sha256] [SerdeJson] in
/-- A step of the daemon that finishes no run, and puts none to work while the daemon is stopping. -/
def Action.isSteady (step : Action) : Prop :=
  step.finishes = none ∧ ∀ db, startsLate db step = false

/-- The process goes on with such a step, or with one that a client asks for. -/
def GoesOn (action : ExecutorAction) (before after : DaemonProcess) : Prop :=
  after = before ∨ ∃ step, after = before.next step ∧ (∀ now, step ≠ .restart now) ∧
    (step.isSteady ∨ action = .store step)

/-- What a launch that moves on brings about. -/
structure Advances (process : DaemonProcess) (old new : Launch) : Prop where
  receipt : new.receipt = old.receipt
  request : new.request = old.request
  /-- No phase is entered from one that is past it. -/
  atStake : new.phase.atStake = true → old.phase.atStake = true
  /-- A selected account keeps its run from a worker. -/
  unworked : old.selectsAccount = true → old.phase.isUnworked = true → new.phase.isUnworked = true
  /-- The runner goes on to the policy with a launch that has no account, and that can be started. -/
  authorising : new.phase = .authorising → old.phase = .authorising ∨
    new.selectsAccount = false ∧ preflightProviderLaunch process.db new.receipt = .ok ()
  /-- The provider is reached with a plan that lets it. -/
  atProvider : new.phase = .atProvider → old.phase = .atProvider ∨ old.phase = .authorising ∧ ∃ plan,
    ProviderLaunchPlan.load process.db new.runId = .ok plan ∧ plan.validateOnlineCliRequirements = .ok ()

/-- A step of the executor, by what it does to the launches, the registry and the counter. -/
inductive Turn (before : GraphExecutor) (action : ExecutorAction) (after : GraphExecutor) : Prop where
  | rested (launches : after.launches = before.launches) (registry : after.registry = before.registry)
      (active : after.active = before.active) (process : GoesOn action before.process after.process)
  | begun (index now : Nat) (ids : RunIds) (id : GraphRunId) (command : BeginGraphNodeRunCommand)
      (binding : ProviderRunBinding) (db : Database) (receipt : BeginGraphNodeRunReceipt)
      (serving : before.process.service = .serving)
      (committed : beginGraphNodeRunInner before.process.db now ids id command (some binding) = .ok (db, receipt))
      (process : after.process =
        before.process.next (.command (.beginGraphNodeRun now ids id command (some binding))))
      (launches : after.launches = before.launches ++ [⟨index, receipt, .begun, false, none⟩])
      (registry : after.registry = before.registry) (active : after.active = before.active)
  | moved (position : Nat) (old new : Launch) (found : before.launches[position]? = some old)
      (advances : Advances before.process old new) (launches : after.launches = before.launches.set position new)
      (registry : after.registry = Workers.enter Launch.runId Launch.isRegistered before.registry old new)
      (active : after.active = Workers.count Launch.isCounted before.active old new)
      (process : after.process = before.process ∨ new.phase.atStake = false ∧ ∃ now costId id command,
        after.process = before.process.next (.command (.finishGraphNodeRun now costId id command)) ∧
          command.runId = old.runId)
  | ended (now : Nat) (restart : action = .store (.restart now))
      (process : after.process = before.process.next (.restart now))
      (launches : after.launches = before.launches.map Launch.lose) (registry : after.registry = [])
      (active : after.active = 0)

/-- An access of `persist_outcome` leaves the process, or is its last one. -/
theorem persistStep_process {process after : DaemonProcess} {receipt : BeginGraphNodeRunReceipt}
    {outcome : ProviderOutcome} {now : Nat} {costId : CostRecordId} {stage : PersistStage}
    {following : Option PersistStage}
    (stepped : persistStep process receipt outcome now costId stage = (after, following)) :
    after = process ∨ following = none ∧ ∃ command,
      after = process.next (.command (.finishGraphNodeRun now costId receipt.executionId command)) ∧
        command.runId = receipt.runId := by
  cases stage with
  | catalog | m3 | graph =>
    left
    simp only [persistStep, Prod.mk.injEq] at stepped
    exact stepped.1.symm
  | finish catalog m3 graph =>
    simp only [persistStep, Prod.mk.injEq] at stepped
    obtain ⟨moved, followed⟩ := stepped
    cases following with
    | none => exact .inr ⟨rfl, _, moved.symm, rfl⟩
    | some stage =>
      -- an answer that is read again has committed nothing
      left
      rw [← moved]
      by_cases serving : process.service = .serving
      · simp only [DaemonProcess.read, if_pos serving] at followed
        simp only [DaemonProcess.next, execute, DaemonProcess.commit, serving]
        cases result : finishGraphNodeRun process.db now costId receipt.executionId
            (finishCommand receipt outcome.withoutStrayOutput catalog m3 graph) with
        | ok value =>
          rw [result] at followed
          cases followed
        | error fault =>
          rw [result] at followed
          cases fault with
          | error error => rfl
          | panic message => cases followed
      · exact next_idle serving _

end Turn

section Steps

variable [Sha256] [SerdeJson] {self : GraphExecutor} {action : ExecutorAction} {position index : Nat}
  {launch : Launch} {request : ExecuteRequest} {means : Means} {runIds : List RunId}

/-- A launch moves on by itself. -/
theorem Turn.of_set {new : Launch} {after : GraphExecutor} (found : self.launches[position]? = some launch)
    (launches : after.launches = self.launches.set position new)
    (registry : after.registry = self.registry) (active : after.active = self.active)
    (process : after.process = self.process) (held : new.isRegistered = launch.isRegistered)
    (counts : new.isCounted = launch.isCounted) (advances : Advances self.process launch new) :
    Turn self action after := by
  refine .moved position launch new found advances launches ?_ ?_ (.inl process)
  · unfold Workers.enter
    rw [held, registry]
    cases launch.isRegistered <;> rfl
  · unfold Workers.count
    rw [counts, active]
    cases launch.isCounted <;> rfl

omit [Sha256] [SerdeJson] in
/-- A move that is not one of the two that a check stands before. -/
theorem Advances.plain [Sha256] [SerdeJson] {process : DaemonProcess} {phase : LaunchPhase}
    {cancelled : Bool} {outcome : Option ProviderOutcome} (stake : phase.atStake = true → launch.phase.atStake = true)
    (early : phase ≠ .authorising) (short : phase ≠ .atProvider)
    (worked : launch.selectsAccount = true → launch.phase.isUnworked = true → phase.isUnworked = true) :
    Advances process launch ⟨launch.request, launch.receipt, phase, cancelled, outcome⟩ :=
  ⟨rfl, rfl, stake, worked, fun same => absurd same early, fun same => absurd same short⟩

/-- A step of `persist_outcome` moves the launch on. -/
theorem Turn.of_persist {outcome : ProviderOutcome} {now : Nat} {costId : CostRecordId} {stage : PersistStage}
    {done : LaunchPhase} {going : PersistStage → LaunchPhase} (found : self.launches[position]? = some launch)
    (stake : launch.phase.atStake = true) (worked : launch.phase.isUnworked = false) (over_ : done.atStake = false)
    (plain : ∀ phase, phase = done ∨ (∃ stage, phase = going stage) → phase ≠ .authorising ∧ phase ≠ .atProvider ∧
      phase.isRegistered = launch.phase.isRegistered ∧ phase.isCounted = launch.phase.isCounted) :
    Turn self action (({ self with
      process := (persistStep self.process launch.receipt outcome now costId stage).1 } : GraphExecutor).setLaunch position
        { launch with phase :=
          (persistStep self.process launch.receipt outcome now costId stage).2.elim done going }) := by
  generalize stepped : persistStep self.process launch.receipt outcome now costId stage = result
  obtain ⟨process, following⟩ := result
  have phases : following.elim done going = done ∨ ∃ stage, following.elim done going = going stage := by
    cases following with
    | none => exact .inl rfl
    | some stage => exact .inr ⟨stage, rfl⟩
  obtain ⟨early, short, held, counts⟩ := plain _ phases
  refine .moved position launch _ found (.plain (fun _ => stake) early short fun _ unworked => ?_) rfl ?_ ?_ ?_
  · rw [worked] at unworked
    cases unworked
  · simp only [Workers.enter, Launch.isRegistered, held]
    cases launch.phase.isRegistered <;> rfl
  · simp only [Workers.count, Launch.isCounted, counts]
    cases launch.phase.isCounted <;> rfl
  · rcases persistStep_process stepped with same | ⟨rfl, command, moved, own⟩
    · exact .inl same
    · exact .inr ⟨over_, now, costId, _, command, moved, own⟩

theorem startNext_turn (found : self.launches[position]? = some launch) :
    Turn self action (self.startNext index request means runIds position launch) := by
  obtain ⟨origin, receipt, phase, cancelled, outcome⟩ := launch
  cases phase with
  | begun =>
    simp only [GraphExecutor.startNext]
    split
    · exact .of_set found rfl rfl rfl rfl rfl rfl (.plain (fun _ => rfl) (by decide) (by decide) fun _ => id)
    · rename_i unselected
      split
      · exact .of_set found rfl rfl rfl rfl rfl rfl
          (.plain (fun _ => rfl) (by simp) (by simp) fun selects => absurd selects unselected)
      · exact .moved position _ ⟨origin, receipt, .registered, cancelled, outcome⟩ found
          (.plain (fun _ => rfl) (by decide) (by decide) fun selects => absurd selects unselected) rfl rfl rfl (.inl rfl)
  | registered =>
    exact .moved position _ ⟨origin, receipt, .counted, cancelled, outcome⟩ found
      (.plain (fun _ => rfl) (by decide) (by decide) fun _ => id) rfl rfl rfl (.inl rfl)
  | counted =>
    simp only [GraphExecutor.startNext]
    split
    · exact .of_set found rfl rfl rfl rfl rfl rfl (.plain (fun _ => rfl) (by decide) (by decide) fun _ => id)
    · exact .of_set found rfl rfl rfl rfl rfl rfl (.plain (fun _ => rfl) (by decide) (by decide) fun _ => id)
  | unspawned =>
    exact .moved position _ ⟨origin, receipt, .uncounted, cancelled, outcome⟩ found
      (.plain (fun _ => rfl) (by decide) (by decide) fun _ => id) rfl rfl rfl (.inl rfl)
  | uncounted =>
    exact .moved position _ ⟨origin, receipt, .failing .catalog, cancelled, outcome⟩ found
      (.plain (fun _ => rfl) (by simp) (by simp) fun _ => id) rfl rfl rfl (.inl rfl)
  | failing stage =>
    refine Turn.of_persist found rfl rfl rfl fun phase ends => ?_
    rcases ends with rfl | ⟨later, rfl⟩ <;> exact ⟨by simp, by simp, rfl, rfl⟩
  | _ => exact .rested rfl rfl rfl (.inl rfl)

/-- A node that is begun adds its run. -/
theorem beginNext_turn {now : Nat} {ids : RunIds} {nodeId : GraphNodeId} {binding : ProviderRunBinding}
    {pending : List (GraphNodeId × ProviderRunBinding)} {previous : Option BeginGraphNodeRunReceipt} :
    Turn self action (self.beginNext index request now ids nodeId binding pending previous) := by
  have moves : ∀ command, GoesOn action self.process
      (self.process.next (.command (.beginGraphNodeRun now ids request.executionId command (some binding)))) := by
    intro command
    refine .inr ⟨_, rfl, fun _ restart => ?_, .inl ⟨rfl, fun db => ?_⟩⟩
    · cases restart
    · exact Bool.and_false _
  simp only [GraphExecutor.beginNext]
  split
  · rename_i db receipt committed
    unfold DaemonProcess.read at committed
    split at committed
    · rename_i serving
      exact .begun index now ids request.executionId _ binding db receipt serving committed rfl rfl rfl rfl
    · cases committed
  · exact .rested rfl rfl rfl (moves _)
  · exact .rested rfl rfl rfl (moves _)

theorem handle_turn : Turn self action (self.handle index means) := by
  unfold GraphExecutor.handle
  split
  · exact .rested rfl rfl rfl (.inl rfl)
  · rename_i request _
    dsimp only
    split
    · exact .rested rfl rfl rfl (.inl rfl)
    · exact .rested rfl rfl rfl (.inl rfl)
    · exact .rested rfl rfl rfl (.inl rfl)
    · exact .rested rfl rfl rfl (.inl rfl)
    · exact .rested rfl rfl rfl (.inl rfl)
    · exact beginNext_turn
    · split
      · exact .rested rfl rfl rfl (.inl rfl)
      · rename_i position _
        cases found : self.launches[position]? with
        | none => exact .rested rfl rfl rfl (.inl rfl)
        | some launch => exact startNext_turn found
    · exact .rested rfl rfl rfl (.inl rfl)
    · exact .rested rfl rfl rfl (.inl rfl)

theorem work_turn {now : Nat} {costId : CostRecordId} : Turn self action (self.work position now costId) := by
  cases found : self.launches[position]? with
  | none =>
    unfold GraphExecutor.work
    rw [found]
    exact .rested rfl rfl rfl (.inl rfl)
  | some launch =>
    obtain ⟨origin, receipt, phase, cancelled, outcome⟩ := launch
    unfold GraphExecutor.work
    rw [found]
    cases phase with
    | spawned =>
      dsimp only
      split
      · exact .of_set found rfl rfl rfl rfl rfl rfl (.plain (fun _ => rfl) (by decide) (by decide) fun _ => id)
      · exact .of_set found rfl rfl rfl rfl rfl rfl (.plain (fun _ => rfl) (by decide) (by decide) fun _ => id)
    | preflighting =>
      dsimp only
      split
      · exact .of_set found rfl rfl rfl rfl rfl rfl (.plain (fun _ => rfl) (by decide) (by decide) fun _ => id)
      · exact .of_set found rfl rfl rfl rfl rfl rfl (.plain (fun _ => rfl) (by decide) (by decide) fun _ => id)
    | entered =>
      dsimp only
      split
      · exact .of_set found rfl rfl rfl rfl rfl rfl (.plain (fun _ => rfl) (by decide) (by decide) fun _ => id)
      · rename_i selects
        split
        · rename_i checked
          refine .of_set found rfl rfl rfl rfl rfl rfl ⟨rfl, rfl, fun _ => rfl, fun _ => id, fun _ => .inr ⟨?_, ?_⟩,
            fun reached => ?_⟩
          · simp only [Option.all_eq_true, not_forall] at selects
            obtain ⟨identity, given, unselected⟩ := selects
            simp only [Launch.selectsAccount, given, Option.any_some]
            simpa using unselected
          · obtain ⟨_, passed⟩ := isOk_iff.mp checked
            exact DaemonProcess.read_ok passed
          · cases reached
        · exact .of_set found rfl rfl rfl rfl rfl rfl (.plain (fun _ => rfl) (by decide) (by decide) fun _ => id)
    | authorising =>
      dsimp only
      split
      · exact .of_set found rfl rfl rfl rfl rfl rfl (.plain (fun _ => rfl) (by decide) (by decide) fun _ => id)
      · rename_i allowed
        split
        · refine .of_set found rfl rfl rfl rfl rfl rfl ⟨rfl, rfl, fun _ => rfl, fun _ => id, fun reached => ?_,
            fun _ => .inr ⟨rfl, ?_⟩⟩
          · cases reached
          · rw [Bool.not_eq_true', Bool.not_eq_false] at allowed
            obtain ⟨_, passed⟩ := isOk_iff.mp allowed
            exact bind_ok.mp (DaemonProcess.read_ok passed)
        · exact .of_set found rfl rfl rfl rfl rfl rfl (.plain (fun _ => rfl) (by decide) (by decide) fun _ => id)
    | draining => exact .of_set found rfl rfl rfl rfl rfl rfl (.plain (fun _ => rfl) (by simp) (by simp) fun _ => id)
    | persisting stage =>
      refine Turn.of_persist found rfl rfl rfl fun phase ends => ?_
      rcases ends with rfl | ⟨later, rfl⟩ <;> exact ⟨by simp, by simp, rfl, rfl⟩
    | closing =>
      exact .moved position _ ⟨origin, receipt, .unregistered, cancelled, outcome⟩ found
        (.plain (fun stake => by cases stake) (by decide) (by decide) fun _ => id) rfl rfl rfl (.inl rfl)
    | unregistered =>
      exact .moved position _ ⟨origin, receipt, .gone, cancelled, outcome⟩ found
        (.plain (fun stake => by cases stake) (by decide) (by decide) fun _ => id) rfl rfl rfl (.inl rfl)
    | _ => exact .rested rfl rfl rfl (.inl rfl)

theorem finishRunner_turn {ending : RunnerEnd} : Turn self action (self.finishRunner position ending) := by
  unfold GraphExecutor.finishRunner
  split
  · exact .rested rfl rfl rfl (.inl rfl)
  · rename_i launch found
    obtain ⟨origin, receipt, phase, cancelled, outcome⟩ := launch
    split
    · rename_i working _ _
      obtain rfl : phase = .atProvider := working
      exact .of_set found rfl rfl rfl rfl rfl rfl (.plain (fun _ => rfl) (by decide) (by decide) fun _ => id)
    · exact .rested rfl rfl rfl (.inl rfl)

theorem signal_turn {runId : RunId} : Turn self action (self.signal runId) := by
  unfold GraphExecutor.signal
  split
  · exact .rested rfl rfl rfl (.inl rfl)
  · rename_i position _
    cases found : self.launches[position]? with
    | none => exact .rested rfl rfl rfl (.inl rfl)
    | some launch =>
      exact .of_set found rfl rfl rfl rfl rfl rfl ⟨rfl, rfl, id, fun _ => id, .inl, .inl⟩

theorem shutDown_turn : Turn self action (self.shutDown index) := by
  unfold GraphExecutor.shutDown
  split
  · exact .rested rfl rfl rfl (.inl rfl)
  · dsimp only
    split
    · exact .rested rfl rfl rfl (.inl rfl)
    · rename_i request _ _ _
      refine .rested rfl rfl rfl
        (.inr ⟨.command (.shutdown request.checkpointId request.expectedRevision), rfl, fun _ restart => ?_,
          .inl ⟨rfl, fun db => ?_⟩⟩)
      · cases restart
      · exact Bool.and_false _
    · exact .rested rfl rfl rfl (.inl rfl)
    · exact .rested rfl rfl rfl (.inl rfl)

/-- Every step of the executor is such a turn. -/
theorem GraphExecutor.next_turn (self : GraphExecutor) (action : ExecutorAction) :
    Turn self action (self.next action) := by
  cases action with
  | request | requestShutdown => exact .rested rfl rfl rfl (.inl rfl)
  | handle => exact handle_turn
  | work => exact work_turn
  | finishRunner => exact finishRunner_turn
  | signal => exact signal_turn
  | shutDown => exact shutDown_turn
  | store step =>
    cases step with
    | restart now => exact .ended now rfl rfl rfl rfl rfl
    | _ =>
      refine .rested rfl rfl rfl (.inr ⟨_, rfl, fun _ restart => ?_, .inr rfl⟩)
      cases restart

/-- Every step of the executor is one of the daemon, or leaves it. -/
theorem Turn.steps {later : GraphExecutor} (turn : Turn self action later) :
    later.process = self.process ∨ ∃ step, later.process = self.process.next step := by
  cases turn with
  | rested launches registry active goes =>
    rcases goes with same | ⟨step, stepped, _⟩
    · exact .inl same
    · exact .inr ⟨step, stepped⟩
  | begun index now ids id command binding db receipt serving committed process => exact .inr ⟨_, process⟩
  | moved position old new found advances launches registry active goes =>
    rcases goes with same | ⟨_, _, _, _, _, stepped, _⟩
    · exact .inl same
    · exact .inr ⟨_, stepped⟩
  | ended now restart process => exact .inr ⟨_, process⟩

end Steps

end Bastet.Daemon
