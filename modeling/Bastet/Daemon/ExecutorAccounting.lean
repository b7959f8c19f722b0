import Bastet.Daemon.ExecutorTurns

/-! The books of the executor: the registry has the controllers of the runs that have a worker or are getting one, the
counter their number, and no run has two workers. -/

set_option autoImplicit false

namespace Bastet.Daemon

open Fallible Bastet.Core

variable [Sha256] [SerdeJson]

section Steps

variable {process : DaemonProcess} {self : GraphExecutor} {action : ExecutorAction}

/-- Every step of the daemon keeps the recorded attempts. -/
theorem DaemonProcess.next_attempts (process : DaemonProcess) (step : Action) :
    KeepsAttempts process.db (process.next step).db := by
  rcases process.next_change step with same | change
  · exact .of_same (congrArg Database.nodeRuns same)
  · exact change.keepsOrigins.1

theorem Turn.keepsAttempts {later : GraphExecutor} (turn : Turn self action later) :
    KeepsAttempts self.process.db later.process.db := by
  rcases turn.steps with same | ⟨step, stepped⟩
  · exact .of_same (congrArg (fun process : DaemonProcess => process.db.nodeRuns) same)
  · rw [stepped]
    exact self.process.next_attempts step

omit [Sha256] [SerdeJson] in
@[simp] theorem Launch.lose_receipt (launch : Launch) : launch.lose.receipt = launch.receipt := by
  unfold lose
  split <;> rfl

omit [Sha256] [SerdeJson] in
/-- A launch that was lost, or is closed, has no controller in the registry and is not counted. -/
theorem Launch.lose_idle (launch : Launch) : launch.lose.isRegistered = false ∧ launch.lose.isCounted = false := by
  unfold lose isRegistered isCounted
  split
  · rename_i closed
    revert closed
    cases launch.phase <;> simp [LaunchPhase.closed, LaunchPhase.isRegistered, LaunchPhase.isCounted]
  · exact ⟨rfl, rfl⟩

omit [Sha256] [SerdeJson] in
/-- Nothing is at stake when the process has ended. -/
theorem Launch.lose_ended (launch : Launch) : launch.lose.phase.atStake = false := by
  unfold lose
  split
  · rename_i closed
    revert closed
    cases launch.phase <;> simp [LaunchPhase.closed, LaunchPhase.atStake]
  · rfl

omit [Sha256] [SerdeJson] in
theorem Launch.lose_unworked {launch : Launch} (unworked : launch.phase.isUnworked = true) :
    launch.lose.phase.isUnworked = true := by
  unfold lose
  split
  · exact unworked
  · rfl

/-- What a run that begins leaves of the process and the ledger. -/
theorem begun_recorded {now : Nat} {ids : RunIds} {id : GraphRunId} {command : BeginGraphNodeRunCommand}
    {expected : Option ProviderRunBinding} {db : Database} {receipt : BeginGraphNodeRunReceipt}
    (serving : process.service = .serving)
    (committed : beginGraphNodeRunInner process.db now ids id command expected = .ok (db, receipt)) :
    (process.next (.command (.beginGraphNodeRun now ids id command expected))).db = db ∧
      process.db.nodeRuns.find? receipt.runId = none ∧ ∃ row, db.nodeRuns.find? receipt.runId = some row := by
  refine ⟨?_, ?_⟩
  · simp only [DaemonProcess.next, execute, committed, ok_bind, DaemonProcess.commit, serving, pure]
    rfl
  · obtain ⟨_, _, _, _, _, _, _, rfl⟩ := beginGraphNodeRunInner_receipt committed
    obtain ⟨begun, _, _, _, _, _, left, rfl⟩ := beginGraphNodeRunInner_ok committed
    refine ⟨Table.insert_fresh begun.attempted, beginAttempt process.db now ids id command.nodeId begun.binding, ?_⟩
    simp only [(Beginning.stages left).nodeRuns]
    exact Table.find?_insert_self begun.attempted

end Steps

/-- The books of the executor are exact. -/
structure Accounts (executor : GraphExecutor) : Prop where
  accounted : Workers.Accounted Launch.runId Launch.isRegistered Launch.isCounted executor.registry executor.active
    executor.launches
  recorded : ∀ launch ∈ executor.launches, ∃ row, executor.process.db.nodeRuns.find? launch.runId = some row
  unworked : ∀ launch ∈ executor.launches, launch.selectsAccount = true → launch.phase.isUnworked = true

namespace Accounts

variable {self : GraphExecutor}

omit [Sha256] [SerdeJson] in
theorem start (process : DaemonProcess) : Accounts (.start process) where
  accounted := .nil
  recorded _ member := by cases member
  unworked _ member := by cases member

/-- Every step of the executor keeps its books. -/
theorem next (self : GraphExecutor) (action : ExecutorAction) (accounts : Accounts self) :
    Accounts (self.next action) := by
  have turn := self.next_turn action
  have kept := turn.keepsAttempts
  have before : ∀ launch ∈ self.launches, ∃ row, (self.next action).process.db.nodeRuns.find? launch.runId = some row := by
    intro launch member
    obtain ⟨row, found⟩ := accounts.recorded launch member
    obtain ⟨later, reached, _⟩ := kept _ row found
    exact ⟨later, reached⟩
  cases turn with
  | rested launches registry active =>
    refine ⟨?_, ?_, ?_⟩
    · rw [launches, registry, active]
      exact accounts.accounted
    · rw [launches]
      exact before
    · rw [launches]
      exact accounts.unworked
  | begun index now ids id command binding db receipt serving committed process launches registry active =>
    obtain ⟨reached, fresh, row, found⟩ := begun_recorded serving committed
    rw [← reached, ← process] at found
    refine ⟨?_, ?_, ?_⟩
    · rw [launches, registry, active]
      refine accounts.accounted.add (fun known => ?_) rfl rfl
      -- the run of another launch is recorded, and this one was not
      obtain ⟨other, member, same⟩ := List.mem_map.mp known
      obtain ⟨_, recorded⟩ := accounts.recorded other member
      rw [same, show Launch.runId _ = receipt.runId from rfl, fresh] at recorded
      cases recorded
    · rw [launches]
      intro launch member
      rcases List.mem_append.mp member with old | new
      · exact before launch old
      · obtain rfl := List.mem_singleton.mp new
        exact ⟨row, found⟩
    · rw [launches]
      intro launch member selects
      rcases List.mem_append.mp member with old | new
      · exact accounts.unworked launch old selects
      · obtain rfl := List.mem_singleton.mp new
        rfl
  | moved position old new found advances launches registry active =>
    have same : new.runId = old.runId := congrArg BeginGraphNodeRunReceipt.runId advances.receipt
    have member := List.mem_of_getElem? found
    have others := Workers.mem_set accounts.accounted.distinct found same
    refine ⟨?_, ?_, ?_⟩
    · rw [launches, registry, active]
      exact accounts.accounted.move found same
    · rw [launches]
      intro launch inside
      rcases (others launch).mp inside with rfl | ⟨kept, _⟩
      · exact same ▸ before old member
      · exact before launch kept
    · rw [launches]
      intro launch inside selects
      rcases (others launch).mp inside with rfl | ⟨kept, _⟩
      · have selected : old.selectsAccount = true := by
          unfold Launch.selectsAccount at selects ⊢
          exact advances.receipt ▸ selects
        exact advances.unworked selected (accounts.unworked old member selected)
      · exact accounts.unworked launch kept selects
  | ended now restart process launches registry active =>
    refine ⟨?_, ?_, ?_⟩
    · rw [launches, registry, active]
      exact accounts.accounted.clear (fun launch => congrArg BeginGraphNodeRunReceipt.runId launch.lose_receipt)
        (fun launch => launch.lose_idle.1) fun launch => launch.lose_idle.2
    · rw [launches]
      intro launch inside
      obtain ⟨old, member, rfl⟩ := List.mem_map.mp inside
      rw [Launch.runId, Launch.lose_receipt]
      exact before old member
    · rw [launches]
      intro launch inside selects
      obtain ⟨old, member, rfl⟩ := List.mem_map.mp inside
      rw [Launch.selectsAccount, Launch.lose_receipt] at selects
      exact Launch.lose_unworked (accounts.unworked old member selects)

theorem run (process : DaemonProcess) (actions : List ExecutorAction) :
    Accounts ((GraphExecutor.start process).run actions) :=
  Machine.run_preserves next (.start process) actions

end Accounts

/-- However requests, workers, cancellations, shutdowns and restarts interleave: no run is launched twice, and the
registration of a run is never refused. The registry has the controllers of exactly the runs that have a worker or are
getting one, each once, and the counter that a shutdown looks at is their number between the count and its end. No run
with a selected account gets a worker. -/
theorem executor_accounting (process : DaemonProcess) (actions : List ExecutorAction) :
    let reached := (GraphExecutor.start process).run actions
    (reached.launches.map Launch.runId).Nodup ∧
    (reached.registry.Nodup ∧ ∀ runId, runId ∈ reached.registry ↔
      ∃ launch ∈ reached.launches, launch.runId = runId ∧ launch.phase.isRegistered = true) ∧
    (reached.active = reached.launches.countP (fun launch => launch.phase.isCounted) ∧
      (reached.hasActive = true ↔ ∃ launch ∈ reached.launches, launch.phase.isCounted = true)) ∧
    (∀ launch ∈ reached.launches, launch.phase = .begun → launch.runId ∉ reached.registry) ∧
    ∀ launch ∈ reached.launches, launch.selectsAccount = true → launch.phase.isUnworked = true := by
  intro reached
  have accounts : Accounts reached := Accounts.run process actions
  have accounted := accounts.accounted
  refine ⟨accounted.distinct, ⟨accounted.once, accounted.entries⟩, ⟨accounted.counter, ?_⟩, ?_, accounts.unworked⟩
  · rw [GraphExecutor.hasActive, decide_eq_true_eq]
    exact accounted.pos_iff
  · intro launch member begun
    exact accounted.free member (by rw [Launch.isRegistered, begun]; rfl)

section FirstProvider

omit [Sha256] [SerdeJson]

/-- The catalog with policies that let an online command line in. -/
def openCatalog (catalog : IdentityCatalog) : IdentityCatalog :=
  { catalog with
    projects := catalog.projects.map fun project =>
      { project with policy := ⟨.project, ⟨.use, .use, .use, .deny, .use, false⟩⟩ }
    roles := catalog.roles.map fun role =>
      { role with policy := ⟨.roleOrAgent, ⟨.use, .use, .use, .deny, .use, false⟩⟩ } }

/-- The daemon is ready, with a catalog that lets its runs go online. -/
def openedRun : List Action :=
  firstRun.take 2 ++ [.command (.replaceCatalog ⟨1, openCatalog
    (@DaemonProcess.run (.table []) SerdeJson.compact .fresh (firstRun.take 2)).db.identity.content⟩), .command .enterReady]

/-- A request begins the first of two nodes, as the identifiers of a second run are in use, and its worker gets to the
provider. -/
def providerRunReached : List ExecutorAction :=
  .request (nth 24) ⟨2, 0⟩ ::
    (List.replicate 10 (.handle 0 ⟨6, ⟨nth 30, nth 31, nth 32⟩, nth 33, true⟩) ++
      List.replicate 4 (.work 0 7 (nth 34)))

theorem provider_reached :
    Machine.Allowed (@DaemonProcess.next (.table []) SerdeJson.compact)
      (fun process action => startsLate process.db action = false) .fresh openedRun ∧
    (fun reached : GraphExecutor =>
      (∃ launch ∈ reached.launches, launch.phase = .atProvider ∧ launch.selectsAccount = false) ∧
      reached.requests.map (fun request => request.phase.runIds?) = [some [nth 31]])
      (@GraphExecutor.run (.table []) SerdeJson.compact
        (.start (@DaemonProcess.run (.table []) SerdeJson.compact .fresh openedRun)) providerRunReached) := by
  decide +kernel

end FirstProvider

end Bastet.Daemon
