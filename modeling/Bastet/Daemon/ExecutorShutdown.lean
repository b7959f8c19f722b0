import Bastet.Daemon.ExecutorAccounting

/-! The executor and a shutdown: while a worker has its outcome still to record, its run is at work in the store, and
a daemon that is stopping has no run at work. -/

set_option autoImplicit false

namespace Bastet.Daemon

open Fallible Bastet.Core Lookup

section Catalogs

variable {catalog next : IdentityCatalog} {runId other : RunId}

/-- A provider may be at work on the run. -/
def AtWork (catalog : IdentityCatalog) (runId : RunId) : Prop :=
  ∃ run, catalog.run? runId = some run ∧ runMayBeActive run = true

theorem AtWork.of_run (work : AtWork catalog runId) (same : ∀ run, catalog.run? runId = some run → next.run? runId = some run) :
    AtWork next runId := by
  obtain ⟨run, found, active⟩ := work
  exact ⟨run, same run found, active⟩

/-- Another run changes. -/
theorem AtWork.updateRun_apart {change : Run → Run} (kept : ∀ run, (change run).metadata.id = run.metadata.id)
    (apart : runId ≠ other) (work : AtWork catalog runId) : AtWork (catalog.updateRun other change) runId := by
  refine work.of_run fun run found => ?_
  rw [IdentityCatalog.run?_updateRun kept, if_neg apart, found]

/-- A run changes, and is at work after it. -/
theorem AtWork.updateRun {change : Run → Run} (kept : ∀ run, (change run).metadata.id = run.metadata.id)
    (active : ∀ run, runMayBeActive (change run) = true) (work : AtWork catalog runId) :
    AtWork (catalog.updateRun other change) runId := by
  obtain ⟨run, found, working⟩ := work
  by_cases same : runId = other
  · refine ⟨change run, ?_, active run⟩
    rw [IdentityCatalog.run?_updateRun kept, if_pos same, found, Option.map_some]
  · exact AtWork.updateRun_apart kept same ⟨run, found, working⟩

theorem Reports.atWork {db : Database} {updatedAt : String} {command : Command} (reports : Reports db updatedAt command next)
    (work : AtWork db.identity.content runId) : AtWork next runId := by
  cases reports with
  | @running _ _ marked _ _ current found active mark named =>
    have moved : AtWork marked runId := by
      rw [markRunning_ok mark]
      split
      · exact work.updateRun (fun _ => rfl) fun _ => rfl
      · exact work
    rcases nameSession_ok named with rfl | ⟨_, rfl⟩
    · exact moved
    · exact moved
  | cancelling => exact work.updateRun (fun _ => rfl) fun _ => rfl

end Catalogs

variable [Sha256] [SerdeJson] {db after : Database} {runId : RunId}

section Changes

omit [Sha256] [SerdeJson] in
/-- No launch of the run was staged. -/
def Unstaged (db : Database) (runId : RunId) : Prop :=
  ∀ row ∈ db.staged.rows, row.runId ≠ runId

omit [Sha256] [SerdeJson] in
theorem Unstaged.apart (unstaged : Unstaged db runId) {other : RunId} {row : StagedRow}
    (found : db.staged.find? other = some row) : runId ≠ other := by
  rintro rfl
  exact unstaged row (Table.mem_of_find? found) (Table.find?_key found)

omit [Sha256] [SerdeJson] in
theorem Unstaged.kept (unstaged : Unstaged db runId) (kept : KeepsLaunches db after) : Unstaged after runId := by
  intro later member same
  obtain ⟨row, inside, continues⟩ := kept later member
  exact unstaged row inside (continues.runId.symm.trans same)

theorem MayCancel.atWork {now : Nat} {requestId : ApprovalRequestId} {reason : String}
    (cancels : MayCancel db now requestId reason after) (unstaged : Unstaged db runId)
    (work : AtWork db.identity.content runId) : AtWork after.identity.content runId := by
  rcases cancels with ⟨rfl, _⟩ | ⟨row, _, _, _, _, found, cancels⟩
  · exact work
  · obtain ⟨_, _, _, rfl⟩ := cancels.left
    exact work.updateRun_apart (fun _ => rfl) (Ne.symm (unstaged row (stagedFor?_some found).1))

theorem CancelsSome.atWork {now : Nat} (cancels : CancelsSome now db after) (unstaged : Unstaged db runId)
    (work : AtWork db.identity.content runId) : AtWork after.identity.content runId := by
  induction cancels with
  | refl => exact work
  | tail earlier last ih =>
    obtain ⟨_, _, cancels⟩ := last
    exact cancels.atWork (unstaged.kept (CancelsSome.keepsLaunches earlier)) ih

theorem onDecision_atWork {now : Nat} {request : ApprovalRequest} {kind : ApprovalDecisionKind}
    (informed : onDecision db now request kind = .ok after) (unstaged : Unstaged db runId)
    (work : AtWork db.identity.content runId) : AtWork after.identity.content runId := by
  rcases onDecision_ok informed with ⟨_, rfl⟩ | ⟨_, _, _, _, _, _, _, _, _, _, _, rfl⟩ | ⟨_, cancels⟩
  · exact work
  · exact work
  · exact cancels.atWork unstaged work

/-- A run that is at work stays so, unless it is finished, or the store is opened again. -/
theorem Change.atWork {action : Action} (change : Change db action after) (apart : action.finishes ≠ some runId)
    (going : ∀ now, action ≠ .restart now) (unstaged : Unstaged db runId) (work : AtWork db.identity.content runId) :
    AtWork after.identity.content runId := by
  cases change with
  | quiet | shifted | replacedM3 | accepted | createdGraph | restartedGraph | requested | consumed => exact work
  | replacedCatalog events valid kept =>
    refine work.of_run fun run found => ?_
    obtain ⟨member, rfl⟩ := find_some found
    exact keepsRun_ok (kept run member)
  | prepared events made initial =>
    obtain ⟨run, found, _⟩ := work
    rw [initial] at found
    cases found
  | storedM3 stored =>
    obtain ⟨_, _, _, rfl⟩ := stored
    exact work
  | reported events valid reports => exact reports.atWork work
  | worked stored =>
    obtain ⟨_, _, _, _, _, rfl⟩ := stored
    exact work
  | begun events begun serving attended current left =>
    refine work.of_run fun run found => ?_
    simp only [(Beginning.stages left).identity, Beginning.database]
    exact withAttempt_run? found
  | finished events trusted finishing =>
    rename_i submitted command
    have names : command.runId = submitted.runId := by
      rcases trusted with rfl | rfl <;> rfl
    have same := (find_some finishing.runFound).2
    refine work.of_run fun run found => finishedCatalog_other finishing.catalogMade ?_ found
    rw [same, names]
    exact fun own => apart (congrArg some own.symm)
  | decided issued events deciding informed =>
    have still : Unstaged (deciding.database issued) runId → AtWork (deciding.database issued).identity.content runId → _ :=
      onDecision_atWork informed
    exact still unstaged work
  | cancelled events some =>
    have still := some.atWork unstaged work
    exact still
  | revoked events spent cancels =>
    have still := cancels.atWork unstaged work
    exact still
  | claimed events claiming =>
    exact work.updateRun_apart (fun _ => rfl) (unstaged.apart claiming.launchFound)
  | abandoned events abandoning =>
    exact work.updateRun_apart (fun _ => rfl) (unstaged.apart abandoning.launchFound)
  | recovered => exact absurd rfl (going _)

/-- A run at work is one that was not staged, and is not staged later. -/
structure Working (db : Database) (runId : RunId) : Prop where
  atWork : AtWork db.identity.content runId
  unstaged : Unstaged db runId

theorem Working.follow {action : Action} (working : Working db runId) (change : Change db action after)
    (apart : action.finishes ≠ some runId) (going : ∀ now, action ≠ .restart now) : Working after runId := by
  have work := change.atWork apart going working.unstaged working.atWork
  refine ⟨work, fun later member same => ?_⟩
  rcases change.launches later member with ⟨row, inside, continues⟩ | ⟨_, run, found, ⟨waiting⟩⟩
  · exact working.unstaged row inside (continues.runId.symm.trans same)
  · -- a launch that is staged now has a run that nothing works on
    obtain ⟨other, again, active⟩ := work
    rw [← same, found] at again
    obtain rfl := Option.some.inj again
    simp only [runMayBeActive, waiting.awaiting, waiting.unstarted, Option.isSome_none] at active
    cases active

omit [Sha256] [SerdeJson] in
/-- The run of a launch is in the catalog. -/
theorem Coherent.known [Sha256] [SerdeJson] {row : StagedRow} (coherent : Coherent db row) :
    ∃ run, db.identity.content.run? row.runId = some run := by
  cases coherent with
  | awaiting _ held => exact ⟨_, held.runFound⟩
  | ready _ held => exact ⟨_, held.runFound⟩
  | cancelled _ found => exact ⟨_, found⟩
  | claimed _ found => exact ⟨_, found⟩

/-- The catalog does not have a run before it begins. -/
theorem Beginning.absent {now : Nat} {ids : RunIds} {id : GraphRunId} {command : BeginGraphNodeRunCommand}
    (begun : Beginning db now ids id command) : db.identity.content.run? ids.runId = none := by
  have distinct := IdentityCatalog.validate_runs_distinct begun.catalogValid
  rw [withAttempt, List.map_append, List.nodup_append] at distinct
  refine find_none.mpr fun old inside same => ?_
  exact distinct.2.2 _ (List.mem_map.mpr ⟨old, inside, rfl⟩) _ (List.mem_singleton_self _) same

/-- A run that begins without an account is at work. -/
theorem begun_working {now : Nat} {ids : RunIds} {id : GraphRunId} {command : BeginGraphNodeRunCommand}
    {expected : Option ProviderRunBinding} {receipt : BeginGraphNodeRunReceipt} (ledger : LaunchesSound db)
    (committed : beginGraphNodeRunInner db now ids id command expected = .ok (after, receipt))
    (unselected : receipt.launchIdentity.any (fun identity => identity.account.isSome) = false) :
    Working after receipt.runId := by
  obtain ⟨row, binding, _, _, _, found, resolved, rfl⟩ := beginGraphNodeRunInner_receipt committed
  obtain ⟨begun, middle, events, _, _, _, left, rfl⟩ := beginGraphNodeRunInner_ok committed
  obtain rfl : begun.row = row := Option.some.inj (begun.found.symm.trans found)
  obtain rfl : begun.binding = binding := Except.ok.inj (begun.resolved.symm.trans resolved)
  have unstaged : begun.staged = false := by
    cases staged : begun.staged with
    | false => rfl
    | true =>
      have selected := begun.hasAccount staged
      rw [Option.any_some, selected] at unselected
      cases unselected
  rw [unstaged, if_neg Bool.false_ne_true] at left
  subst left
  have distinct := IdentityCatalog.validate_runs_distinct begun.catalogValid
  constructor
  · refine ⟨_, find_of_mem distinct (List.mem_append_right _ (List.mem_singleton_self _)), ?_⟩
    rw [unstaged]
    rfl
  · intro launch member same
    -- the run of a launch is in the catalog, where the new one was not
    obtain ⟨run, known⟩ := (ledger.coherent launch member).known
    rw [show launch.runId = ids.runId from same, begun.absent] at known
    cases known

end Changes

section Runs

/-- Nobody but the executor finishes the runs it has at stake, and no run is put to work while the daemon is stopping. -/
def LeavesRuns (executor : GraphExecutor) : ExecutorAction → Prop
  | .store step => startsLate executor.process.db step = false ∧
    ∀ launch ∈ executor.launches, launch.phase.atStake = true → step.finishes ≠ some launch.runId
  | _ => True

/-- The runs of the launches at stake are at work in the store. -/
structure HoldsRuns (executor : GraphExecutor) : Prop where
  accounts : Accounts executor
  ledgers : LedgersSound executor.process
  stops : StopsIdle executor.process
  working : ∀ launch ∈ executor.launches, launch.phase.atStake = true → launch.selectsAccount = false →
    Working executor.process.db launch.runId

namespace HoldsRuns

variable {self later : GraphExecutor} {action : ExecutorAction}

/-- A step that does not finish a run leaves it at work. -/
theorem next_working {process : DaemonProcess} {step : Action} (working : Working process.db runId)
    (apart : step.finishes ≠ some runId) (going : ∀ now, step ≠ .restart now) :
    Working (process.next step).db runId := by
  rcases process.next_change step with same | change
  · exact same ▸ working
  · exact working.follow change apart going

/-- No step of the executor puts a run to work while the daemon is stopping. -/
theorem punctual (turn : Turn self action later) (leaves : LeavesRuns self action) :
    later.process = self.process ∨ ∃ step, later.process = self.process.next step ∧
      startsLate self.process.db step = false := by
  cases turn with
  | rested launches registry active goes =>
    rcases goes with same | ⟨step, stepped, _, steady | rfl⟩
    · exact .inl same
    · exact .inr ⟨step, stepped, steady.2 _⟩
    · exact .inr ⟨step, stepped, leaves.1⟩
  | begun index now ids id command binding db receipt serving committed process =>
    exact .inr ⟨_, process, Bool.and_false _⟩
  | moved position old new found advances launches registry active goes =>
    rcases goes with same | ⟨_, _, _, _, _, stepped, _⟩
    · exact .inl same
    · exact .inr ⟨_, stepped, Bool.and_false _⟩
  | ended now restart process =>
    subst restart
    exact .inr ⟨_, process, leaves.1⟩

/-- The launches that stay at stake keep their runs at work. -/
theorem keepsWorking (holds : HoldsRuns self) (turn : Turn self action later) (leaves : LeavesRuns self action) :
    ∀ launch ∈ later.launches, launch.phase.atStake = true → launch.selectsAccount = false →
      Working later.process.db launch.runId := by
  intro launch inside stake unselected
  cases turn with
  | rested launches registry active goes =>
    rw [launches] at inside
    have working := holds.working launch inside stake unselected
    rcases goes with same | ⟨step, stepped, going, steady | rfl⟩
    · exact same ▸ working
    · rw [stepped]
      refine next_working working (fun same => ?_) going
      rw [steady.1] at same
      cases same
    · rw [stepped]
      exact next_working working (leaves.2 launch inside stake) going
  | begun index now ids id command binding db receipt serving committed process launches =>
    rw [launches] at inside
    rw [process]
    rcases List.mem_append.mp inside with old | new
    · refine next_working (holds.working launch old stake unselected) (fun same => ?_) fun _ same => ?_
      · cases same
      · cases same
    · obtain rfl := List.mem_singleton.mp new
      rw [(begun_recorded serving committed).1]
      exact begun_working holds.ledgers.launches committed unselected
  | moved position old new found advances launches registry active goes =>
    have same : new.runId = old.runId := congrArg BeginGraphNodeRunReceipt.runId advances.receipt
    have member := List.mem_of_getElem? found
    have before := fun launch => holds.working launch
    rw [launches] at inside
    rcases (Workers.mem_set holds.accounts.accounted.distinct found same _).mp inside with rfl | ⟨kept, apart⟩
    · rcases goes with still | ⟨over_, _⟩
      · have unselectedOld : old.selectsAccount = false := by
          unfold Launch.selectsAccount at unselected ⊢
          exact advances.receipt ▸ unselected
        rw [still, same]
        exact before old member (advances.atStake stake) unselectedOld
      · rw [over_] at stake
        cases stake
    · have working := before launch kept stake unselected
      rcases goes with still | ⟨_, now, costId, id, command, stepped, own⟩
      · rw [still]
        exact working
      · rw [stepped]
        refine next_working working (fun finishes => ?_) fun _ restart => by cases restart
        exact apart ((Option.some.inj finishes).symm.trans own)
  | ended now restart process launches =>
    rw [launches] at inside
    obtain ⟨old, _, rfl⟩ := List.mem_map.mp inside
    rw [old.lose_ended] at stake
    cases stake

theorem next (self : GraphExecutor) (action : ExecutorAction) (leaves : LeavesRuns self action) (holds : HoldsRuns self) :
    HoldsRuns (self.next action) := by
  have turn := self.next_turn action
  have working := holds.keepsWorking turn leaves
  have accounts := holds.accounts.next self action
  rcases punctual turn leaves with same | ⟨step, stepped, punctual⟩
  · exact ⟨accounts, same ▸ holds.ledgers, same ▸ holds.stops, working⟩
  · refine ⟨accounts, ?_, ?_, working⟩
    · rw [stepped]
      exact holds.ledgers.next _ step
    · rw [stepped]
      exact StopsIdle.next _ step punctual holds.stops

end HoldsRuns

end Runs

end Bastet.Daemon
