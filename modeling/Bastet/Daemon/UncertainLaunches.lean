import Bastet.Daemon.LaunchLedger

/-! Launches whose outcome is unknown. A launch that was claimed becomes uncertain when its lookup fails,
together with its run; a restart takes every claimed launch to be uncertain, also one whose run has ended. -/

set_option autoImplicit false

namespace Bastet.Daemon

open Fallible Bastet.Core

/-- The states of a run whose outcome is recorded. -/
def isRecorded : NormalizedRunState → Bool
  | .succeeded | .failed | .cancelled | .blocked => true
  | _ => false

/-- A launch was claimed whose run has an outcome. -/
def hasRecordedClaim (db : Database) : Bool :=
  db.staged.rows.any fun row =>
    decide (row.state = .dispatching) && (db.identity.content.run? row.runId).any fun run => isRecorded run.state

/-- An uncertain launch is one of an uncertain run. -/
def CertainLaunches (db : Database) : Prop :=
  ∀ row ∈ db.staged.rows, row.state = .uncertain →
    ∃ run, db.identity.content.run? row.runId = some run ∧ run.state = .uncertain

instance (db : Database) : Decidable (CertainLaunches db) :=
  decidable_of_iff
    (∀ row ∈ db.staged.rows, row.state = .uncertain →
      (db.identity.content.run? row.runId).any (fun run => decide (run.state = .uncertain)) = true)
    (by simp [CertainLaunches, Option.any_eq_true])

section Steps

variable {db after last : Database}

/-- Every uncertain launch was uncertain before. -/
def NoneUncertain (db after : Database) : Prop :=
  ∀ id later, after.staged.find? id = some later → later.state = .uncertain →
    ∃ row, db.staged.find? id = some row ∧ row.state = .uncertain

namespace NoneUncertain

theorem of_same (staged : after.staged = db.staged) : NoneUncertain db after :=
  fun _ later found uncertain => ⟨later, staged ▸ found, uncertain⟩

theorem trans (first : NoneUncertain db after) (second : NoneUncertain after last) : NoneUncertain db last := by
  intro id later found uncertain
  obtain ⟨middle, reached, before⟩ := second id later found uncertain
  exact first id middle reached before

theorem of_update {runId : RunId} {change : StagedRow → StagedRow} (kept : ∀ row, (change row).runId = row.runId)
    (certain : ∀ row, (change row).state ≠ .uncertain) (staged : after.staged = db.staged.update runId change kept) :
    NoneUncertain db after := by
  intro id later found uncertain
  rw [staged, Table.find?_update] at found
  split at found
  · obtain ⟨row, _, rfl⟩ := Option.map_eq_some_iff.mp found
    exact absurd uncertain (certain row)
  · exact ⟨later, found, uncertain⟩

theorem certain (none : NoneUncertain db after) (evolves : db.identity.content.Evolves after.identity.content)
    (before : CertainLaunches db) : CertainLaunches after := by
  intro later member uncertain
  obtain ⟨row, found, state⟩ := none later.runId later (Table.find?_mem member) uncertain
  obtain ⟨run, located, ended⟩ := before row (Table.mem_of_find? found) state
  rw [Table.find?_key found] at located
  obtain ⟨other, reached, advances⟩ := evolves.kept _ run located
  obtain rfl := advances.terminal (by rw [ended]; rfl)
  exact ⟨other, reached, ended⟩

end NoneUncertain

theorem CertainLaunches.of_same (before : CertainLaunches db)
    (evolves : db.identity.content.Evolves after.identity.content) (staged : after.staged = db.staged) :
    CertainLaunches after :=
  (NoneUncertain.of_same staged).certain evolves before

variable [Sha256] [SerdeJson]

theorem Cancels.noneUncertain {now : Nat} {row : StagedRow} {reason : String} {run : Run} {plan : ProviderLaunchPlan}
    {graphRow : GraphRow} {execution : GraphExecution}
    (cancels : Cancels db now row reason run plan graphRow execution after) : NoneUncertain db after := by
  obtain ⟨grants, events, _, rfl⟩ := cancels.left
  exact .of_update StagedRow.cancel_runId (fun _ => by simp [StagedRow.cancel]) rfl

theorem MayCancel.noneUncertain {now : Nat} {requestId : ApprovalRequestId} {reason : String}
    (cancels : MayCancel db now requestId reason after) : NoneUncertain db after := by
  rcases cancels with ⟨rfl, _⟩ | ⟨_, _, _, _, _, _, cancels⟩
  · exact .of_same rfl
  · exact cancels.noneUncertain

theorem CancelsSome.noneUncertain {now : Nat} (cancels : CancelsSome now db after) : NoneUncertain db after := by
  induction cancels with
  | refl => exact .of_same rfl
  | tail _ last ih =>
    obtain ⟨_, _, cancels⟩ := last
    exact ih.trans cancels.noneUncertain

theorem onDecision_noneUncertain {now : Nat} {request : ApprovalRequest} {kind : ApprovalDecisionKind}
    (informed : onDecision db now request kind = .ok after) : NoneUncertain db after := by
  rcases onDecision_ok informed with ⟨_, rfl⟩ | ⟨_, _, _, _, _, _, _, _, _, _, _, rfl⟩ | ⟨_, cancels⟩
  · exact .of_same rfl
  · exact .of_update StagedRow.move_runId (fun _ => by simp [StagedRow.move]) rfl
  · exact cancels.noneUncertain

/-- A lookup that failed leaves its launch and its run uncertain. -/
theorem Abandoning.certain {now : Nat} {runId : RunId} (abandoning : Abandoning db now runId) (events : List String)
    (evolves : db.identity.content.Evolves (abandoning.database events).identity.content)
    (before : CertainLaunches db) : CertainLaunches (abandoning.database events) := by
  intro later member uncertain
  have moved : later ∈ (db.staged.update runId (StagedRow.move .uncertain) StagedRow.move_runId).rows := member
  rcases Table.mem_update.mp moved with ⟨inside, _⟩ | ⟨old, _, named, rfl⟩
  · obtain ⟨run, located, ended⟩ := before later inside uncertain
    obtain ⟨other, reached, advances⟩ := evolves.kept _ run located
    obtain rfl := advances.terminal (by rw [ended]; rfl)
    exact ⟨other, reached, ended⟩
  · refine ⟨abandoning.run.enter .uncertain (timestamp now), ?_, rfl⟩
    have kept : ∀ run, (Run.enter .uncertain (timestamp now) run).metadata.id = run.metadata.id := fun _ => rfl
    simp only [Abandoning.database, StagedRow.move_runId, named]
    rw [IdentityCatalog.run?_updateRun kept, if_pos rfl, abandoning.runFound, Option.map_some]

omit [Sha256] [SerdeJson] in
/-- Recovery leaves a started run uncertain, or with its outcome. -/
theorem recovered_started (updatedAt : String) {run : Run} (started : run.startedAt.isSome = true)
    (open_ : isRecorded run.state = false) : (run.recovered updatedAt).state = .uncertain := by
  have dispatched : ¬(run.state = .awaitingApproval ∧ run.startedAt = none) := by
    rintro ⟨_, none⟩
    rw [none] at started
    cases started
  rw [Run.recovered, if_neg dispatched]
  cases state : run.state <;> simp_all [isRecorded, wasInterrupted, Run.enter]

omit [Sha256] [SerdeJson] in
/-- A restart takes the claimed launches to be uncertain; their runs are, if none of them has an outcome. -/
theorem recovered_certain {now revision : Nat} {daemon : DaemonState} {events : List String} (sound : LaunchesSound db)
    (before : CertainLaunches db) (open_ : hasRecordedClaim db = false) :
    CertainLaunches (db.recovered now daemon revision events) := by
  intro later member uncertain
  obtain ⟨row, inside, rfl⟩ := List.mem_map.mp member
  have named : (abandonDispatch row).runId = row.runId := abandonDispatch_runId row
  by_cases dispatching : row.state = .dispatching
  · cases sound.coherent row inside with
    | awaiting state | ready state | cancelled state =>
      rw [dispatching] at state
      cases state
    | @claimed run _ _ _ found started =>
      have unrecorded : isRecorded run.state = false := by
        have none := List.any_eq_false.mp open_ row inside
        simpa [dispatching, found] using none
      refine ⟨run.recovered (timestamp now), ?_, recovered_started _ started unrecorded⟩
      simp only [Database.recovered, named]
      rw [recovered_run?, found, Option.map_some]
  · rw [abandonDispatch, if_neg dispatching] at uncertain
    obtain ⟨run, found, state⟩ := before row inside uncertain
    refine ⟨run, ?_, state⟩
    simp only [Database.recovered, named]
    rw [recovered_run?, found, Option.map_some, Run.recovered]
    simp [state, wasInterrupted]

theorem Change.certain {action : Action} (change : Change db action after) (sound : LaunchesSound db)
    (before : CertainLaunches db) (open_ : ∀ now, action = .restart now → hasRecordedClaim db = false) :
    CertainLaunches after := by
  have evolves := change.evolves
  cases change with
  | storedM3 stored =>
    obtain ⟨_, _, _, rfl⟩ := stored
    exact before
  | worked stored =>
    obtain ⟨_, _, _, _, _, rfl⟩ := stored
    exact before
  | begun events begun serving attended current left =>
    refine NoneUncertain.certain ?_ evolves before
    split at left
    · obtain ⟨staging, _, rfl⟩ := stage_ok left
      intro id later found uncertain
      replace found : staging.staged.find? id = some later := found
      rw [Table.find?_insert staging.launched] at found
      split at found
      · obtain rfl := Option.some.inj found
        cases uncertain
      · exact ⟨later, found, uncertain⟩
    · subst left
      exact .of_same rfl
  | decided issued events deciding informed =>
    have none := onDecision_noneUncertain informed
    have first : NoneUncertain db (deciding.database issued) := .of_same rfl
    exact NoneUncertain.certain (first.trans none) evolves before
  | cancelled events some =>
    have none : NoneUncertain db _ := some.noneUncertain
    exact NoneUncertain.certain none evolves before
  | revoked events spent cancels =>
    have none : NoneUncertain db _ := cancels.noneUncertain
    exact NoneUncertain.certain none evolves before
  | claimed events claiming =>
    exact NoneUncertain.certain (.of_update StagedRow.move_runId (fun _ => by simp [StagedRow.move]) rfl) evolves before
  | abandoned events abandoning => exact abandoning.certain events evolves before
  | @recovered now _ revision events middle proved catalogValid recoverable revised expired =>
    have first : CertainLaunches (db.recovered now ⟨bump db.daemon.revision, .recovering⟩ revision middle) :=
      recovered_certain sound before (open_ now rfl)
    exact expired.noneUncertain.certain expired.evolves first
  | _ => exact before.of_same evolves rfl

end Steps

section Runs

variable [Sha256] [SerdeJson]

/-- The restart succeeds, and takes a launch whose run has an outcome to be uncertain. -/
def forgetsOutcome (process : DaemonProcess) : Action → Bool
  | .restart now => isOk (reopen process.db now) && hasRecordedClaim process.db
  | _ => false

theorem DaemonProcess.next_certain (process : DaemonProcess) (action : Action)
    (remembers : forgetsOutcome process action = false) (sound : LedgersSound process)
    (before : CertainLaunches process.db) : CertainLaunches (process.next action).db := by
  by_cases restarted : ∃ now, action = .restart now ∧ isOk (reopen process.db now) = false
  · obtain ⟨now, rfl, failed⟩ := restarted
    simp only [next]
    split
    · rename_i db reopened
      rw [reopened] at failed
      cases failed
    · exact before
  · rcases process.next_change action with same | change
    · rw [same]
      exact before
    · refine change.certain sound.launches before ?_
      rintro now rfl
      have reopened : isOk (reopen process.db now) = true := by
        cases opened : isOk (reopen process.db now)
        · exact absurd ⟨now, rfl, opened⟩ restarted
        · rfl
      simpa only [forgetsOutcome, reopened, Bool.true_and] using remembers

/-- In every run in which no restart meets a claimed launch whose run has an outcome, a launch is uncertain only
when its run is. -/
theorem uncertain_launches (actions : List Action)
    (permitted : Machine.Allowed DaemonProcess.next (fun process action => forgetsOutcome process action = false)
      .fresh actions) :
    let db := (DaemonProcess.fresh.run actions).db
    ∀ row ∈ db.staged.rows, row.state = .uncertain →
      ∃ run, db.identity.content.run? row.runId = some run ∧ run.state = .uncertain := by
  have preserved : ∀ (process : DaemonProcess) action, forgetsOutcome process action = false →
      LedgersSound process ∧ CertainLaunches process.db →
      LedgersSound (process.next action) ∧ CertainLaunches (process.next action).db :=
    fun process action remembers ⟨sound, before⟩ =>
      ⟨sound.next process action, process.next_certain action remembers sound before⟩
  have initial : LedgersSound .fresh ∧ CertainLaunches DaemonProcess.fresh.db :=
    ⟨.fresh, fun _ member => by cases member⟩
  exact (Machine.allowed_run_preserves preserved initial permitted).2

section AccountRun

def credentialPolicy (layer : PolicyLayer) : ScopedPolicy :=
  ⟨layer, ⟨.use, .use, .use, .deny, .use, false⟩⟩

/-- The project of `firstRun`, whose first agent has an account with a credential. -/
def accountCatalog : IdentityCatalog :=
  let drafted := MvpDraft.draftIdentity ⟨nth 1, nth 2, nth 3, (nth 4, nth 5), nth 6, nth 7, nth 8, nth 9, nth 10,
    nth 11, nth 12, nth 13, nth 14, (nth 15, nth 16, nth 17)⟩ "Project" "/workspace" "gpt" "gemini"
  { drafted with
    credentialReferences := [⟨metadata (nth 40), .macosKeychain, "codex", "owner"⟩]
    accounts := [⟨metadata (nth 41), nth 7, "owner", some (nth 40)⟩]
    agentInstances := drafted.agentInstances.map fun agent =>
      if agent.metadata.id = nth 13 then { agent with accountId := some (nth 41) } else agent
    projects := drafted.projects.map fun project => { project with policy := credentialPolicy .project }
    roles := drafted.roles.map fun role => { role with policy := credentialPolicy .roleOrAgent } }

def accountBinding : ProviderRunBinding where
  agentInstanceId := nth 13
  projectId := nth 1
  modelId := nth 11
  adapterKind := "codex_cli"
  providerModel := "gpt"
  workspaceRoot := "/workspace"
  prompt := "Decision baseline:\nResearch the market.\n\nAssigned task:\nIndependent research A" ++ outputContract
  launchIdentity := ⟨nth 13, nth 7, nth 1, nth 11, "codex_cli", "gpt",
    some ⟨nth 41, "owner", some ⟨nth 40, .macosKeychain, "codex", "owner"⟩⟩⟩

/-- Short texts in place of the serialised plan and request: the name of the first field. -/
abbrev firstField : SerdeJson :=
  ⟨fun | .object ((name, _) :: _) => name | _ => ""⟩

/-- The digests of the decision, of the serialised plan and request, and of what the run returns. -/
abbrev accountDigests : Sha256 :=
  .table [("Research the market.", "6b443c7d97756474b1fe3e2e90f203ccfc82464df739285ea228f4359ec0f314"),
    ("version", "195bde36f894f7ce4af2196386526f07a95b8504489afa513c5f81ec03837eaa"),
    ("schema", "b80dd85a05751fc1443c2ed6d3875fea7a5855ba96cc7ad62854f13057a1a4c0"),
    ("Findings", "e171c2ff25b55e5a2d63d081ec3a65e272d11afec9169a03822c970aac37e79e")]

/-- A run of that agent is approved and dispatched, and its credential is looked up. -/
def accountRun : List Action :=
  firstRun.take 2 ++
    [.command (.replaceCatalog ⟨1, accountCatalog⟩), .command .enterReady,
      .command (.beginGraphNodeRun 6 ⟨nth 30, nth 31, nth 32⟩ (nth 24) ⟨2, 0, nth 21, "console"⟩
        (some accountBinding)),
      .command (.decideApproval 7 ⟨⟨nth 32, "b80dd85a05751fc1443c2ed6d3875fea7a5855ba96cc7ad62854f13057a1a4c0",
        .approve, 7, "owner"⟩, true⟩),
      .claim 8 (fun _ => true) (nth 32), .lookUp (nth 32) true]

/-- The run succeeds with a report. -/
def accountReport : FinishGraphNodeRunCommand :=
  ⟨4, 2, 2, nth 21, nth 31, "console", .succeeded, none, none, some "Findings",
    ⟨.unknown, none, none, none, none, .finite 0⟩⟩

omit [Sha256] [SerdeJson] in
/-- No outcome is forgotten when the daemon restarts with the run still unreported, and one is when it restarts
after the run of the dispatched launch has succeeded. -/
theorem account_restarted :
    Machine.Allowed (@DaemonProcess.next accountDigests firstField)
        (fun process action => @forgetsOutcome accountDigests firstField process action = false) .fresh
        (accountRun ++ [.restart 10]) ∧
      (fun process : DaemonProcess =>
        process.db.identity.content.runs.map (·.state) = [.succeeded] ∧ ¬CertainLaunches process.db)
        (@DaemonProcess.run accountDigests firstField .fresh
          (accountRun ++ [.command (.finishGraphNodeRun 9 (nth 33) (nth 24) accountReport), .restart 10])) := by
  decide +kernel

omit [Sha256] [SerdeJson] in
theorem uncertain_launches_restarted :
    let db := (@DaemonProcess.run accountDigests firstField .fresh (accountRun ++ [.restart 10])).db
    ∀ row ∈ db.staged.rows, row.state = .uncertain →
      ∃ run, db.identity.content.run? row.runId = some run ∧ run.state = .uncertain := by
  have certain := @uncertain_launches accountDigests firstField (accountRun ++ [.restart 10]) account_restarted.1
  exact certain

omit [Sha256] [SerdeJson] in
/-- The daemon restarts after the run of a dispatched launch has succeeded. -/
theorem uncertain_launches_fails :
    let process := @DaemonProcess.run accountDigests firstField .fresh
      (accountRun ++ [.command (.finishGraphNodeRun 9 (nth 33) (nth 24) accountReport), .restart 10])
    process.db.identity.content.runs.map (·.state) = [.succeeded] ∧ ¬CertainLaunches process.db := by
  have reached := account_restarted.2
  exact reached

end AccountRun

end Runs

end Bastet.Daemon
