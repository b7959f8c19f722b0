import Bastet.Daemon.Undisturbed

/-! A run succeeds, fails or is blocked by the command that finishes it, and by no other
step of the daemon. -/

set_option autoImplicit false

namespace Bastet.Core

/-- What a provider makes of its run. -/
def NormalizedRunState.isVerdict : NormalizedRunState → Bool
  | .succeeded | .failed | .blocked => true
  | _ => false

/-- A run is there afterwards, without a verdict that it did not have. -/
def IdentityCatalog.KeepsVerdict (runId : RunId) (catalog next : IdentityCatalog) : Prop :=
  ∀ run, catalog.run? runId = some run → ∃ later, next.run? runId = some later ∧
    (later.state.isVerdict = true → later.state = run.state)

namespace IdentityCatalog

variable {catalog next last : IdentityCatalog} {runId : RunId}

theorem KeepsVerdict.of_run (same : ∀ run, catalog.run? runId = some run → next.run? runId = some run) :
    catalog.KeepsVerdict runId next :=
  fun run found => ⟨run, same run found, fun _ => rfl⟩

theorem KeepsVerdict.refl (catalog : IdentityCatalog) : catalog.KeepsVerdict runId catalog :=
  .of_run fun _ found => found

theorem KeepsVerdict.trans (first : catalog.KeepsVerdict runId next) (second : next.KeepsVerdict runId last) :
    catalog.KeepsVerdict runId last := by
  intro run found
  obtain ⟨middle, reached, kept⟩ := first run found
  obtain ⟨later, ended, still⟩ := second middle reached
  refine ⟨later, ended, fun verdict => ?_⟩
  have same := still verdict
  rw [same] at verdict
  exact same.trans (kept verdict)

/-- One run of the catalog enters a state that is no verdict. -/
theorem KeepsVerdict.updateRun {changed : RunId} {change : Run → Run}
    (same : ∀ run, (change run).metadata.id = run.metadata.id)
    (open_ : ∀ run, (change run).state.isVerdict = false) :
    catalog.KeepsVerdict runId (catalog.updateRun changed change) := by
  intro run found
  rw [run?_updateRun same, found]
  by_cases here : runId = changed
  · rw [if_pos here]
    refine ⟨change run, rfl, fun verdict => ?_⟩
    rw [open_ run] at verdict
    cases verdict
  · rw [if_neg here]
    exact ⟨run, rfl, fun _ => rfl⟩

end IdentityCatalog

end Bastet.Core

namespace Bastet.Daemon

open Fallible Bastet.Core Lookup

section Effects

variable {catalog next : IdentityCatalog} {runId : RunId}

theorem markRunning_keepsVerdict {updatedAt : String} {run : Run} (mark : markRunning catalog updatedAt run = .ok next) :
    catalog.KeepsVerdict runId next := by
  rw [markRunning_ok mark]
  split
  · exact .updateRun (fun _ => rfl) fun _ => rfl
  · exact .refl _

theorem Reports.keepsVerdict {db : Database} {updatedAt : String} {command : Command}
    (reports : Reports db updatedAt command next) : db.identity.content.KeepsVerdict runId next := by
  cases reports with
  | @running _ _ marked _ name _ _ _ mark named =>
    have renamed : next.run? runId = marked.run? runId := by
      rcases nameSession_ok named with rfl | ⟨_, rfl⟩ <;> rfl
    exact (markRunning_keepsVerdict mark).trans (.of_run fun _ found => renamed.trans found)
  | cancelling => exact .updateRun (fun _ => rfl) fun _ => rfl

theorem replaced_keepsVerdict (kept : ∀ run ∈ catalog.runs, keepsRun catalog next run = .ok ()) :
    catalog.KeepsVerdict runId next := by
  refine .of_run fun run found => ?_
  obtain ⟨member, rfl⟩ := find_some found
  exact keepsRun_ok (kept run member)

theorem withAttempt_keepsVerdict (now : Nat) (ids : RunIds) (binding : ProviderRunBinding) (staged : Bool) :
    catalog.KeepsVerdict runId (withAttempt catalog now ids binding staged) := by
  refine .of_run fun run found => ?_
  simp only [IdentityCatalog.run?, withAttempt, List.find?_append] at found ⊢
  rw [found, Option.some_or]

theorem recovered_keepsVerdict (updatedAt : String) : catalog.KeepsVerdict runId (catalog.recovered updatedAt) := by
  intro run found
  refine ⟨run.recovered updatedAt, by rw [recovered_run?, found]; rfl, fun verdict => ?_⟩
  unfold Run.recovered at verdict ⊢
  -- an interrupted run is uncertain
  split_ifs at verdict ⊢
  · rfl
  · cases verdict
  · rfl

end Effects

variable [Sha256] [SerdeJson] {db after : Database} {runId : RunId}

theorem MayCancel.keepsVerdict {now : Nat} {requestId : ApprovalRequestId} {reason : String}
    (cancels : MayCancel db now requestId reason after) :
    db.identity.content.KeepsVerdict runId after.identity.content := by
  rcases cancels with ⟨rfl, _⟩ | ⟨_, _, _, _, _, _, cancels⟩
  · exact .refl _
  · obtain ⟨grants, events, _, rfl⟩ := cancels.left
    exact .updateRun (fun _ => rfl) fun _ => rfl

theorem CancelsSome.keepsVerdict {now : Nat} (cancels : CancelsSome now db after) :
    db.identity.content.KeepsVerdict runId after.identity.content := by
  induction cancels with
  | refl => exact .refl _
  | tail _ last ih =>
    obtain ⟨_, _, cancels⟩ := last
    exact ih.trans cancels.keepsVerdict

theorem onDecision_keepsVerdict {now : Nat} {request : ApprovalRequest} {kind : ApprovalDecisionKind}
    (informed : onDecision db now request kind = .ok after) :
    db.identity.content.KeepsVerdict runId after.identity.content := by
  rcases onDecision_ok informed with ⟨_, rfl⟩ | ⟨_, _, _, _, _, _, _, _, _, _, _, rfl⟩ | ⟨_, cancels⟩
  · exact .refl _
  · exact .refl _
  · exact cancels.keepsVerdict

omit [SerdeJson] in
/-- The state a run is in when the command that finishes it commits. -/
theorem Finishing.verdict {now : Nat} {costId : CostRecordId} {id : GraphRunId} {command : FinishGraphNodeRunCommand}
    (finishing : Finishing db now costId id command) :
    ∃ later, finishing.finished.identity.run? command.runId = some later ∧ later.state = command.terminalState := by
  have same := (find_some finishing.runFound).2
  have kept : ∀ run, (endRun command.terminalState (timestamp now) run).metadata.id = run.metadata.id := fun _ => rfl
  have updated : (db.identity.content.updateRun finishing.run.metadata.id
      (endRun command.terminalState (timestamp now))).run? command.runId =
        some (endRun command.terminalState (timestamp now) finishing.run) := by
    rw [IdentityCatalog.run?_updateRun kept, if_pos same.symm, finishing.runFound]
    rfl
  have made := finishing.catalogMade
  simp only [finishedCatalog, bind_ok] at made
  obtain ⟨_, _, made⟩ := made
  cases name : command.providerSessionId with
  | none =>
    rw [name] at made
    exact ⟨_, pure_ok.mp made ▸ updated, rfl⟩
  | some text =>
    rw [name] at made
    simp only [bind_ok, exists_unit, pure_ok] at made
    obtain ⟨_, _, _, made⟩ := made
    rw [← made]
    exact ⟨_, updated, rfl⟩

/-- A run that gets a verdict is finished by a command that names the run and submits that verdict. -/
theorem Change.verdict {action : Action} (change : Change db action after) {run : Run}
    (found : db.identity.content.run? runId = some run) :
    ∃ later, after.identity.content.run? runId = some later ∧
      (later.state.isVerdict = true → later.state = run.state ∨ ∃ now costId id submitted,
        action = .command (.finishGraphNodeRun now costId id submitted) ∧ submitted.runId = runId ∧
        submitted.terminalState = later.state) := by
  have quiet : db.identity.content.KeepsVerdict runId after.identity.content → ∃ later,
      after.identity.content.run? runId = some later ∧ (later.state.isVerdict = true → later.state = run.state ∨
        ∃ now costId id submitted, action = .command (.finishGraphNodeRun now costId id submitted) ∧
          submitted.runId = runId ∧ submitted.terminalState = later.state) := by
    intro keeps
    obtain ⟨later, reached, kept⟩ := keeps run found
    exact ⟨later, reached, fun verdict => .inl (kept verdict)⟩
  cases change with
  | finished events trusted finishing =>
    rename_i now costId id submitted command
    have names : command.runId = submitted.runId := by
      rcases trusted with rfl | rfl <;> rfl
    by_cases here : runId = command.runId
    · subst here
      obtain ⟨later, reached, ended⟩ := finishing.verdict
      refine ⟨later, reached, fun verdict => .inr ⟨now, costId, id, submitted, rfl, names.symm, ?_⟩⟩
      -- a command that is not trusted makes the run uncertain
      rcases trusted with rfl | rfl
      · exact ended.symm
      · rw [ended] at verdict
        cases verdict
    · apply quiet
      have same := (find_some finishing.runFound).2
      exact .of_run fun _ found => finishedCatalog_other finishing.catalogMade (same ▸ here) found
  | quiet | shifted | replacedM3 | accepted | createdGraph | restartedGraph | requested | consumed =>
    exact quiet (.refl _)
  | replacedCatalog events valid kept => exact quiet (replaced_keepsVerdict kept)
  | prepared events made initial =>
    rw [initial] at found
    cases found
  | storedM3 stored =>
    obtain ⟨_, _, _, rfl⟩ := stored
    exact quiet (.refl _)
  | reported events valid reports => exact quiet reports.keepsVerdict
  | worked stored =>
    obtain ⟨_, _, _, _, _, rfl⟩ := stored
    exact quiet (.refl _)
  | @begun now ids _ _ _ _ events begun serving attended current left =>
    have identity := congrArg Versioned.content (Beginning.stages left).identity
    have keeps : db.identity.content.KeepsVerdict runId begun.database.identity.content :=
      withAttempt_keepsVerdict now ids begun.binding begun.staged
    exact quiet (identity ▸ keeps)
  | decided issued events deciding informed =>
    have keeps : (deciding.database issued).identity.content.KeepsVerdict runId _ := onDecision_keepsVerdict informed
    exact quiet keeps
  | cancelled events some => exact quiet some.keepsVerdict
  | revoked events spent cancels =>
    have keeps : db.identity.content.KeepsVerdict runId _ := cancels.keepsVerdict
    exact quiet keeps
  | claimed events claiming => exact quiet (.updateRun (fun _ => rfl) fun _ => rfl)
  | abandoned events abandoning => exact quiet (.updateRun (fun _ => rfl) fun _ => rfl)
  | recovered events middle proved catalogValid recoverable revised expired =>
    exact quiet ((recovered_keepsVerdict _).trans expired.keepsVerdict)

end Bastet.Daemon
