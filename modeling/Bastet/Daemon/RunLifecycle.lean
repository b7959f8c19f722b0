import Bastet.Daemon.Changes
import Bastet.Daemon.Waiting

/-! The life of a run record: it is never removed, its state never goes back, and what has
ended stays as it is. -/

set_option autoImplicit false

namespace Bastet.Core

open Fallible Lookup

/-- The place of a state in the life of a run. The daemon never puts a run in `recovering`. -/
def NormalizedRunState.rank : NormalizedRunState → Nat
  | .awaitingApproval => 0
  | .starting => 1
  | .running | .recovering => 2
  | .cancelling => 3
  | .succeeded | .failed | .cancelled | .blocked | .uncertain => 4

theorem NormalizedRunState.rank_le {state later : NormalizedRunState} (terminal : later.isTerminal = true) :
    state.rank ≤ later.rank := by
  cases state <;> cases later <;> simp_all [rank, isTerminal]

theorem NormalizedRunState.isActive_not_terminal {state : NormalizedRunState} (active : state.isActive = true) :
    state.isTerminal = false := by
  cases state <;> simp_all [isActive, isTerminal]

/-- A run that had not ended has moved on: it waits for nothing any more, a start time is there
once it starts, and stays. -/
structure Run.Moved (run later : Run) : Prop where
  opened : run.state.isTerminal = false
  forward : run.state.rank ≤ later.state.rank
  settled : later.state ≠ .recovering
  dispatched : later.state ≠ .awaitingApproval
  started : later.state = .starting → later.startedAt.isSome = true
  since : run.startedAt.isSome = true → later.startedAt = run.startedAt

/-- A later record of a run: the same, or of a state that comes after one that has not ended. -/
structure Run.Advances (run later : Run) : Prop where
  same : later.metadata.id = run.metadata.id
  moved : later = run ∨ run.Moved later

theorem Run.Advances.refl (run : Run) : run.Advances run := ⟨rfl, .inl rfl⟩

theorem Run.Moved.trans {run later last : Run} (first : run.Moved later) (second : later.Moved last) : run.Moved last where
  opened := first.opened
  forward := Nat.le_trans first.forward second.forward
  settled := second.settled
  dispatched := second.dispatched
  started := second.started
  since some := by
    have kept := first.since some
    rw [second.since (kept ▸ some), kept]

theorem Run.Advances.trans {run later last : Run} (first : run.Advances later) (second : later.Advances last) :
    run.Advances last := by
  refine ⟨second.same.trans first.same, ?_⟩
  rcases second.moved with rfl | further
  · exact first.moved
  · rcases first.moved with rfl | forward
    · exact .inr further
    · exact .inr (forward.trans further)

theorem Run.Advances.terminal {run later : Run} (advances : run.Advances later) (ended : run.state.isTerminal = true) :
    later = run := by
  rcases advances.moved with same | moved
  · exact same
  · have opened := moved.opened
    rw [ended] at opened
    cases opened

theorem Run.Advances.rank_le {run later : Run} (advances : run.Advances later) : run.state.rank ≤ later.state.rank := by
  rcases advances.moved with rfl | moved
  · exact Nat.le_refl _
  · exact moved.forward

/-- A run that has not ended, ended. -/
theorem Run.Advances.ends {run later : Run} (same : later.metadata.id = run.metadata.id)
    (open_ : run.state.isTerminal = false) (ended : later.state.isTerminal = true)
    (since : later.startedAt = run.startedAt) : run.Advances later := by
  have apart : ∀ state : NormalizedRunState, state.isTerminal = false → later.state ≠ state := by
    intro state other equal
    rw [equal, other] at ended
    cases ended
  exact ⟨same, .inr ⟨open_, NormalizedRunState.rank_le ended, apart _ rfl, apart _ rfl,
    fun starting => absurd starting (apart _ rfl), fun _ => since⟩⟩

/-- What happens to the runs of a catalog: every run advances, and no new one is recovering. -/
structure IdentityCatalog.Evolves (before after : IdentityCatalog) : Prop where
  kept : ∀ id run, before.run? id = some run → ∃ later, after.run? id = some later ∧ run.Advances later
  fresh : ∀ id later, before.run? id = none → after.run? id = some later → later.state ≠ .recovering

namespace IdentityCatalog

variable {catalog next last : IdentityCatalog}

theorem validate_runs_distinct (valid : catalog.validate = .ok ()) :
    (catalog.runs.map (·.metadata.id)).Nodup := by
  simp only [validate, unique, bind_ok, exists_unit, distinct_ok] at valid
  obtain ⟨_, _, _, _, _, _, _, _, _, distinct, _⟩ := valid
  apply List.Nodup.of_map StableId.value
  rw [List.map_map]
  exact distinct

/-- No run of the catalog is recovering. -/
def NoneRecovering (catalog : IdentityCatalog) : Prop :=
  ∀ id run, catalog.run? id = some run → run.state ≠ .recovering

theorem Evolves.of_runs (same : ∀ id, next.run? id = catalog.run? id) : catalog.Evolves next where
  kept id run found := ⟨run, (same id).trans found, .refl run⟩
  fresh id later none found := by
    rw [same, none] at found
    cases found

theorem Evolves.refl (catalog : IdentityCatalog) : catalog.Evolves catalog := .of_runs fun _ => rfl

theorem Evolves.noneRecovering (evolves : catalog.Evolves next) (initial : catalog.NoneRecovering) :
    next.NoneRecovering := by
  intro id later found
  cases before : catalog.run? id with
  | none => exact evolves.fresh id later before found
  | some run =>
    obtain ⟨other, again, advances⟩ := evolves.kept id run before
    obtain rfl := Option.some.inj (again.symm.trans found)
    rcases advances.moved with rfl | moved
    · exact initial id _ before
    · exact moved.settled

theorem Evolves.trans (first : catalog.Evolves next) (second : next.Evolves last) : catalog.Evolves last where
  kept id run found := by
    obtain ⟨middle, reached, forward⟩ := first.kept id run found
    obtain ⟨later, ended, further⟩ := second.kept id middle reached
    exact ⟨later, ended, forward.trans further⟩
  fresh id later absent found := by
    cases middle : next.run? id with
    | none => exact second.fresh id later middle found
    | some run =>
      obtain ⟨other, again, advances⟩ := second.kept id run middle
      obtain rfl := Option.some.inj (again.symm.trans found)
      rcases advances.moved with rfl | moved
      · exact first.fresh id _ absent middle
      · exact moved.settled

theorem run?_updateRun {change : Run → Run} (same : ∀ run, (change run).metadata.id = run.metadata.id)
    (runId other : RunId) :
    (catalog.updateRun runId change).run? other =
      if other = runId then (catalog.run? other).map change else catalog.run? other :=
  find_modifyFirst same catalog.runs other

theorem Evolves.updateRun {change : Run → Run} {runId : RunId}
    (same : ∀ run, (change run).metadata.id = run.metadata.id)
    (advances : ∀ run, catalog.run? runId = some run → run.Advances (change run)) :
    catalog.Evolves (catalog.updateRun runId change) where
  kept id run found := by
    rw [run?_updateRun same]
    by_cases changed : id = runId
    · subst changed
      rw [if_pos rfl, found]
      exact ⟨change run, rfl, advances run found⟩
    · rw [if_neg changed]
      exact ⟨run, found, .refl run⟩
  fresh id later absent found := by
    rw [run?_updateRun same, absent] at found
    split at found <;> cases found

end IdentityCatalog

end Bastet.Core

namespace Bastet.Daemon

open Fallible Bastet.Core Lookup

section Effects

variable {catalog next : IdentityCatalog} {updatedAt : String}

theorem keepsRun_ok {run : Run} (kept : keepsRun catalog next run = .ok ()) :
    next.run? run.metadata.id = some run := by
  simp only [keepsRun, bind_ok, required_ok, reject_ok, Bool.or_eq_false_iff, decide_eq_false_iff_not, not_not,
    ne_eq] at kept
  obtain ⟨_, _, same, _⟩ := kept
  exact same

/-- A report moves a run that is at work. -/
theorem Reports.evolves {db : Database} {command : Command} (reports : Reports db updatedAt command next) : db.identity.content.Evolves next := by
  cases reports with
  | @running run session marked _ name current found active mark named =>
    have renamed : ∀ id, next.run? id = marked.run? id := by
      intro id
      rcases nameSession_ok named with rfl | ⟨_, rfl⟩ <;> rfl
    refine IdentityCatalog.Evolves.trans ?_ (.of_runs renamed)
    rw [markRunning_ok mark]
    split
    · rename_i starting
      refine .updateRun (fun _ => rfl) fun other again => ?_
      obtain rfl := Option.some.inj (found.symm.trans again)
      refine ⟨rfl, .inr ⟨NormalizedRunState.isActive_not_terminal active, ?_, by simp [Run.enter], by simp [Run.enter],
        by simp [Run.enter], fun _ => rfl⟩⟩
      show run.state.rank ≤ NormalizedRunState.running.rank
      rw [starting]
      decide
    · exact .refl _
  | @cancelling run asked found open_ =>
    refine .updateRun (fun _ => rfl) fun other again => ?_
    obtain rfl := Option.some.inj (found.symm.trans again)
    refine ⟨rfl, .inr ⟨?_, ?_, by simp [Run.enter], by simp [Run.enter], by simp [Run.enter], fun _ => rfl⟩⟩ <;>
      cases state : run.state <;> simp_all [NormalizedRunState.isCancellable, NormalizedRunState.isTerminal,
        NormalizedRunState.rank, Run.enter]

/-- A client's catalog keeps the runs that are stored, and adds only runs that have not begun. -/
theorem replaced_evolves (kept : ∀ run ∈ catalog.runs, keepsRun catalog next run = .ok ())
    (idle : ∀ run ∈ next.runs, introducesIdle catalog run = .ok ()) : catalog.Evolves next where
  kept id run found := by
    obtain ⟨member, rfl⟩ := find_some found
    exact ⟨run, keepsRun_ok (kept run member), .refl run⟩
  fresh id later absent found := by
    obtain ⟨member, rfl⟩ := find_some found
    have introduced := idle later member
    have unknown := find_none.mp absent
    simp only [introducesIdle, reject_ok, Bool.and_eq_false_iff, Bool.or_eq_false_iff, decide_eq_false_iff_not,
      not_not, ne_eq, Bool.not_eq_false', List.any_eq_true, decide_eq_true_eq] at introduced
    rcases introduced with ⟨old, inside, same⟩ | ⟨starting, _⟩
    · exact absurd same (unknown old inside)
    · rw [starting]
      simp

theorem withAttempt_evolves (catalog : IdentityCatalog) (now : Nat) (ids : RunIds) (binding : ProviderRunBinding)
    (staged : Bool) : catalog.Evolves (withAttempt catalog now ids binding staged) where
  kept id run found := ⟨run, by
    simp only [IdentityCatalog.run?, withAttempt, List.find?_append] at found ⊢
    rw [found, Option.some_or], .refl run⟩
  fresh id later absent found := by
    simp only [IdentityCatalog.run?, withAttempt, List.find?_append] at absent found
    rw [absent, Option.none_or] at found
    obtain ⟨member, _⟩ := find_some found
    obtain rfl := List.mem_singleton.mp member
    cases staged <;> nofun

theorem finishedCatalog_evolves {now : Nat} {run : Run} {session : Session} {state : NormalizedRunState}
    {graphState : GraphNodeState} {name : Option String} (found : catalog.run? run.metadata.id = some run)
    (active : run.state.isActive = true) (terminal : Daemon.graphState state = .ok graphState)
    (made : finishedCatalog catalog now run session state name = .ok next) : catalog.Evolves next := by
  have ended : state.isTerminal = true := by
    cases state <;> first | rfl | cases terminal
  have evolves : catalog.Evolves (catalog.updateRun run.metadata.id (endRun state (timestamp now))) := by
    refine .updateRun (fun _ => rfl) fun other again => ?_
    obtain rfl := Option.some.inj (found.symm.trans again)
    exact .ends rfl (NormalizedRunState.isActive_not_terminal active) ended rfl
  simp only [finishedCatalog, bind_ok] at made
  obtain ⟨_, _, made⟩ := made
  cases name with
  | none => exact pure_ok.mp made ▸ evolves
  | some name =>
    simp only [bind_ok, exists_unit, pure_ok] at made
    obtain ⟨_, _, _, rfl⟩ := made
    exact evolves.trans (.of_runs fun _ => rfl)

theorem recovered_run? (catalog : IdentityCatalog) (updatedAt : String) (id : RunId) :
    (catalog.recovered updatedAt).run? id = (catalog.run? id).map (Run.recovered updatedAt) := by
  have same : ∀ run, (Run.recovered updatedAt run).metadata.id = run.metadata.id := by
    intro run
    unfold Run.recovered
    split
    · rfl
    · split <;> rfl
  simp only [IdentityCatalog.run?, IdentityCatalog.recovered, List.find?_map, Function.comp_def, same]

theorem recovered_evolves (catalog : IdentityCatalog) (updatedAt : String) :
    catalog.Evolves (catalog.recovered updatedAt) := by
  refine ⟨fun id run found => ⟨run.recovered updatedAt, by rw [recovered_run?, found]; rfl, ?_⟩,
    fun id later absent found => ?_⟩
  · unfold Run.recovered
    split
    · exact .refl run
    · split
      · rename_i interrupted
        refine .ends rfl ?_ rfl rfl
        cases state : run.state <;> simp_all [wasInterrupted, NormalizedRunState.isTerminal]
      · exact .refl run
  · rw [recovered_run?, absent] at found
    cases found

end Effects

variable [Sha256] [SerdeJson] {db after : Database}

/-- A cancelled launch ends the run that waited for it. -/
theorem Cancels.evolves {now : Nat} {row : StagedRow} {reason : String} {run : Run} {plan : ProviderLaunchPlan}
    {graphRow : GraphRow} {execution : GraphExecution}
    (cancels : Cancels db now row reason run plan graphRow execution after) :
    db.identity.content.Evolves after.identity.content := by
  obtain ⟨grants, events, _, rfl⟩ := cancels.left
  refine .updateRun (fun _ => rfl) fun other again => ?_
  obtain rfl := Option.some.inj (cancels.found.symm.trans again)
  refine .ends rfl ?_ rfl rfl
  rw [(validateStagedContext_run cancels.context).1]
  rfl

theorem MayCancel.evolves {now : Nat} {requestId : ApprovalRequestId} {reason : String}
    (cancels : MayCancel db now requestId reason after) : db.identity.content.Evolves after.identity.content := by
  rcases cancels with ⟨rfl, _⟩ | ⟨_, _, _, _, _, _, cancels⟩
  · exact .refl _
  · exact cancels.evolves

theorem CancelsSome.evolves {now : Nat} (cancels : CancelsSome now db after) :
    db.identity.content.Evolves after.identity.content := by
  induction cancels with
  | refl => exact .refl _
  | tail _ last ih =>
    obtain ⟨_, _, cancels⟩ := last
    exact ih.trans cancels.evolves

theorem onDecision_evolves {now : Nat} {request : ApprovalRequest} {kind : ApprovalDecisionKind}
    (informed : onDecision db now request kind = .ok after) :
    db.identity.content.Evolves after.identity.content := by
  rcases onDecision_ok informed with ⟨_, rfl⟩ | ⟨_, _, _, _, _, _, _, _, _, _, _, rfl⟩ | ⟨_, cancels⟩
  · exact .refl _
  · exact .refl _
  · exact cancels.evolves

/-- Every change of the database lets the runs of the catalog evolve. -/
theorem Change.evolves {action : Action} (change : Change db action after) :
    db.identity.content.Evolves after.identity.content := by
  cases change with
  | quiet | shifted | replacedM3 | accepted | createdGraph | restartedGraph | requested | consumed => exact .refl _
  | replacedCatalog events valid kept idle => exact replaced_evolves kept idle
  | prepared events made initial =>
    rw [initial]
    simp only [MvpDraft.prepare, bind_ok, exists_unit, pure_ok] at made
    obtain ⟨_, _, rfl⟩ := made
    exact .of_runs fun _ => rfl
  | storedM3 stored =>
    obtain ⟨_, _, _, rfl⟩ := stored
    exact .refl _
  | reported events valid reports => exact reports.evolves
  | worked stored =>
    obtain ⟨_, _, _, _, _, rfl⟩ := stored
    exact .refl _
  | begun events begun serving attended current left =>
    have evolves := withAttempt_evolves db.identity.content
    split at left
    · obtain ⟨staging, _, rfl⟩ := stage_ok left
      exact evolves ..
    · subst left
      exact evolves ..
  | finished events trusted finishing =>
    have same := (find_some finishing.runFound).2
    exact finishedCatalog_evolves (same ▸ finishing.runFound) finishing.active finishing.terminal finishing.catalogMade
  | decided issued events deciding informed =>
    have evolves := onDecision_evolves informed
    exact evolves
  | cancelled events some => exact some.evolves
  | revoked events spent cancels => exact cancels.evolves
  | claimed events claiming =>
    refine .updateRun (fun _ => rfl) fun other again => ?_
    obtain rfl := Option.some.inj (claiming.runFound.symm.trans again)
    obtain ⟨awaiting, unstarted, _⟩ := validateStagedContext_run claiming.proved
    refine ⟨rfl, .inr ⟨by rw [awaiting]; rfl, ?_, by simp [startRun], by simp [startRun], by simp [startRun],
      by simp [unstarted]⟩⟩
    show claiming.run.state.rank ≤ NormalizedRunState.starting.rank
    rw [awaiting]
    decide
  | abandoned events abandoning =>
    refine .updateRun (fun _ => rfl) fun other again => ?_
    obtain rfl := Option.some.inj (abandoning.runFound.symm.trans again)
    refine .ends rfl ?_ rfl rfl
    rw [abandoning.starting]
    rfl
  | recovered events middle proved catalogValid recoverable revised expired =>
    exact (recovered_evolves db.identity.content _).trans expired.evolves

theorem MayCancel.catalogValid {now : Nat} {requestId : ApprovalRequestId} {reason : String}
    (cancels : MayCancel db now requestId reason after) (valid : db.identity.content.validate = .ok ()) :
    after.identity.content.validate = .ok () := by
  rcases cancels with ⟨rfl, _⟩ | ⟨_, _, _, _, _, _, cancels⟩
  · exact valid
  · obtain ⟨_, _, _, rfl⟩ := cancels.left
    exact cancels.catalogValid

theorem CancelsSome.catalogValid {now : Nat} (cancels : CancelsSome now db after)
    (valid : db.identity.content.validate = .ok ()) : after.identity.content.validate = .ok () := by
  induction cancels with
  | refl => exact valid
  | tail _ last ih =>
    obtain ⟨_, _, cancels⟩ := last
    exact cancels.catalogValid ih

/-- The stored catalog passes its own checks after every change. -/
theorem Change.catalogValid {action : Action} (change : Change db action after)
    (valid : db.identity.content.validate = .ok ()) : after.identity.content.validate = .ok () := by
  cases change with
  | quiet | shifted | replacedM3 | accepted | createdGraph | restartedGraph | requested | consumed => exact valid
  | replacedCatalog events next => exact next
  | prepared events made =>
    simp only [MvpDraft.prepare, MvpDraft.validate, bind_ok, exists_unit, mapError_ok, pure_ok] at made
    obtain ⟨_, ⟨next, _⟩, rfl⟩ := made
    exact next
  | storedM3 stored =>
    obtain ⟨_, _, _, rfl⟩ := stored
    exact valid
  | reported events next => exact next
  | worked stored =>
    obtain ⟨_, _, _, _, _, rfl⟩ := stored
    exact valid
  | begun events begun serving attended current left =>
    split at left
    · obtain ⟨staging, _, rfl⟩ := stage_ok left
      exact begun.catalogValid
    · subst left
      exact begun.catalogValid
  | finished events trusted finishing => exact finishing.catalogValid
  | decided issued events deciding informed =>
    rcases onDecision_ok informed with ⟨_, rfl⟩ | ⟨_, _, _, _, _, _, _, _, _, _, _, rfl⟩ | ⟨_, cancels⟩
    · exact valid
    · exact valid
    · have cancelled := cancels.catalogValid valid
      exact cancelled
  | cancelled events some => exact some.catalogValid valid
  | revoked events spent cancels =>
    have cancelled := cancels.catalogValid valid
    exact cancelled
  | claimed events claiming => exact claiming.catalogValid
  | abandoned events abandoning => exact abandoning.catalogValid
  | recovered events middle proved next recoverable revised expired => exact expired.catalogValid next

/-- The catalog of a reachable database is valid, and none of its runs is recovering. -/
structure SoundRuns (process : DaemonProcess) : Prop where
  valid : process.db.identity.content.validate = .ok ()
  noneRecovering : process.db.identity.content.NoneRecovering

omit [Sha256] [SerdeJson] in
theorem SoundRuns.fresh : SoundRuns .fresh where
  valid := rfl
  noneRecovering _ _ found := nomatch found

theorem SoundRuns.next (process : DaemonProcess) (action : Action) (sound : SoundRuns process) :
    SoundRuns (process.next action) := by
  rcases process.next_change action with same | change
  · exact ⟨same ▸ sound.valid, same ▸ sound.noneRecovering⟩
  · exact ⟨change.catalogValid sound.valid, change.evolves.noneRecovering sound.noneRecovering⟩

theorem SoundRuns.run {process : DaemonProcess} (sound : SoundRuns process) (actions : List Action) :
    SoundRuns (process.run actions) :=
  Machine.run_preserves SoundRuns.next sound actions

theorem run_evolves (process : DaemonProcess) (actions : List Action) :
    process.db.identity.content.Evolves (process.run actions).db.identity.content := by
  refine Machine.run_relates (fun _ => True)
    (fun before later : DaemonProcess => before.db.identity.content.Evolves later.db.identity.content)
    (fun _ => .refl _) (fun _ _ _ => .trans) (fun _ _ _ => trivial) (fun before action _ => ?_) trivial actions
  rcases before.next_change action with same | change
  · exact .of_runs fun _ => by rw [same]
  · exact change.evolves

/-- A run that is in the catalog after some actions is there after any more: its state has not
moved back, and if it had ended it is as it was. -/
theorem run_lifecycle_monotone (first rest : List Action) {run : Run}
    (recorded : run ∈ (DaemonProcess.fresh.run first).db.identity.content.runs) :
    ∃ later ∈ ((DaemonProcess.fresh.run first).run rest).db.identity.content.runs,
      later.metadata.id = run.metadata.id ∧
      (∀ other ∈ ((DaemonProcess.fresh.run first).run rest).db.identity.content.runs,
        other.metadata.id = run.metadata.id → other = later) ∧
      run.state ≠ .recovering ∧ later.state ≠ .recovering ∧ run.state.rank ≤ later.state.rank ∧
      (run.state.isTerminal = true → later = run) := by
  have before := SoundRuns.fresh.run first
  have after := before.run rest
  have distinct := IdentityCatalog.validate_runs_distinct after.valid
  have found := find_of_mem (IdentityCatalog.validate_runs_distinct before.valid) recorded
  obtain ⟨later, reached, advances⟩ := (run_evolves (DaemonProcess.fresh.run first) rest).kept _ _ found
  refine ⟨later, (find_some reached).1, advances.same, fun other member same => ?_,
    before.noneRecovering _ _ found, after.noneRecovering _ _ reached, advances.rank_le, advances.terminal⟩
  exact List.inj_on_of_nodup_map distinct member (find_some reached).1 (same.trans advances.same.symm)

section FirstRun

/-- The `n`-th identifier of its kind. -/
def nth {kind : EntityKind} (n : Nat) : StableId kind :=
  ⟨BitVec.ofNat 128 n⟩

/-- A first project whose decision is accepted, and the first run of one of its research nodes. -/
def firstRun : List Action :=
  [.command (.prepareMvp ⟨nth 1, nth 2, nth 3, (nth 4, nth 5), nth 6, nth 7, nth 8, nth 9, nth 10, nth 11, nth 12,
      nth 13, nth 14, (nth 15, nth 16, nth 17)⟩ true ⟨0, 0, "Project", "/workspace", "gpt", "gemini"⟩),
    .command (.acceptMvpDecision 5 ⟨nth 20, nth 21, nth 22, nth 23, nth 24⟩
      ⟨1, nth 2, "Research the market.", "owner", "2026-09-03"⟩),
    .command (.beginGraphNodeRun 6 ⟨nth 30, nth 31, nth 32⟩ (nth 24) ⟨1, 0, nth 21, "console"⟩ none)]

def startedRun : Run :=
  ⟨entityMetadata 6 (nth 31) "graph_node_run", nth 30, nth 11, .starting, some "6", none⟩

omit [Sha256] [SerdeJson] in
theorem run_lifecycle_monotone_started :
    ∃ later ∈ (@DaemonProcess.run (.table []) SerdeJson.compact
        (@DaemonProcess.run (.table []) SerdeJson.compact .fresh firstRun)
        [.command (.recordProviderRunning 7 (nth 31) none), .restart 8]).db.identity.content.runs,
      later.metadata.id = nth 31 := by
  obtain ⟨later, member, same, _⟩ := @run_lifecycle_monotone (.table []) SerdeJson.compact firstRun
    [.command (.recordProviderRunning 7 (nth 31) none), .restart 8] startedRun (by decide +kernel)
  exact ⟨later, member, same⟩

end FirstRun

end Bastet.Daemon
