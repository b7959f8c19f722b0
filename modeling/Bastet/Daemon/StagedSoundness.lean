import Bastet.Daemon.StagedContext

/-! In every state that is reached, a launch that waits passes the checks that recovery makes of it, and a run that
waits for its approval has a launch. -/

set_option autoImplicit false

namespace Bastet.Daemon

open Fallible Bastet.Core

section Grants

variable {db after last : Database}

/-- A grant is issued at the time of the decision it comes from. -/
def Issued (db : Database) : Prop :=
  ∀ id grant, db.grants.find? id = some grant → ∃ row decision, db.approvals.find? id = some row ∧
    row.decision = some decision ∧ grant.issuedAtMs = decision.decidedAtMs

/-- A grant keeps its time of issue; a new one has the time of its decision. -/
def KeepsTimes (db after : Database) : Prop :=
  ∀ id later, after.grants.find? id = some later →
    (∃ grant, db.grants.find? id = some grant ∧ later.issuedAtMs = grant.issuedAtMs) ∨
    ∃ row decision, after.approvals.find? id = some row ∧ row.decision = some decision ∧
      later.issuedAtMs = decision.decidedAtMs

theorem KeepsTimes.of_same (same : after.grants = db.grants) : KeepsTimes db after :=
  fun _ later found => .inl ⟨later, same ▸ found, rfl⟩

theorem KeepsTimes.of_update {id : ApprovalRequestId} {change : GrantRow → GrantRow}
    (kept : ∀ row, (change row).requestId = row.requestId) (times : ∀ row, (change row).issuedAtMs = row.issuedAtMs)
    (same : after.grants = db.grants.update id change kept) : KeepsTimes db after := by
  intro other later found
  rw [same, Table.find?_update] at found
  split at found
  · obtain ⟨grant, before, rfl⟩ := Option.map_eq_some_iff.mp found
    exact .inl ⟨grant, before, times grant⟩
  · exact .inl ⟨later, found, rfl⟩

theorem KeepsTimes.trans (first : KeepsTimes db after) (second : KeepsTimes after last) (spends : Spends after last) :
    KeepsTimes db last := by
  intro id later found
  rcases second id later found with ⟨grant, middle, time⟩ | decided
  · rcases first id grant middle with ⟨old, before, same⟩ | ⟨row, decision, located, decided, issued⟩
    · exact .inl ⟨old, before, time.trans same⟩
    · exact .inr ⟨row, decision, spends.final id row decision located decided, decided, time.trans issued⟩
  · exact .inr decided

theorem Issued.follow (issued : Issued db) (times : KeepsTimes db after) (spends : Spends db after) : Issued after := by
  intro id later found
  rcases times id later found with ⟨grant, before, time⟩ | decided
  · obtain ⟨row, decision, located, decided, issued⟩ := issued id grant before
    exact ⟨row, decision, spends.final id row decision located decided, decided, time.trans issued⟩
  · exact decided

variable [Sha256] [SerdeJson]

theorem MayCancel.keepsTimes {now : Nat} {requestId : ApprovalRequestId} {reason : String}
    (cancels : MayCancel db now requestId reason after) : KeepsTimes db after := by
  rcases cancels with ⟨rfl, _⟩ | ⟨_, _, _, _, _, _, cancels⟩
  · exact .of_same rfl
  · obtain ⟨_, _, ⟨_, _, _, rfl⟩ | ⟨_, rfl⟩, rfl⟩ := cancels.left
    · exact .of_update GrantRow.revoke_requestId (fun _ => rfl) rfl
    · exact .of_same rfl

theorem CancelsSome.keepsTimes {now : Nat} (cancels : CancelsSome now db after) : KeepsTimes db after := by
  induction cancels with
  | refl => exact .of_same rfl
  | tail _ last ih =>
    obtain ⟨_, _, cancels⟩ := last
    exact ih.trans cancels.keepsTimes cancels.spends

theorem onDecision_keepsTimes {now : Nat} {request : ApprovalRequest} {kind : ApprovalDecisionKind}
    (informed : onDecision db now request kind = .ok after) : KeepsTimes db after := by
  rcases onDecision_ok informed with ⟨_, rfl⟩ | ⟨_, _, _, _, _, _, _, _, _, _, _, rfl⟩ | ⟨_, cancels⟩
  · exact .of_same rfl
  · exact .of_same rfl
  · exact cancels.keepsTimes

omit [Sha256] [SerdeJson] in
theorem SpendsGrant.keepsTimes {id : ApprovalRequestId} {change : GrantRow → GrantRow}
    {kept : ∀ row, (change row).requestId = row.requestId} {grants : Table GrantRow.requestId}
    (spent : SpendsGrant db id change kept grants) (times : ∀ row, (change row).issuedAtMs = row.issuedAtMs)
    (same : after.grants = grants) : KeepsTimes db after := by
  obtain ⟨_, _, _, _, rfl⟩ := spent
  exact .of_update kept times same

theorem Deciding.keepsTimes {now : Nat} {command : DecideApprovalCommand} (deciding : Deciding db now command)
    (issued : List String) : KeepsTimes db (deciding.database issued) := by
  have same : command.decision.requestId = deciding.row.request.id :=
    deciding.addressed.symm.trans (deciding_requestId deciding.verified)
  rcases deciding.granted with ⟨_, _, inserted⟩ | ⟨_, grants⟩
  · intro id later found
    simp only [Deciding.database, Table.find?_insert inserted] at found
    split at found
    · rename_i issued
      obtain rfl := Option.some.inj found
      refine .inr ⟨deciding.row.decided deciding.decision (timestamp now), deciding.decision, ?_, rfl, rfl⟩
      simp only [Deciding.database, issued, ← same, Table.find?_update_self, deciding.found, Option.map_some]
    · exact .inl ⟨later, found, rfl⟩
  · exact .of_same grants

/-- Every change keeps the times of issue. -/
theorem Change.keepsTimes {action : Action} (change : Change db action after) : KeepsTimes db after := by
  cases change with
  | quiet | shifted | replacedCatalog | replacedM3 | prepared | accepted | reported | createdGraph | restartedGraph
  | finished | requested | abandoned => exact .of_same rfl
  | storedM3 stored =>
    obtain ⟨_, _, _, rfl⟩ := stored
    exact .of_same rfl
  | worked stored =>
    obtain ⟨_, _, _, _, _, rfl⟩ := stored
    exact .of_same rfl
  | begun events begun serving attended current left => exact .of_same (Beginning.stages left).grants
  | decided issued events deciding informed =>
    have times := (deciding.keepsTimes issued).trans (onDecision_keepsTimes informed) (onDecision_spends informed)
    exact times
  | cancelled events some =>
    have times := some.keepsTimes
    exact times
  | consumed events unstaged spent => exact spent.keepsTimes (fun _ => rfl) rfl
  | @revoked _ _ _ _ grants _ events spent cancels =>
    have first : KeepsTimes db { db with grants } := spent.keepsTimes (fun _ => rfl) rfl
    have times := first.trans cancels.keepsTimes cancels.spends
    exact times
  | claimed events claiming => exact claiming.spent.keepsTimes (fun _ => rfl) rfl
  | recovered events middle proved catalogValid recoverable revised expired =>
    refine KeepsTimes.trans (.of_same ?_) expired.keepsTimes expired.spends
    rfl

end Grants

section Accounts

variable {db after : Database}

/-- A run that waits for its approval has a launch. -/
def Accounted (db : Database) : Prop :=
  ∀ id run, db.identity.content.run? id = some run → run.state = .awaitingApproval → run.startedAt = none →
    id ∈ db.staged.rows.map (·.runId)

/-- No launch is lost, and a new run waits for its approval with a launch only. -/
structure KeepsAccount (db after : Database) : Prop where
  launches : db.staged.rows.map (·.runId) ⊆ after.staged.rows.map (·.runId)
  fresh : ∀ id run, db.identity.content.run? id = none → after.identity.content.run? id = some run →
    run.state = .awaitingApproval → id ∈ after.staged.rows.map (·.runId)

theorem Accounted.follow (accounted : Accounted db) (kept : KeepsAccount db after)
    (evolves : db.identity.content.Evolves after.identity.content) : Accounted after := by
  intro id later found awaiting unstarted
  cases before : db.identity.content.run? id with
  | none => exact kept.fresh id later before found awaiting
  | some run =>
    obtain ⟨other, reached, advances⟩ := evolves.kept id run before
    obtain rfl := Option.some.inj (found.symm.trans reached)
    rcases advances.moved with rfl | moved
    · exact kept.launches (accounted id _ before awaiting unstarted)
    · exact absurd awaiting moved.dispatched

theorem KeepsAccount.of_runs (launches : after.staged.rows.map (·.runId) = db.staged.rows.map (·.runId))
    (known : ∀ id, db.identity.content.run? id = none → after.identity.content.run? id = none) :
    KeepsAccount db after where
  launches := launches ▸ List.Subset.refl _
  fresh id run unknown found := by
    rw [known id unknown] at found
    cases found

theorem KeepsAccount.of_identity (staged : after.staged = db.staged) (identity : after.identity = db.identity) :
    KeepsAccount db after :=
  .of_runs (by rw [staged]) fun _ unknown => identity ▸ unknown

theorem unknown_updateRun {catalog : IdentityCatalog} {runId id : RunId} {change : Run → Run}
    (kept : ∀ run, (change run).metadata.id = run.metadata.id) (unknown : catalog.run? id = none) :
    (catalog.updateRun runId change).run? id = none := by
  rw [IdentityCatalog.run?_updateRun kept, unknown]
  split <;> rfl

variable [Sha256] [SerdeJson]

theorem MayCancel.unknown {now : Nat} {requestId : ApprovalRequestId} {reason : String} {id : RunId}
    (cancels : MayCancel db now requestId reason after) (unknown : db.identity.content.run? id = none) :
    after.identity.content.run? id = none := by
  rcases cancels with ⟨rfl, _⟩ | ⟨_, _, _, _, _, _, cancels⟩
  · exact unknown
  · obtain ⟨_, _, _, rfl⟩ := cancels.left
    exact unknown_updateRun (fun _ => rfl) unknown

theorem CancelsSome.unknown {now : Nat} {id : RunId} (cancels : CancelsSome now db after)
    (unknown : db.identity.content.run? id = none) : after.identity.content.run? id = none := by
  induction cancels with
  | refl => exact unknown
  | tail _ last ih =>
    obtain ⟨_, _, cancels⟩ := last
    exact cancels.unknown ih

theorem onDecision_unknown {now : Nat} {request : ApprovalRequest} {kind : ApprovalDecisionKind} {id : RunId}
    (informed : onDecision db now request kind = .ok after) (unknown : db.identity.content.run? id = none) :
    after.identity.content.run? id = none := by
  rcases onDecision_ok informed with ⟨_, rfl⟩ | ⟨_, _, _, _, _, _, _, _, _, _, _, rfl⟩ | ⟨_, cancels⟩
  · exact unknown
  · exact unknown
  · exact cancels.unknown unknown

omit [Sha256] [SerdeJson] in
theorem Reports.unknown {updatedAt : String} {command : Command} {catalog : IdentityCatalog} {id : RunId}
    (reports : Reports db updatedAt command catalog) (unknown : db.identity.content.run? id = none) :
    catalog.run? id = none := by
  cases reports with
  | @running _ _ marked _ _ current found active mark named =>
    have moved : marked.run? id = none := by
      rw [markRunning_ok mark]
      split
      · exact unknown_updateRun (fun _ => rfl) unknown
      · exact unknown
    rcases nameSession_ok named with rfl | ⟨_, rfl⟩
    · exact moved
    · exact moved
  | cancelling => exact unknown_updateRun (fun _ => rfl) unknown

/-- A run that begins to wait for its approval has a launch. -/
theorem Beginning.keepsAccount {now : Nat} {ids : RunIds} {id : GraphRunId} {command : BeginGraphNodeRunCommand}
    (begun : Beginning db now ids id command)
    (left : if begun.staged then stage begun.database now ids.requestId begun.plan = .ok after
      else after = begun.database) : KeepsAccount db after := by
  have identity := (Beginning.stages left).identity
  have launches : db.staged.rows.map (·.runId) ⊆ after.staged.rows.map (·.runId) ∧
      (begun.staged = true → ids.runId ∈ after.staged.rows.map (·.runId)) := by
    split at left
    · obtain ⟨staging, _, rfl⟩ := stage_ok left
      have rows := Table.rows_insert staging.launched
      simp only [Staging.database, rows, List.map_append]
      exact ⟨List.subset_append_left _ _, fun _ => List.mem_append_right _ (List.mem_singleton.mpr rfl)⟩
    · rename_i unstaged
      subst left
      exact ⟨List.Subset.refl _, fun staged => absurd staged unstaged⟩
  refine ⟨launches.1, fun id run unknown found awaiting => ?_⟩
  simp only [identity, Beginning.database, withAttempt, IdentityCatalog.run?, List.find?_append] at unknown found
  rw [unknown, Option.none_or] at found
  obtain ⟨member, rfl⟩ := Lookup.find_some found
  obtain rfl := List.mem_singleton.mp member
  apply launches.2
  cases staged : begun.staged with
  | true => rfl
  | false =>
    rw [staged] at awaiting
    cases awaiting

/-- Every change accounts for the runs that wait for their approval. -/
theorem Change.keepsAccount {action : Action} (change : Change db action after) : KeepsAccount db after := by
  cases change with
  | quiet | shifted | replacedM3 | accepted | createdGraph | restartedGraph | requested | consumed =>
    exact .of_identity rfl rfl
  | replacedCatalog events valid kept idle =>
    refine ⟨List.Subset.refl _, fun id run unknown found awaiting => ?_⟩
    obtain ⟨member, rfl⟩ := Lookup.find_some found
    have introduced := idle run member
    simp only [introducesIdle, reject_ok, Bool.and_eq_false_iff, Bool.or_eq_false_iff, decide_eq_false_iff_not,
      not_not, ne_eq, Bool.not_eq_false', List.any_eq_true, decide_eq_true_eq] at introduced
    rcases introduced with ⟨old, inside, same⟩ | ⟨starting, _⟩
    · exact absurd same (Lookup.find_none.mp unknown old inside)
    · rw [starting] at awaiting
      cases awaiting
  | prepared events made =>
    refine .of_runs rfl fun id _ => ?_
    simp only [MvpDraft.prepare, bind_ok, exists_unit, pure_ok] at made
    obtain ⟨_, _, rfl⟩ := made
    rfl
  | storedM3 stored =>
    obtain ⟨_, _, _, rfl⟩ := stored
    exact .of_identity rfl rfl
  | reported events valid reports => exact .of_runs rfl fun id unknown => reports.unknown unknown
  | worked stored =>
    obtain ⟨_, _, _, _, _, rfl⟩ := stored
    exact .of_identity rfl rfl
  | begun events begun serving attended current left =>
    have kept := begun.keepsAccount left
    exact ⟨kept.launches, kept.fresh⟩
  | finished events trusted finishing =>
    refine .of_runs rfl fun id unknown => ?_
    have made := finishing.catalogMade
    simp only [finishedCatalog, bind_ok] at made
    obtain ⟨_, _, made⟩ := made
    split at made
    · simp only [bind_ok, exists_unit, pure_ok] at made
      obtain ⟨_, _, _, made⟩ := made
      show finishing.finished.identity.run? id = none
      rw [← made]
      exact unknown_updateRun (fun _ => rfl) unknown
    · show finishing.finished.identity.run? id = none
      rw [← pure_ok.mp made]
      exact unknown_updateRun (fun _ => rfl) unknown
  | decided issued events deciding informed =>
    have spares := onDecision_spares informed
    have known := fun id => @onDecision_unknown _ _ _ _ _ _ _ id informed
    exact .of_runs spares.launches known
  | cancelled events some => exact .of_runs some.spares.launches fun id => some.unknown
  | revoked events spent cancels => exact .of_runs cancels.spares.launches fun id => cancels.unknown
  | claimed events claiming =>
    refine .of_runs (Table.keys_update StagedRow.move_runId) fun id => unknown_updateRun fun _ => ?_
    rfl
  | abandoned events abandoning =>
    refine .of_runs (Table.keys_update StagedRow.move_runId) fun id => unknown_updateRun fun _ => ?_
    rfl
  | @recovered now _ revision events middle proved catalogValid recoverable revised expired =>
    have launches : (db.recovered now ⟨bump db.daemon.revision, .recovering⟩ revision middle).staged.rows.map (·.runId) =
        db.staged.rows.map (·.runId) := by
      simp only [Database.recovered, Table.rows_updateAll, List.map_map]
      exact List.map_congr_left fun row _ => abandonDispatch_runId row
    refine .of_runs (expired.spares.launches.trans launches) fun id unknown => expired.unknown ?_
    simp only [Database.recovered, recovered_run?, unknown, Option.map_none]

end Accounts

section Reached

variable [Sha256] [SerdeJson]

variable {db after : Database} {row : StagedRow}

/-- The launch of a waiting context is the row of its run. -/
theorem Waiting.launch_eq {run : Run} (waiting : Waiting db run) (member : row ∈ db.staged.rows)
    (same : row.runId = run.metadata.id) : waiting.launch = row :=
  Option.some.inj (waiting.launchFound.symm.trans (same ▸ Table.find?_mem member))

/-- The launches of a store have the context they were staged with, and the runs that wait have a launch. -/
structure StagedSound (db : Database) : Prop where
  graphs : SoundGraphs db
  launches : LaunchesSound db
  contexts : ∀ row ∈ db.staged.rows, row.state.isWaiting = true →
    ∃ run, db.identity.content.run? row.runId = some run ∧ Nonempty (Waiting db run)
  timed : ∀ row ∈ db.staged.rows, row.stagedAtMs < sqlLimit
  issued : Issued db
  accounted : Accounted db

/-- Every change keeps the contexts of the launches. -/
theorem StagedSound.follow {action : Action} (sound : StagedSound db) (change : Change db action after)
    (authorised : ∀ id grant, db.grants.find? id = some grant → Authorised db id) : StagedSound after where
  graphs := (change.graphsFollow sound.graphs).sound sound.graphs
  launches := change.launchesSound sound.graphs authorised sound.launches
  contexts row member waits := by
    rcases change.launches row member with ⟨old, inside, continues⟩ | ⟨_, launched⟩
    · obtain ⟨run, found, ⟨waiting⟩⟩ := sound.contexts old inside (continues.waits waits).1
      have named : old.runId = run.metadata.id := (Lookup.find_some found).2.symm
      have launches := change.launchesSound sound.graphs authorised sound.launches
      rw [← waiting.launch_eq inside named] at continues
      obtain ⟨later⟩ := waiting.follow change sound.graphs launches member waits continues
      have same : row.runId = run.metadata.id := continues.runId.trans (Table.find?_key waiting.launchFound)
      exact ⟨run, same ▸ later.runFound, ⟨later⟩⟩
    · exact launched
  timed row member := by
    rcases change.launches row member with ⟨old, inside, continues⟩ | ⟨bounded, _⟩
    · rw [continues.stagedAtMs]
      exact sound.timed old inside
    · exact bounded
  issued := sound.issued.follow change.keepsTimes change.spends
  accounted := sound.accounted.follow change.keepsAccount change.evolves

/-- A process whose grants are authorised and whose launches have their context. -/
structure ContextsSound (process : DaemonProcess) : Prop where
  grants : GrantsSound process
  staged : StagedSound process.db

omit [SerdeJson] in
theorem StagedSound.fresh [SerdeJson] : StagedSound Database.fresh where
  graphs := .fresh
  launches := (LedgersSound.fresh).launches
  contexts row member := by cases member
  timed row member := by cases member
  issued id grant found := by cases found
  accounted id run found := by cases found

theorem ContextsSound.next (process : DaemonProcess) (action : Action) (sound : ContextsSound process) :
    ContextsSound (process.next action) where
  grants := sound.grants.next process action
  staged := by
    rcases process.next_change action with same | change
    · rw [same]
      exact sound.staged
    · exact sound.staged.follow change fun id grant found => (sound.grants.authorised id grant found).2

theorem ContextsSound.fresh : ContextsSound .fresh := ⟨.fresh, .fresh⟩

theorem ContextsSound.run {process : DaemonProcess} (sound : ContextsSound process) (actions : List Action) :
    ContextsSound (process.run actions) :=
  Machine.run_preserves ContextsSound.next sound actions

variable {run : Run}

/-- What was decided about a launch that waits is what its state says. -/
theorem Waiting.decided (waiting : Waiting db run) (coherent : Coherent db waiting.launch) (issued : Issued db) :
    validateDecisionAndGrantState db waiting.approval.request waiting.launch.state waiting.approval.decision = .ok () := by
  have asked := waiting.approvalId
  have waits := waiting.launchWaits
  cases coherent with
  | awaiting state held answered =>
    obtain ⟨⟨approval, found, _, decided, _⟩, ungranted, _⟩ := answered
    obtain rfl := Option.some.inj (waiting.approvalFound.symm.trans found)
    unfold validateDecisionAndGrantState
    rw [state, decided, asked, ungranted]
  | @ready _ _ _ decision grant state held answered =>
    obtain ⟨⟨approval, found, _, decided, verified⟩, granted, unspent⟩ := answered
    obtain ⟨checked, approves⟩ := verified decision rfl
    have spendable := unspent grant rfl
    obtain ⟨row, other, located, again, time⟩ := issued _ grant granted
    obtain rfl := Option.some.inj (waiting.approvalFound.symm.trans found)
    obtain rfl := Option.some.inj (located.symm.trans found)
    obtain rfl := Option.some.inj (again.symm.trans decided)
    unfold validateDecisionAndGrantState
    rw [state, decided, asked, granted]
    simp only [bind_ok, exists_unit, reject_ok, lift_ok, spendable, checked, approves, time]
    simp
  | cancelled state =>
    rw [state] at waits
    cases waits
  | claimed state => rcases state with state | state <;> rw [state] at waits <;> cases waits

/-- A launch that waits passes the checks that recovery makes of its run. -/
theorem StagedSound.proved (sound : StagedSound db) (member : row ∈ db.staged.rows) (waits : row.state.isWaiting = true) :
    ∃ run, db.identity.content.run? row.runId = some run ∧ validateStagedRun db run = .ok () := by
  obtain ⟨run, found, ⟨waiting⟩⟩ := sound.contexts row member waits
  have launched := waiting.launch_eq member (Lookup.find_some found).2.symm
  have coherent := sound.launches.coherent row member
  rw [← launched] at coherent
  exact ⟨run, found, validateStagedContext_ok.mpr ⟨waiting, by simp, fun _ => waiting.decided coherent sound.issued⟩⟩

/-- So does a run that waits for its approval. -/
theorem StagedSound.recoverable (sound : StagedSound db) {id : RunId} (found : db.identity.content.run? id = some run)
    (awaiting : run.state = .awaitingApproval) (unstarted : run.startedAt = none) :
    validateStagedRun db run = .ok () := by
  obtain ⟨row, member, rfl⟩ := List.mem_map.mp (sound.accounted id run found awaiting unstarted)
  have waits : row.state.isWaiting = true := by
    cases sound.launches.coherent row member with
    | awaiting state | ready state =>
      rw [state]
      rfl
    | cancelled state located ended =>
      obtain rfl := Option.some.inj (located.symm.trans found)
      rw [awaiting] at ended
      cases ended
    | claimed state located started =>
      obtain rfl := Option.some.inj (located.symm.trans found)
      rw [unstarted] at started
      cases started
  obtain ⟨other, again, proved⟩ := sound.proved member waits
  obtain rfl := Option.some.inj (again.symm.trans found)
  exact proved

/-- In every state that is reached, the checks that recovery makes of undispatched runs succeed: for each launch that
waits, and for each run of the catalog that waits for its approval. -/
theorem staged_runs_recoverable (actions : List Action) :
    let db := (DaemonProcess.fresh.run actions).db
    (∀ row ∈ db.staged.rows, row.state.isWaiting = true →
      ∃ run, db.identity.content.run? row.runId = some run ∧ validateStagedRun db run = .ok ()) ∧
    ∀ run ∈ db.identity.content.runs, run.state = .awaitingApproval → run.startedAt = none →
      validateStagedRun db run = .ok () := by
  intro db
  have sound : StagedSound db := (ContextsSound.fresh.run actions).staged
  have valid := (SoundRuns.fresh.run actions).valid
  refine ⟨fun row => sound.proved, fun run member => ?_⟩
  exact sound.recoverable (Lookup.find_of_mem (IdentityCatalog.validate_runs_distinct valid) member)

end Reached

end Bastet.Daemon
