import Bastet.Daemon.Changes

/-! Grants are single-use: only an approval of a request that binds a credential leaves one,
it is spent once and for all, and a credential is looked up once for a spent grant. -/

set_option autoImplicit false

namespace Bastet.Daemon

open Fallible Bastet.Core Lookup

section Ledger

/-- The grant was not both consumed and revoked. -/
def GrantRow.exclusive (row : GrantRow) : Prop :=
  row.consumedAtMs = none ∨ row.revokedAtMs = none

theorem GrantRow.unspent_iff {row : GrantRow} :
    row.unspent = true ↔ row.consumedAtMs = none ∧ row.revokedAtMs = none := by
  simp [unspent]

theorem GrantRow.valid_exclusive {row : GrantRow} (valid : row.valid = true) : row.exclusive := by
  simp only [GrantRow.valid, Bool.and_eq_true, Bool.or_eq_true, Option.isNone_iff_eq_none] at valid
  exact valid.1.2

/-- The request was approved, and binds a credential. -/
def Authorised (db : Database) (id : ApprovalRequestId) : Prop :=
  ∃ row decision, db.approvals.find? id = some row ∧ row.request.id = id ∧ row.decision = some decision ∧
    decision.kind = .approve ∧ row.request.action.scope.credentialBinding.isSome = true

/-- What happens to the ledger of grants: a spent grant stays as it is, a new one is unspent and
authorised, and a decision is final. -/
structure Spends (db after : Database) : Prop where
  kept : ∀ id grant, db.grants.find? id = some grant → ∃ later, after.grants.find? id = some later ∧
    (later = grant ∨ grant.unspent = true ∧ later.exclusive)
  issued : ∀ id later, db.grants.find? id = none → after.grants.find? id = some later →
    later.exclusive ∧ Authorised after id
  final : ∀ id row decision, db.approvals.find? id = some row → row.decision = some decision →
    after.approvals.find? id = some row

namespace Spends

variable {db after last : Database}

theorem of_grants (grants : after.grants = db.grants)
    (final : ∀ id row decision, db.approvals.find? id = some row → row.decision = some decision →
      after.approvals.find? id = some row) : Spends db after where
  kept id grant found := ⟨grant, by rw [grants, found], .inl rfl⟩
  issued id later absent found := by
    rw [grants, absent] at found
    cases found
  final := final

theorem of_same (grants : after.grants = db.grants) (approvals : after.approvals = db.approvals) : Spends db after :=
  of_grants grants fun _ _ _ found _ => approvals ▸ found

theorem authorised (spends : Spends db after) {id : ApprovalRequestId} (before : Authorised db id) :
    Authorised after id := by
  obtain ⟨row, decision, found, same, decided, approves, bound⟩ := before
  exact ⟨row, decision, spends.final id row decision found decided, same, decided, approves, bound⟩

theorem trans (first : Spends db after) (second : Spends after last) : Spends db last where
  kept id grant found := by
    obtain ⟨middle, reached, moved⟩ := first.kept id grant found
    obtain ⟨later, ended, again⟩ := second.kept id middle reached
    refine ⟨later, ended, ?_⟩
    rcases moved with rfl | ⟨unspent, exclusive⟩
    · exact again
    · rcases again with rfl | ⟨_, settled⟩
      · exact .inr ⟨unspent, exclusive⟩
      · exact .inr ⟨unspent, settled⟩
  issued id later absent found := by
    cases middle : after.grants.find? id with
    | none => exact second.issued id later middle found
    | some grant =>
      obtain ⟨exclusive, approved⟩ := first.issued id grant absent middle
      obtain ⟨other, again, moved⟩ := second.kept id grant middle
      obtain rfl := Option.some.inj (again.symm.trans found)
      refine ⟨?_, second.authorised approved⟩
      rcases moved with rfl | ⟨_, settled⟩
      · exact exclusive
      · exact settled
  final id row decision found decided :=
    second.final id row decision (first.final id row decision found decided) decided

/-- An unspent grant takes a change. -/
theorem of_update {id : ApprovalRequestId} {grant : GrantRow} {change : GrantRow → GrantRow}
    (kept : ∀ row, (change row).requestId = row.requestId) (found : db.grants.find? id = some grant)
    (unspent : grant.unspent = true) (exclusive : (change grant).exclusive)
    (grants : after.grants = db.grants.update id change kept) (approvals : after.approvals = db.approvals) :
    Spends db after where
  kept other row located := by
    rw [grants, Table.find?_update]
    by_cases same : other = id
    · subst same
      obtain rfl := Option.some.inj (found.symm.trans located)
      exact ⟨change grant, by rw [if_pos rfl, found]; rfl, .inr ⟨unspent, exclusive⟩⟩
    · exact ⟨row, by rw [if_neg same, located], .inl rfl⟩
  issued other later absent found := by
    rw [grants, Table.find?_update, absent] at found
    split at found <;> cases found
  final _ _ _ found _ := approvals ▸ found

theorem of_spendsGrant {id : ApprovalRequestId} {change : GrantRow → GrantRow}
    {kept : ∀ row, (change row).requestId = row.requestId} {grants : Table GrantRow.requestId}
    (spent : SpendsGrant db id change kept grants) (same : after.grants = grants)
    (approvals : after.approvals = db.approvals) : Spends db after := by
  obtain ⟨grant, found, unspent, valid, rfl⟩ := spent
  exact of_update kept found unspent (GrantRow.valid_exclusive valid) same approvals

end Spends

end Ledger

variable [Sha256] [SerdeJson] {db after : Database}

section Changes

theorem Cancels.spends {now : Nat} {row : StagedRow} {reason : String} {run : Run} {plan : ProviderLaunchPlan}
    {graphRow : GraphRow} {execution : GraphExecution}
    (cancels : Cancels db now row reason run plan graphRow execution after) : Spends db after := by
  obtain ⟨grants, events, revoked, rfl⟩ := cancels.left
  rcases revoked with ⟨grant, found, unspent, rfl⟩ | ⟨_, rfl⟩
  · exact .of_update GrantRow.revoke_requestId found unspent (.inl (GrantRow.unspent_iff.mp unspent).1) rfl rfl
  · exact .of_same rfl rfl

theorem MayCancel.spends {now : Nat} {requestId : ApprovalRequestId} {reason : String}
    (cancels : MayCancel db now requestId reason after) : Spends db after := by
  rcases cancels with ⟨rfl, _⟩ | ⟨_, _, _, _, _, _, cancels⟩
  · exact .of_same rfl rfl
  · exact cancels.spends

theorem CancelsSome.spends {now : Nat} (cancels : CancelsSome now db after) : Spends db after := by
  induction cancels with
  | refl => exact .of_same rfl rfl
  | tail _ last ih =>
    obtain ⟨_, _, cancels⟩ := last
    exact ih.trans cancels.spends

omit [Sha256] [SerdeJson] in
/-- A new request changes no other. -/
theorem final_insert {approvals : Table ApprovalRow.requestId} {fresh : ApprovalRow}
    (inserted : db.approvals.insert fresh = some approvals) (id : ApprovalRequestId) (row : ApprovalRow)
    (decision : ApprovalDecision) (found : db.approvals.find? id = some row) (_ : row.decision = some decision) :
    approvals.find? id = some row :=
  Table.find?_insert_of_some inserted found

omit [Sha256] [SerdeJson] in
theorem deciding_requestId {request : ApprovalRequest} {decision : ApprovalDecision}
    (verified : request.verifyDecision decision = .ok ()) : decision.requestId = request.id := by
  simp only [ApprovalRequest.verifyDecision, bind_ok, exists_unit, rejectIf_ok, Bool.or_eq_false_iff,
    decide_eq_false_iff_not, not_not, ne_eq] at verified
  exact verified.2.1.1

/-- A decision is recorded once; an approval of a request that binds a credential leaves its grant. -/
theorem Deciding.spends {now : Nat} {command : DecideApprovalCommand} (deciding : Deciding db now command)
    (events : List String) : Spends db (deciding.database events) := by
  have same : command.decision.requestId = deciding.row.request.id :=
    deciding.addressed.symm.trans (deciding_requestId deciding.verified)
  have decided : (deciding.database events).approvals.find? command.decision.requestId =
      some (deciding.row.decided deciding.decision (timestamp now)) := by
    simp only [Deciding.database, Table.find?_update_self, deciding.found, Option.map_some]
  have final : ∀ id row decision, db.approvals.find? id = some row → row.decision = some decision →
      (deciding.database events).approvals.find? id = some row := by
    intro id row decision found recorded
    have apart : id ≠ command.decision.requestId := by
      rintro rfl
      obtain rfl := Option.some.inj (deciding.found.symm.trans found)
      rw [deciding.undecided] at recorded
      cases recorded
    simp only [Deciding.database, Table.find?_update_of_ne apart, found]
  rcases deciding.granted with ⟨bound, approves, inserted⟩ | ⟨_, grants⟩
  · refine ⟨fun id grant found => ⟨grant, Table.find?_insert_of_some inserted found, .inl rfl⟩,
      fun id later absent found => ?_, final⟩
    rw [show (deciding.database events).grants = deciding.grants from rfl, Table.find?_insert inserted] at found
    by_cases issued : id = deciding.row.request.id
    · rw [if_pos issued] at found
      obtain rfl := Option.some.inj found
      subst issued
      rw [same] at decided
      exact ⟨.inl rfl, _, deciding.decision, decided, rfl, rfl, approves, bound⟩
    · rw [if_neg issued, absent] at found
      cases found
  · exact .of_grants grants final

theorem onDecision_spends {now : Nat} {request : ApprovalRequest} {kind : ApprovalDecisionKind}
    (informed : onDecision db now request kind = .ok after) : Spends db after := by
  rcases onDecision_ok informed with ⟨_, rfl⟩ | ⟨_, _, _, _, _, _, _, _, _, _, _, rfl⟩ | ⟨_, cancels⟩
  · exact .of_same rfl rfl
  · exact .of_same rfl rfl
  · exact cancels.spends

/-- Every change of the database keeps the ledger of grants single-use. -/
theorem Change.spends {action : Action} (change : Change db action after) : Spends db after := by
  cases change with
  | quiet | shifted | replacedCatalog | replacedM3 | prepared | accepted | reported | createdGraph | restartedGraph | finished
  | abandoned => exact .of_same rfl rfl
  | storedM3 stored =>
    obtain ⟨_, _, _, rfl⟩ := stored
    exact .of_same rfl rfl
  | worked stored =>
    obtain ⟨_, _, _, _, _, rfl⟩ := stored
    exact .of_same rfl rfl
  | begun events begun serving attended current left =>
    split at left
    · obtain ⟨staging, _, rfl⟩ := stage_ok left
      exact .of_grants rfl (final_insert staging.requested)
    · subst left
      exact .of_same rfl rfl
  | requested events inserted => exact .of_grants rfl (final_insert inserted)
  | decided issued events deciding informed =>
    have spends := (deciding.spends issued).trans (onDecision_spends informed)
    exact ⟨spends.kept, spends.issued, spends.final⟩
  | cancelled events some =>
    have spends := some.spends
    exact ⟨spends.kept, spends.issued, spends.final⟩
  | consumed events unstaged spent => exact .of_spendsGrant spent rfl rfl
  | @revoked _ _ _ _ grants _ events spent cancels =>
    have first : Spends db { db with grants } := .of_spendsGrant spent rfl rfl
    have spends := first.trans cancels.spends
    exact ⟨spends.kept, spends.issued, spends.final⟩
  | claimed events claiming => exact .of_spendsGrant claiming.spent rfl rfl
  | recovered events middle proved catalogValid recoverable revised expired =>
    refine Spends.trans ?_ expired.spends
    exact .of_same rfl rfl

end Changes

section Runs

/-- The state of a daemon in which every grant is authorised and spent at most once, and every
lookup, made or still to come, is for a consumed grant of its own. -/
structure GrantsSound (process : DaemonProcess) : Prop where
  authorised : ∀ id grant, process.db.grants.find? id = some grant → grant.exclusive ∧ Authorised process.db id
  once : (process.lookups ++ process.opportunities.map (·.1)).Nodup
  consumed : ∀ id ∈ process.lookups ++ process.opportunities.map (·.1),
    ∃ grant, process.db.grants.find? id = some grant ∧ grant.consumedAtMs.isSome = true

omit [Sha256] [SerdeJson] in
theorem GrantsSound.fresh : GrantsSound .fresh where
  authorised _ _ found := nomatch found
  once := List.nodup_nil
  consumed := nofun

omit [Sha256] [SerdeJson] in
/-- A grant that was consumed stays as it is. -/
theorem Spends.consumed (spends : Spends db after) {id : ApprovalRequestId} {grant : GrantRow}
    (found : db.grants.find? id = some grant) (consumed : grant.consumedAtMs.isSome = true) :
    after.grants.find? id = some grant := by
  obtain ⟨later, reached, rfl | ⟨unspent, _⟩⟩ := spends.kept id grant found
  · exact reached
  · rw [(GrantRow.unspent_iff.mp unspent).1] at consumed
    cases consumed

omit [Sha256] [SerdeJson] in
theorem GrantsSound.follow {process next : DaemonProcess} (sound : GrantsSound process)
    (spends : Spends process.db next.db)
    (fewer : (next.lookups ++ next.opportunities.map (·.1)).Subperm
      (process.lookups ++ process.opportunities.map (·.1))) : GrantsSound next where
  authorised id grant found := by
    cases before : process.db.grants.find? id with
    | none => exact spends.issued id grant before found
    | some old =>
      obtain ⟨exclusive, approved⟩ := sound.authorised id old before
      obtain ⟨later, reached, moved⟩ := spends.kept id old before
      obtain rfl := Option.some.inj (reached.symm.trans found)
      refine ⟨?_, spends.authorised approved⟩
      rcases moved with rfl | ⟨_, settled⟩
      · exact exclusive
      · exact settled
  once := by
    obtain ⟨kept, same, inside⟩ := fewer
    exact same.nodup_iff.mp (sound.once.sublist inside)
  consumed id member := by
    obtain ⟨grant, found, spent⟩ := sound.consumed id (fewer.subset member)
    exact ⟨grant, spends.consumed found spent, spent⟩

/-- A claim is for a grant that nobody has consumed, so it is the first one for it. -/
theorem GrantsSound.claim {process : DaemonProcess} (sound : GrantsSound process) {now : Nat}
    {requestId : ApprovalRequestId} (claiming : Claiming process.db now requestId) (events : List String)
    (runId : RunId) : GrantsSound { process with
      db := claiming.database events
      opportunities := process.opportunities ++ [(requestId, runId)] } := by
  have spends : Spends process.db (claiming.database events) := .of_spendsGrant claiming.spent rfl rfl
  have moved := @GrantsSound.follow process { process with db := claiming.database events } sound spends (.refl _)
  obtain ⟨grant, found, unspent, _, grants⟩ := claiming.spent
  have consumed : (claiming.database events).grants.find? requestId = some (grant.consume now) := by
    show claiming.grants.find? requestId = _
    rw [grants, Table.find?_update_self, found]
    rfl
  have fresh : requestId ∉ process.lookups ++ process.opportunities.map (·.1) := by
    intro member
    obtain ⟨other, again, spent⟩ := sound.consumed requestId member
    obtain rfl := Option.some.inj (found.symm.trans again)
    rw [(GrantRow.unspent_iff.mp unspent).1] at spent
    cases spent
  refine ⟨moved.authorised, ?_, ?_⟩
  · simp only [List.map_append, List.map_singleton, ← List.append_assoc]
    refine List.nodup_append.mpr ⟨sound.once, List.nodup_singleton _, fun id member other single => ?_⟩
    rw [List.mem_singleton.mp single]
    rintro rfl
    exact fresh member
  · simp only [List.map_append, List.map_singleton, ← List.append_assoc]
    intro id member
    rcases List.mem_append.mp member with before | single
    · exact moved.consumed id before
    · rw [List.mem_singleton.mp single]
      exact ⟨_, consumed, rfl⟩

theorem GrantsSound.next (process : DaemonProcess) (action : Action) (sound : GrantsSound process) :
    GrantsSound (process.next action) := by
  have spends : Spends process.db (process.next action).db := by
    rcases process.next_change action with same | change
    · exact .of_same (by rw [same]) (by rw [same])
    · exact change.spends
  cases action with
  | command command =>
    refine sound.follow spends ?_
    simp only [DaemonProcess.next]
    rcases process.commit_cases (execute process.db command) _ with ⟨db, _, _, same⟩ | ⟨service, same⟩ <;>
    · rw [same]
  | claim now readable requestId =>
    simp only [DaemonProcess.next] at spends ⊢
    rcases process.commit_cases (claimStagedDispatch process.db now readable requestId) _ with
      ⟨⟨db, claim⟩, _, committed, same⟩ | ⟨service, same⟩
    · rw [same]
      obtain ⟨claiming, events, rfl, _⟩ := claimStagedDispatch_ok committed
      exact sound.claim claiming events claim.receipt.runId
    · rw [same] at spends ⊢
      exact sound.follow spends (.refl _)
  | lookUp requestId succeeds =>
    refine sound.follow spends ?_
    simp only [DaemonProcess.next]
    split
    · exact .refl _
    · rename_i opportunity found
      obtain ⟨member, rfl⟩ := find_some found
      have moved := (List.perm_cons_erase member).map Prod.fst
      simp only [List.map_cons, List.append_assoc, List.singleton_append] at moved ⊢
      exact (moved.symm.append_left process.lookups).subperm
  | failClaim now runId =>
    refine sound.follow spends ?_
    simp only [DaemonProcess.next]
    split
    · rcases process.commit_cases (failDispatchClaim process.db now runId) _ with
        ⟨db, _, _, same⟩ | ⟨service, same⟩ <;>
      · rw [same]
    · exact .refl _
  | restart now =>
    refine sound.follow spends ?_
    simp only [DaemonProcess.next]
    split <;>
    · simp only [List.map_nil, List.append_nil]
      exact (List.sublist_append_left ..).subperm

theorem GrantsSound.run {process : DaemonProcess} (sound : GrantsSound process) (actions : List Action) :
    GrantsSound (process.run actions) :=
  Machine.run_preserves GrantsSound.next sound actions

theorem run_spends (process : DaemonProcess) (actions : List Action) :
    Spends process.db (process.run actions).db := by
  refine Machine.run_relates (fun _ => True) (fun before later : DaemonProcess => Spends before.db later.db)
    (fun _ => .of_same rfl rfl) (fun _ _ _ => .trans) (fun _ _ _ => trivial) (fun before action _ => ?_) trivial actions
  rcases before.next_change action with same | change
  · exact .of_same (by rw [same]) (by rw [same])
  · exact change.spends

/-- In every run: a grant is there only for a request that binds a credential and was approved;
it is never both consumed and revoked, and a consumed one stays as it is, so it is consumed at
most once; the credential of a grant is looked up at most once, after its consumption. -/
theorem credential_grants_single_use (first rest : List Action) :
    let process := DaemonProcess.fresh.run first
    (∀ grant ∈ process.db.grants.rows, Authorised process.db grant.requestId) ∧
    (∀ grant ∈ process.db.grants.rows, ¬(grant.consumedAtMs.isSome = true ∧ grant.revokedAtMs.isSome = true)) ∧
    (∀ grant ∈ process.db.grants.rows, grant.consumedAtMs.isSome = true →
      grant ∈ (process.run rest).db.grants.rows) ∧
    process.lookups.Nodup ∧
    (∀ requestId succeeds, (process.next (.lookUp requestId succeeds)).lookups ≠ process.lookups →
      ∃ grant ∈ process.db.grants.rows, grant.requestId = requestId ∧ grant.consumedAtMs.isSome = true) := by
  intro process
  have sound : GrantsSound process := GrantsSound.fresh.run first
  refine ⟨fun grant member => ?_, fun grant member both => ?_, fun grant member consumed => ?_, ?_,
    fun requestId succeeds looked => ?_⟩
  · exact (sound.authorised _ grant (Table.find?_mem member)).2
  · rcases (sound.authorised _ grant (Table.find?_mem member)).1 with none | none <;> simp [none] at both
  · exact Table.mem_of_find? ((run_spends process rest).consumed (Table.find?_mem member) consumed)
  · exact (List.nodup_append.mp sound.once).1
  · simp only [DaemonProcess.next] at looked
    split at looked
    · exact absurd rfl looked
    · rename_i opportunity found
      obtain ⟨member, rfl⟩ := find_some found
      obtain ⟨grant, located, consumed⟩ := sound.consumed opportunity.1
        (List.mem_append_right _ (List.mem_map_of_mem member))
      exact ⟨grant, Table.mem_of_find? located, Table.find?_key located, consumed⟩

end Runs

end Bastet.Daemon
