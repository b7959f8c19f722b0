import Bastet.Daemon.RunLifecycle
import Bastet.Daemon.SingleUse

/-! Decisions on approval requests: each is recorded once and for all, and within the validity interval of its
request. A request that binds a credential is decided at the time of the store, any other at the time its
client names. -/

set_option autoImplicit false

namespace Bastet.Daemon

open Fallible Bastet.Core

/-- The decision recorded for a request. -/
def decisionFor (db : Database) (id : ApprovalRequestId) : Option ApprovalDecision :=
  (db.approvals.find? id).bind (·.decision)

theorem decisionFor_some {db : Database} {id : ApprovalRequestId} {decision : ApprovalDecision} :
    decisionFor db id = some decision ↔ ∃ row, db.approvals.find? id = some row ∧ row.decision = some decision :=
  Option.bind_eq_some_iff

theorem decisionFor_congr {db after : Database} (same : after.approvals = db.approvals) (id : ApprovalRequestId) :
    decisionFor after id = decisionFor db id := by
  rw [decisionFor, decisionFor, same]

/-- The decision on a request that binds a credential is taken over with the time of the store; its time lies
in the validity interval of the request. -/
structure Timely (now : Nat) (request : ApprovalRequest) (submitted decision : ApprovalDecision) : Prop where
  bound : request.action.scope.credentialBinding.isSome = true → decision = { submitted with decidedAtMs := now }
  unbound : request.action.scope.credentialBinding = none → decision = submitted
  created : request.createdAtMs ≤ decision.decidedAtMs
  unexpired : decision.decidedAtMs < request.expiresAtMs

theorem Timely.inWindow {now : Nat} {request : ApprovalRequest} {submitted decision : ApprovalDecision}
    (timely : Timely now request submitted decision)
    (bound : request.action.scope.credentialBinding.isSome = true) :
    request.createdAtMs ≤ now ∧ now < request.expiresAtMs := by
  have created := timely.created
  have unexpired := timely.unexpired
  rw [timely.bound bound] at created unexpired
  exact ⟨created, unexpired⟩

variable [Sha256] [SerdeJson] {db after : Database} {id : ApprovalRequestId}

theorem Deciding.timely {now : Nat} {command : DecideApprovalCommand} (deciding : Deciding db now command) :
    Timely now deciding.row.request command.decision deciding.decision := by
  have taken := deciding.taken
  have verified := deciding.verified
  simp only [ApprovalRequest.verifyDecision, bind_ok, exists_unit, rejectIf_ok, decide_eq_false_iff_not,
    Nat.not_lt, Nat.not_le] at verified
  obtain ⟨_, _, created, unexpired⟩ := verified
  unfold takeDecision at taken
  split at taken
  · rename_i bound
    have dated : deciding.decision = { command.decision with decidedAtMs := now } := by
      simp only [bind_ok, exists_unit] at taken
      obtain ⟨_, _, _, taken⟩ := taken
      split at taken <;>
      · simp only [bind_ok, exists_unit, pure_ok] at taken
        exact taken.2.symm
    refine ⟨fun _ => dated, fun none => ?_, created, unexpired⟩
    rw [none] at bound
    cases bound
  · rename_i unbound
    exact ⟨fun bound => absurd bound unbound, fun _ => (pure_ok.mp taken).symm, created, unexpired⟩

omit [Sha256] [SerdeJson] in
/-- A new request is undecided. -/
theorem decisionFor_insert {fresh : ApprovalRow} {approvals : Table ApprovalRow.requestId}
    (inserted : db.approvals.insert fresh = some approvals) (undecided : fresh.decision = none)
    (left : after.approvals = approvals) (id : ApprovalRequestId) : decisionFor after id = decisionFor db id := by
  rw [decisionFor, left, Table.find?_insert inserted]
  split
  · rename_i same
    subst same
    rw [Option.bind_some, undecided, decisionFor, Table.insert_fresh inserted]
    rfl
  · rfl

/-- A change that records a decision is the command that submitted it, in time. -/
theorem Change.records {action : Action} (change : Change db action after) {decision : ApprovalDecision}
    (undecided : decisionFor db id = none) (recorded : decisionFor after id = some decision) :
    ∃ now command row, action = .command (.decideApproval now command) ∧ command.decision.requestId = id ∧
      db.approvals.find? id = some row ∧ Timely now row.request command.decision decision := by
  have kept : ∀ {later : Database}, later.approvals = db.approvals → decisionFor later id ≠ some decision := by
    intro later same impossible
    rw [decisionFor_congr same, undecided] at impossible
    cases impossible
  cases change with
  | quiet | shifted | replacedCatalog | replacedM3 | prepared | accepted | reported | createdGraph | restartedGraph
  | finished | abandoned | consumed | claimed => exact absurd recorded (kept rfl)
  | storedM3 stored =>
    obtain ⟨_, _, _, rfl⟩ := stored
    exact absurd recorded (kept rfl)
  | worked stored =>
    obtain ⟨_, _, _, _, _, rfl⟩ := stored
    exact absurd recorded (kept rfl)
  | begun events begun serving attended current left =>
    split at left
    · obtain ⟨staging, _, rfl⟩ := stage_ok left
      rw [decisionFor_insert staging.requested rfl rfl] at recorded
      exact absurd recorded (kept rfl)
    · subst left
      exact absurd recorded (kept rfl)
  | requested events inserted =>
    rw [decisionFor_insert inserted rfl rfl, undecided] at recorded
    cases recorded
  | @decided now command middle issued events deciding informed =>
    have informs : decisionFor { middle with events } id = decisionFor (deciding.database issued) id :=
      decisionFor_congr (onDecision_spares informed).approvals id
    rw [informs] at recorded
    by_cases asked : id = command.decision.requestId
    · subst asked
      refine ⟨now, command, deciding.row, rfl, rfl, deciding.found, ?_⟩
      simp only [decisionFor, Deciding.database, Table.find?_update_self, deciding.found, Option.map_some,
        Option.bind_some, ApprovalRow.decided, Option.some.injEq] at recorded
      exact recorded ▸ deciding.timely
    · simp only [decisionFor, Deciding.database, Table.find?_update_of_ne asked] at recorded undecided
      rw [undecided] at recorded
      cases recorded
  | cancelled events some => exact absurd recorded (kept some.spares.approvals)
  | revoked events spent cancels => exact absurd recorded (kept cancels.spares.approvals)
  | recovered events middle proved catalogValid recoverable revised expired =>
    exact absurd recorded (kept expired.spares.approvals)

theorem DaemonProcess.run_decided (process : DaemonProcess) (actions : List Action) {decision : ApprovalDecision}
    (decided : decisionFor process.db id = some decision) : decisionFor (process.run actions).db id = some decision := by
  obtain ⟨row, found, recorded⟩ := decisionFor_some.mp decided
  exact decisionFor_some.mpr ⟨row, (run_spends process actions).final id row decision found recorded, recorded⟩

/-- In every run from any state: a recorded decision stays, so no two are ever recorded for a request, and one
is recorded only by the command that submits it, in the validity interval of the request. -/
theorem approval_decisions_final (process : DaemonProcess) (actions : List Action) (id : ApprovalRequestId) :
    (∀ decision, decisionFor process.db id = some decision →
      decisionFor (process.run actions).db id = some decision) ∧
    (∀ first second one other, first <+: actions → second <+: actions →
      decisionFor (process.run first).db id = some one → decisionFor (process.run second).db id = some other →
      one = other) ∧
    (∀ action decision, decisionFor (process.run actions).db id = none →
      decisionFor ((process.run actions).next action).db id = some decision →
      ∃ now command row, action = .command (.decideApproval now command) ∧ command.decision.requestId = id ∧
        (process.run actions).db.approvals.find? id = some row ∧ Timely now row.request command.decision decision ∧
        (row.request.action.scope.credentialBinding.isSome = true →
          row.request.createdAtMs ≤ now ∧ now < row.request.expiresAtMs)) := by
  have final : ∀ {first second : List Action} {one other : ApprovalDecision}, first <+: second →
      decisionFor (process.run first).db id = some one → decisionFor (process.run second).db id = some other →
      one = other := by
    rintro first _ one other ⟨more, rfl⟩ decided again
    rw [DaemonProcess.run, Machine.run_append] at again
    exact Option.some.inj ((DaemonProcess.run_decided _ more decided).symm.trans again)
  refine ⟨fun decision => process.run_decided actions, fun first second one other begins starts decided again => ?_,
    fun action decision undecided recorded => ?_⟩
  · rcases List.prefix_or_prefix_of_prefix begins starts with shorter | longer
    · exact final shorter decided again
    · exact (final longer again decided).symm
  · rcases (process.run actions).next_change action with same | change
    · rw [same, undecided] at recorded
      cases recorded
    · obtain ⟨now, command, row, rfl, asked, found, timely⟩ := change.records undecided recorded
      exact ⟨now, command, row, rfl, asked, found, timely, timely.inWindow⟩

/-- A request of the first project to write files, without a credential binding. -/
def writeAction : ApprovalAction :=
  ⟨nth 13, none, "filesystem.write", "reason.report", "consequence.files_change", .low,
    ⟨nth 1, none, ["/workspace"], [], [], [], none, none⟩, policy .singleRun .use⟩

omit [Sha256] [SerdeJson] in
/-- It is approved long after it expired, with a time of the client that lies before that. -/
theorem approval_backdated :
    let hash := "b4c4f749246f8524ff3eb1ad04879894b65a8237fd4f621320869ff45cd983dd"
    let digests := Sha256.table [(Json.compact (hashInput (nth 70) 100 200 writeAction), hash)]
    let request : ApprovalRequest := ⟨nth 70, hash, 100, 200, writeAction⟩
    let process := @DaemonProcess.run digests SerdeJson.compact .fresh
      (firstRun.take 1 ++ [.command (.createApproval 100 request)])
    let later := @DaemonProcess.next digests SerdeJson.compact process
      (.command (.decideApproval 5000 ⟨⟨nth 70, hash, .approve, 150, "owner"⟩, false⟩))
    decisionFor process.db (nth 70) = none ∧
      decisionFor later.db (nth 70) = some ⟨nth 70, hash, .approve, 150, "owner"⟩ ∧
      ¬(request.createdAtMs ≤ 5000 ∧ 5000 < request.expiresAtMs) := by
  decide +kernel

end Bastet.Daemon
