import Bastet.Daemon.ExpiryProgress
import Bastet.Daemon.UncertainLaunches

/-! The exact effect of the expiry of launches, over all of them at once. The launches are cancelled one after another
in one transaction, each on the documents the one before it wrote; the order leaves no trace. -/

set_option autoImplicit false

namespace Bastet.Daemon

open Fallible Bastet.Core

section Effect

variable {α : Type}

/-- What happens to a record when its launch falls, at the time the launch finishes. -/
def lapse (now : Nat) (falls : StagedRow → Bool) (launch : Option StagedRow) (change : Nat → α → α) (item : α) : α :=
  match launch with
  | some row => if falls row then change (row.finishTime now) item else item
  | none => item

/-- The revocation of a grant that is not spent. -/
def revokeUnspent (finishedAtMs : Nat) (grant : GrantRow) : GrantRow :=
  if grant.unspent then grant.revoke (fun issued => max issued finishedAtMs) "daemon:staged_launch_cancelled" else grant

theorem revokeUnspent_requestId (finishedAtMs : Nat) (grant : GrantRow) :
    (revokeUnspent finishedAtMs grant).requestId = grant.requestId := by
  unfold revokeUnspent
  split <;> rfl

/-- The node of a launch that falls. -/
def FallenNode (db : Database) (falls : StagedRow → Bool) (executionId : GraphRunId) (nodeId : GraphNodeId) : Prop :=
  ∃ row ∈ db.staged.rows, falls row = true ∧ ∃ stored, db.plans.find? row.runId = some stored ∧
    stored.plan.executionId = executionId ∧ stored.plan.nodeId = nodeId

/-- What becomes of a launch. -/
def fallen (now : Nat) (falls : StagedRow → Bool) (row : StagedRow) : StagedRow :=
  lapse now falls (some row) (fun finished => StagedRow.cancel finished "approval_expired") row

/-- The launches that fall are cancelled with their runs, their attempts and their nodes, and their unspent grants are
revoked; the pending nodes that depend on theirs are blocked. Everything else stays. -/
structure ExpiresExactly (db : Database) (now : Nat) (falls : StagedRow → Bool) (after : Database) : Prop where
  launches : after.staged.rows = db.staged.rows.map (fallen now falls)
  catalog : after.identity.content = { db.identity.content with runs := after.identity.content.runs }
  runs : after.identity.content.runs = db.identity.content.runs.map fun run =>
    lapse now falls (db.staged.find? run.metadata.id) (fun finished => endRun .cancelled (timestamp finished)) run
  attempts : after.nodeRuns.rows = db.nodeRuns.rows.map fun row =>
    lapse now falls (db.staged.find? row.runId)
      (fun finished => NodeRunRow.finish (timestamp finished) .cancelled none) row
  grants : after.grants.rows = db.grants.rows.map fun grant =>
    lapse now falls (db.stagedFor? grant.requestId) revokeUnspent grant
  executionIds : after.graphs.rows.map (·.executionId) = db.graphs.rows.map (·.executionId)
  executions : ∀ id row, db.graphs.find? id = some row → ∃ later, after.graphs.find? id = some later ∧
    LapsesExactly (FallenNode db falls id) row.execution later.execution
  untouched : ∀ id row, db.graphs.find? id = some row → (∀ nodeId, ¬FallenNode db falls id nodeId) →
    after.graphs.find? id = some row
  spares : Spares db after

variable {now : Nat} {falls further : StagedRow → Bool}

theorem fallen_falls {row : StagedRow} (down : falls row = true) :
    fallen now falls row = row.cancel (row.finishTime now) "approval_expired" :=
  if_pos down

theorem fallen_stands {row : StagedRow} (stands : falls row = false) : fallen now falls row = row := by
  rw [fallen, lapse, if_neg (by simp [stands])]

theorem fallen_ids (row : StagedRow) :
    (fallen now falls row).runId = row.runId ∧ (fallen now falls row).requestId = row.requestId := by
  cases down : falls row with
  | true => rw [fallen_falls down]; exact ⟨rfl, rfl⟩
  | false => rw [fallen_stands down]; exact ⟨rfl, rfl⟩

theorem lapse_kept {β : Type} (value : α → β) {launch : Option StagedRow} {change : Nat → α → α}
    (kept : ∀ finished item, value (change finished item) = value item) (item : α) :
    value (lapse now falls launch change item) = value item := by
  unfold lapse
  split
  · split
    · exact kept _ item
    · rfl
  · rfl

/-- A record changes once, with the first or with the second of two launches that fall in turn. -/
theorem lapse_twice {launch : Option StagedRow} {change : Nat → α → α} (item : α)
    (apart : ∀ row, launch = some row → falls row = true → further (fallen now falls row) = false) :
    lapse now further (launch.map (fallen now falls)) change (lapse now falls launch change item) =
      lapse now (fun row => falls row || further row) launch change item := by
  cases launch with
  | none => rfl
  | some row =>
    rw [Option.map_some]
    cases down : falls row with
    | true => simp [lapse, down, apart row rfl down]
    | false =>
      rw [fallen_stands down]
      simp [lapse, down]

theorem fallen_twice {row : StagedRow} (apart : falls row = true → further (fallen now falls row) = false) :
    fallen now further (fallen now falls row) = fallen now (fun row => falls row || further row) row := by
  refine @lapse_twice _ now falls further (some row) (fun finished => StagedRow.cancel finished "approval_expired") row ?_
  intro other same down
  obtain rfl := Option.some.inj same
  exact apart down

end Effect

namespace ExpiresExactly

variable {db after last : Database} {now : Nat} {falls further : StagedRow → Bool}

theorem launch (exact_ : ExpiresExactly db now falls after) (runId : RunId) :
    after.staged.find? runId = (db.staged.find? runId).map (fallen now falls) := by
  unfold Table.find?
  rw [exact_.launches, List.find?_map]
  congr 2
  funext row
  exact congrArg (fun id => decide (id = runId)) (fallen_ids row).1

theorem launchFor (exact_ : ExpiresExactly db now falls after) (requestId : ApprovalRequestId) :
    after.stagedFor? requestId = (db.stagedFor? requestId).map (fallen now falls) := by
  unfold Database.stagedFor?
  rw [exact_.launches, List.find?_map]
  congr 2
  funext row
  exact congrArg (fun id => decide (id = requestId)) (fallen_ids row).2

theorem fallenNode (exact_ : ExpiresExactly db now falls after)
    (apart : ∀ row ∈ db.staged.rows, falls row = true → further (fallen now falls row) = false) (id : GraphRunId) :
    (fun nodeId => FallenNode db falls id nodeId ∨ FallenNode after further id nodeId) =
      FallenNode db (fun row => falls row || further row) id := by
  funext nodeId
  refine propext ⟨?_, ?_⟩
  · rintro (⟨row, member, down, planned⟩ | ⟨later, inside, down, planned⟩)
    · exact ⟨row, member, by simp [down], planned⟩
    · rw [exact_.launches] at inside
      obtain ⟨row, member, rfl⟩ := List.mem_map.mp inside
      cases fell : falls row with
      | true =>
        rw [apart row member fell] at down
        cases down
      | false =>
        rw [fallen_stands fell, exact_.spares.plans] at planned
        rw [fallen_stands fell] at down
        exact ⟨row, member, by simp [down], planned⟩
  · rintro ⟨row, member, down, planned⟩
    cases fell : falls row with
    | true => exact .inl ⟨row, member, fell, planned⟩
    | false =>
      simp only [fell, Bool.false_or] at down
      have listed : row ∈ after.staged.rows := by
        have stays : fallen now falls row = row := fallen_stands fell
        rw [exact_.launches, ← stays]
        exact List.mem_map_of_mem member
      exact .inr ⟨row, listed, down, exact_.spares.plans ▸ planned⟩

/-- Only what is said of the launches of the ledger matters. -/
theorem congr (exact_ : ExpiresExactly db now falls after)
    (same : ∀ row ∈ db.staged.rows, falls row = further row) : ExpiresExactly db now further after := by
  have one : ∀ row ∈ db.staged.rows, fallen now falls row = fallen now further row := by
    intro row member
    simp only [fallen, lapse, same row member]
  have record : ∀ {α : Type} (runId : RunId) (change : Nat → α → α) (item : α),
      lapse now falls (db.staged.find? runId) change item = lapse now further (db.staged.find? runId) change item := by
    intro α runId change item
    cases found : db.staged.find? runId with
    | none => rfl
    | some row => simp only [lapse, same row (Table.mem_of_find? found)]
  have grant : ∀ grant, lapse now falls (db.stagedFor? grant.requestId) revokeUnspent grant =
      lapse now further (db.stagedFor? grant.requestId) revokeUnspent grant := by
    intro grant
    cases found : db.stagedFor? grant.requestId with
    | none => rfl
    | some row => simp only [lapse, same row (stagedFor?_some found).1]
  have node : FallenNode db falls = FallenNode db further := by
    funext id nodeId
    refine propext ⟨?_, ?_⟩
    · rintro ⟨row, member, down, planned⟩
      exact ⟨row, member, same row member ▸ down, planned⟩
    · rintro ⟨row, member, down, planned⟩
      exact ⟨row, member, (same row member).symm ▸ down, planned⟩
  obtain ⟨launches, catalog, runs, attempts, grants, executionIds, executions, untouched, spares⟩ := exact_
  simp only [record, grant, node] at runs attempts grants executions untouched
  exact ⟨launches.trans (List.map_congr_left one), catalog, runs, attempts, grants, executionIds, executions, untouched,
    spares⟩

/-- The effect of launches that fall in turn is that of their falling at once. -/
theorem trans (first : ExpiresExactly db now falls after) (second : ExpiresExactly after now further last)
    (apart : ∀ row ∈ db.staged.rows, falls row = true → further (fallen now falls row) = false)
    (staged : ∀ id row, after.graphs.find? id = some row → ∀ node ∈ row.execution.nodes,
      FallenNode after further id node.nodeId → node.state = .awaitingApproval) :
    ExpiresExactly db now (fun row => falls row || further row) last := by
  have found : ∀ runId row, db.staged.find? runId = some row → falls row = true →
      further (fallen now falls row) = false :=
    fun _ row found => apart row (Table.mem_of_find? found)
  have asked : ∀ requestId row, db.stagedFor? requestId = some row → falls row = true →
      further (fallen now falls row) = false :=
    fun _ row found => apart row (stagedFor?_some found).1
  refine ⟨?_, ?_, ?_, ?_, ?_, second.executionIds.trans first.executionIds, fun id row stored => ?_,
    fun id row stored stands => ?_, first.spares.trans second.spares⟩
  · rw [second.launches, first.launches, List.map_map]
    exact List.map_congr_left fun row member => fallen_twice (apart row member)
  · rw [second.catalog, first.catalog]
  · rw [second.runs, first.runs, List.map_map]
    refine List.map_congr_left fun run _ => ?_
    have named : ∀ finished (run : Run), (endRun .cancelled (timestamp finished) run).metadata.id = run.metadata.id :=
      fun _ _ => rfl
    rw [Function.comp_apply, lapse_kept (·.metadata.id) named run, first.launch]
    exact lapse_twice run (found _)
  · rw [second.attempts, first.attempts, List.map_map]
    refine List.map_congr_left fun attempt _ => ?_
    have named : ∀ finished (row : NodeRunRow), (row.finish (timestamp finished) .cancelled none).runId = row.runId :=
      fun _ _ => rfl
    rw [Function.comp_apply, lapse_kept (·.runId) named attempt, first.launch]
    exact lapse_twice attempt (found _)
  · rw [second.grants, first.grants, List.map_map]
    refine List.map_congr_left fun grant _ => ?_
    rw [Function.comp_apply, lapse_kept (·.requestId) revokeUnspent_requestId grant, first.launchFor]
    exact lapse_twice grant (asked _)
  · obtain ⟨middle, reached, lapses⟩ := first.executions id row stored
    obtain ⟨later, ended, again⟩ := second.executions id middle reached
    refine ⟨later, ended, ?_⟩
    rw [← first.fallenNode apart]
    exact lapses.trans again (staged id middle reached)
  · have same := first.fallenNode apart id
    have either : ∀ nodeId, ¬(FallenNode db falls id nodeId ∨ FallenNode after further id nodeId) := by
      intro nodeId fell
      exact stands nodeId (congrFun same nodeId ▸ fell)
    have passed := first.untouched id row stored fun nodeId fell => either nodeId (.inl fell)
    exact second.untouched id row passed fun nodeId fell => either nodeId (.inr fell)

end ExpiresExactly

section One

variable [Sha256] [SerdeJson] {α : Type} {db after : Database} {now : Nat} {row : StagedRow} {run : Run}
  {plan : ProviderLaunchPlan} {graphRow : GraphRow} {execution : GraphExecution}

/-- Of the records of runs, the one of the launch changes. -/
theorem lapse_one (store : Validates db) (member : row ∈ db.staged.rows) (runId : RunId) (change : Nat → α → α)
    (item : α) : lapse now (fun other => other.requestId = row.requestId) (db.staged.find? runId) change item =
      if runId = row.runId then change (row.finishTime now) item else item := by
  unfold lapse
  cases found : db.staged.find? runId with
  | none =>
    refine (if_neg ?_).symm
    rintro rfl
    rw [Table.find?_mem member] at found
    cases found
  | some other =>
    have inside := Table.mem_of_find? found
    have named : other.runId = runId := Table.find?_key found
    by_cases same : runId = row.runId
    · rw [same, Table.find?_mem member] at found
      obtain rfl := Option.some.inj found
      simp [same]
    · have apart : other.requestId ≠ row.requestId := fun equal =>
        same (named.symm.trans (congrArg (·.runId) (store.onlyLaunch inside member equal)))
      simp [same, apart]

/-- Of the records of requests, the one of the launch changes. -/
theorem lapse_oneFor (store : Validates db) (member : row ∈ db.staged.rows) (requestId : ApprovalRequestId)
    (change : Nat → α → α) (item : α) :
    lapse now (fun other => other.requestId = row.requestId) (db.stagedFor? requestId) change item =
      if requestId = row.requestId then change (row.finishTime now) item else item := by
  unfold lapse
  cases found : db.stagedFor? requestId with
  | none =>
    refine (if_neg ?_).symm
    rintro rfl
    have located : db.stagedFor? row.requestId = some row := Lookup.find_of_mem store.requests member
    rw [located] at found
    cases found
  | some other =>
    obtain ⟨inside, named⟩ := stagedFor?_some found
    by_cases same : requestId = row.requestId
    · obtain rfl := store.onlyLaunch inside member (named.trans same)
      simp [same]
    · simp [same, named]

/-- The node of the launch is the one of its plan. -/
theorem fallenNode_one (store : Validates db) (member : row ∈ db.staged.rows)
    (planned : ProviderLaunchPlan.load db row.runId = .ok plan) (id : GraphRunId) (nodeId : GraphNodeId) :
    FallenNode db (fun other => other.requestId = row.requestId) id nodeId ↔
      plan.executionId = id ∧ plan.nodeId = nodeId := by
  obtain ⟨⟨stored, found, rfl⟩, _⟩ := loadedPlan planned
  constructor
  · rintro ⟨other, inside, same, again, located, execution, node⟩
    obtain rfl := store.onlyLaunch inside member (by simpa using same)
    obtain rfl := Option.some.inj (found.symm.trans located)
    exact ⟨execution, node⟩
  · rintro ⟨execution, node⟩
    exact ⟨row, member, by simp, stored, found, execution, node⟩

/-- The cancellation of one launch, as the fall of that launch. -/
theorem Cancels.exactly (cancels : Cancels db now row "approval_expired" run plan graphRow execution after)
    (store : Validates db) (member : row ∈ db.staged.rows) :
    ExpiresExactly db now (fun other => other.requestId = row.requestId) after := by
  have stored := store.sound _ _ cancels.stored
  have same : execution.id = plan.executionId :=
    ((Written.cancelled cancels.cancelled).kept stored.valid).1.id.trans
      (stored.id.symm.trans (Table.find?_key cancels.stored))
  have distinct := IdentityCatalog.validate_runs_distinct (validate_identity store.state)
  have spares := cancels.spares
  have node := fallenNode_one store member cancels.planned
  have lapses := LapsesExactly.of_cancelled stored.valid.aligned.distinct cancels.cancelled
  obtain ⟨grants, events, revoked, left⟩ := cancels.left
  refine ⟨?_, ?_, ?_, ?_, ?_, ?_, fun id old found => ?_, fun id old found stands => ?_, spares⟩
  · rw [left]
    dsimp only
    rw [Table.rows_update]
    refine List.map_congr_left fun other inside => ?_
    rw [fallen, ← Table.find?_mem inside, lapse_one store member]
  · rw [left]
    rfl
  · rw [left]
    dsimp only [cancelledRun, IdentityCatalog.updateRun]
    rw [Lookup.modifyFirst_eq_map distinct]
    refine List.map_congr_left fun run _ => ?_
    rw [lapse_one store member]
  · rw [left]
    dsimp only
    rw [Table.rows_update]
    refine List.map_congr_left fun attempt _ => ?_
    rw [lapse_one store member]
  · have one : ∀ grant ∈ db.grants.rows, lapse now (fun other => other.requestId = row.requestId)
        (db.stagedFor? grant.requestId) revokeUnspent grant =
          if grant.requestId = row.requestId then revokeUnspent (row.finishTime now) grant else grant :=
      fun grant _ => lapse_oneFor store member _ _ grant
    rw [List.map_congr_left one, left]
    dsimp only
    rcases revoked with ⟨grant, found, unspent, rfl⟩ | ⟨spent, rfl⟩
    · rw [Table.rows_update]
      refine List.map_congr_left fun other inside => ?_
      split
      · rename_i same
        have located := Table.find?_mem inside
        rw [same, found] at located
        obtain rfl := Option.some.inj located
        rw [revokeUnspent, if_pos unspent]
      · rfl
    · symm
      refine (List.map_congr_left fun other inside => ?_).trans (List.map_id _)
      split
      · rename_i same
        rw [revokeUnspent, spent other (same ▸ Table.find?_mem inside)]
        rfl
      · rfl
  · rw [left]
    dsimp only
    exact Table.keys_update GraphRow.store_executionId
  · rw [left]
    dsimp only
    rw [Table.find?_update, same]
    by_cases here : id = plan.executionId
    · rw [here, cancels.stored] at found
      obtain rfl := Option.some.inj found
      refine ⟨_, by rw [if_pos here, here, cancels.stored, Option.map_some], ?_⟩
      have only : FallenNode db (fun other => other.requestId = row.requestId) id = fun nodeId => nodeId = plan.nodeId := by
        funext nodeId
        exact propext ((node id nodeId).trans ⟨fun both => both.2.symm, fun equal => ⟨here.symm, equal.symm⟩⟩)
      rw [only]
      exact lapses
    · refine ⟨old, by rw [if_neg here, found], ?_⟩
      have none : FallenNode db (fun other => other.requestId = row.requestId) id = fun _ => False := by
        funext nodeId
        exact propext ((node id nodeId).trans ⟨fun both => here both.1.symm, False.elim⟩)
      rw [none]
      exact .refl _
  · have apart : id ≠ plan.executionId := by
      rintro rfl
      exact stands plan.nodeId ((node _ _).mpr ⟨rfl, rfl⟩)
    rw [left]
    dsimp only
    rw [Table.find?_update, same, if_neg apart, found]

end One

section Each

variable [Sha256] [SerdeJson] {db after : Database} {now : Nat} {requests : List ApprovalRequestId}

omit [Sha256] [SerdeJson] in
theorem ExpiresExactly.refl (db : Database) (now : Nat) : ExpiresExactly db now (fun _ => false) db := by
  have same : ∀ {α : Type} (launch : Option StagedRow) (change : Nat → α → α) (item : α),
      lapse now (fun _ => false) launch change item = item := by
    intro α launch change item
    cases launch <;> rfl
  have none : ∀ id, FallenNode db (fun _ => false) id = fun _ => False := by
    intro id
    funext nodeId
    refine propext ⟨?_, False.elim⟩
    rintro ⟨_, _, down, _⟩
    cases down
  refine ⟨?_, rfl, ?_, ?_, ?_, rfl, fun id row found => ⟨row, found, none id ▸ .refl _⟩,
    fun _ _ found _ => found, .refl db⟩
  · have stands : fallen now (fun _ => false) = id := funext fun row => fallen_stands rfl
    rw [stands, List.map_id]
  · simp only [same, List.map_id']
  · simp only [same, List.map_id']
  · simp only [same, List.map_id']

/-- The nodes of launches that wait have not been dispatched. -/
theorem Validates.fallenAwaits (store : Validates db) {falls : StagedRow → Bool}
    (waits : ∀ row ∈ db.staged.rows, falls row = true → row.state.isWaiting = true) {id : GraphRunId} {row : GraphRow}
    (found : db.graphs.find? id = some row) {node : GraphNodeExecution} (member : node ∈ row.execution.nodes)
    (fallen : FallenNode db falls id node.nodeId) : node.state = .awaitingApproval := by
  obtain ⟨launch, inside, down, stored, planned, execution, named⟩ := fallen
  obtain ⟨run, located, proved⟩ := store.launches launch inside (waits launch inside down)
  obtain ⟨waiting, _⟩ := validateStagedContext_ok.mp proved
  have runId : run.metadata.id = launch.runId := (Lookup.find_some located).2
  obtain ⟨⟨other, again, same⟩, _⟩ := loadedPlan waiting.planned
  rw [runId, planned] at again
  obtain rfl := Option.some.inj again
  have graph := waiting.rowFound
  rw [← same, execution, found] at graph
  have recorded := waiting.nodeFound
  rw [← Option.some.inj graph, ← same, named] at recorded
  have own : row.execution.node? node.nodeId = some node :=
    Lookup.find_of_mem (store.sound _ _ found).valid.aligned.distinct member
  rw [Option.some.inj (own.symm.trans recorded)]
  exact waiting.nodeAwaits

/-- The cancellation of a launch leaves the launches of other requests. -/
theorem Cancels.otherLaunches {row : StagedRow} {run : Run} {plan : ProviderLaunchPlan} {graphRow : GraphRow}
    {execution : GraphExecution} (cancels : Cancels db now row "approval_expired" run plan graphRow execution after)
    (store : Validates db) (member : row ∈ db.staged.rows) {requestId : ApprovalRequestId}
    (apart : requestId ≠ row.requestId) : after.stagedFor? requestId = db.stagedFor? requestId := by
  rw [(cancels.exactly store member).launchFor]
  cases found : db.stagedFor? requestId with
  | none => rfl
  | some other =>
    have stands : decide (other.requestId = row.requestId) = false := by
      rw [(stagedFor?_some found).2, decide_eq_false apart]
    rw [Option.map_some, fallen_stands stands]

/-- The launches of all these requests wait. -/
def AllWait (db : Database) (requests : List ApprovalRequestId) : Prop :=
  ∀ requestId ∈ requests, ∃ row, db.stagedFor? requestId = some row ∧ row.state.isWaiting = true

theorem Cancels.allWait {row : StagedRow} {run : Run} {plan : ProviderLaunchPlan} {graphRow : GraphRow}
    {execution : GraphExecution} (cancels : Cancels db now row "approval_expired" run plan graphRow execution after)
    (store : Validates db) (member : row ∈ db.staged.rows) (fresh : row.requestId ∉ requests)
    (waits : AllWait db requests) : AllWait after requests := by
  intro requestId inside
  rw [cancels.otherLaunches store member fun same => fresh (same ▸ inside)]
  exact waits requestId inside

omit [Sha256] [SerdeJson] in
theorem AllWait.rest {first : ApprovalRequestId} {rest : List ApprovalRequestId} (waits : AllWait db (first :: rest)) :
    AllWait db rest :=
  fun requestId inside => waits requestId (List.mem_cons_of_mem _ inside)

/-- The launches of a list of requests, which wait, fall one after another. -/
theorem expireEach_exact (store : Validates db) (once : requests.Nodup)
    (waits : AllWait db requests)
    (done : foldEach (fun db requestId => cancelForRequest db now requestId "approval_expired") requests db =
      .ok after) : ExpiresExactly db now (fun row => row.requestId ∈ requests) after ∧ Validates after := by
  induction requests generalizing db with
  | nil =>
    obtain rfl := Except.ok.inj done
    have none : (fun row : StagedRow => decide (row.requestId ∈ ([] : List ApprovalRequestId))) = fun _ => false := by
      funext row
      simp
    rw [none]
    exact ⟨.refl db now, store⟩
  | cons first rest ih =>
    simp only [foldEach, bind_ok] at done
    obtain ⟨middle, stepped, remaining⟩ := done
    obtain ⟨row, found, waiting⟩ := waits first (List.mem_cons_self ..)
    obtain ⟨fresh, once⟩ := List.nodup_cons.mp once
    rcases cancelForRequest_ok stepped with ⟨_, idle⟩ | ⟨other, run, plan, graphRow, execution, again, cancels⟩
    · rw [idle row found] at waiting
      cases waiting
    · obtain rfl := Option.some.inj (found.symm.trans again)
      obtain ⟨member, named⟩ := stagedFor?_some found
      have one := cancels.exactly store member
      have storeAfter := cancels.validates store member
      rw [named] at one
      have waitsAfter := cancels.allWait store member (named ▸ fresh) waits.rest
      obtain ⟨others, storeLast⟩ := ih storeAfter once waitsAfter remaining
      refine ⟨?_, storeLast⟩
      have both : (fun row : StagedRow => decide (row.requestId ∈ first :: rest)) =
          fun row => decide (row.requestId = first) || decide (row.requestId ∈ rest) := by
        funext row
        simp
      rw [both]
      refine one.trans others (fun row _ down => ?_) fun id row found node inside fell => ?_
      · simp only [decide_eq_true_eq] at down
        simp [(fallen_ids row).2, down, fresh]
      · refine storeAfter.fallenAwaits (fun launch listed down => ?_) found inside fell
        obtain ⟨later, located, waits⟩ := waitsAfter launch.requestId (by simpa using down)
        obtain ⟨there, same⟩ := stagedFor?_some located
        rw [← storeAfter.onlyLaunch there listed same]
        exact waits

end Each

section Room

/-- The execution that the launch of a request belongs to. -/
def executionOf (db : Database) (requestId : ApprovalRequestId) : Option GraphRunId :=
  (db.stagedFor? requestId).bind fun row => (db.plans.find? row.runId).map (·.plan.executionId)

/-- The revisions that the cancellation of launches counts up can still be stored. -/
structure Room (db : Database) (requests : List ApprovalRequestId) : Prop where
  catalog : db.identity.revision + requests.length < sqlLimit
  executions : ∀ id row, db.graphs.find? id = some row →
    row.execution.revision + requests.countP (fun requestId => executionOf db requestId = some id) < sqlLimit
  runs : ∀ requestId ∈ requests, ∀ row run, db.stagedFor? requestId = some row →
    db.identity.content.run? row.runId = some run → run.metadata.revision + 1 < 2 ^ 64

variable [Sha256] [SerdeJson] {db after : Database} {now : Nat} {row : StagedRow} {run : Run}
  {plan : ProviderLaunchPlan} {graphRow : GraphRow} {execution : GraphExecution} {requests : List ApprovalRequestId}

/-- A cancellation counts the execution of the launch up, and no other. -/
theorem Cancels.revisions {reason : String} (cancels : Cancels db now row reason run plan graphRow execution after)
    (sound : SoundGraphs db) (id : GraphRunId) :
    (after.graphs.find? id).map (·.execution.revision) = (db.graphs.find? id).map fun old =>
      if id = plan.executionId then old.execution.revision + 1 else old.execution.revision := by
  have stored := sound _ _ cancels.stored
  have same : execution.id = plan.executionId :=
    ((Written.cancelled cancels.cancelled).kept stored.valid).1.id.trans
      (stored.id.symm.trans (Table.find?_key cancels.stored))
  have counted : execution.revision = graphRow.execution.revision + 1 := by
    have bounded := stored.bounded
    have revision := stored.revision
    rw [cancelStagedNode_revision cancels.cancelled, bump]
    unfold sqlLimit at bounded
    omega
  obtain ⟨grants, events, _, rfl⟩ := cancels.left
  dsimp only
  rw [Table.find?_update, same]
  by_cases here : id = plan.executionId
  · rw [if_pos here, here, cancels.stored]
    simp [GraphRow.store, counted]
  · simp only [if_neg here]

/-- The room for a list of launches is the room for the first, and then for the others. -/
theorem Cancels.room (cancels : Cancels db now row "approval_expired" run plan graphRow execution after)
    (store : Validates db) (member : row ∈ db.staged.rows) (fresh : row.requestId ∉ requests) :
    Room db (row.requestId :: requests) ↔ run.metadata.revision + 1 < 2 ^ 64 ∧ Room after requests := by
  have one := cancels.exactly store member
  have revisions := cancels.revisions store.sound
  have own : db.stagedFor? row.requestId = some row := Lookup.find_of_mem store.requests member
  have launch : ∀ requestId ∈ requests, after.stagedFor? requestId = db.stagedFor? requestId :=
    fun requestId inside => cancels.otherLaunches store member fun same => fresh (same ▸ inside)
  have execution_ : ∀ requestId, executionOf after requestId = executionOf db requestId := by
    intro requestId
    unfold executionOf
    rw [one.launchFor, one.spares.plans]
    cases db.stagedFor? requestId with
    | none => rfl
    | some other => rw [Option.map_some, Option.bind_some, Option.bind_some, (fallen_ids other).1]
  have count : ∀ id, (row.requestId :: requests).countP (fun requestId => executionOf db requestId = some id) =
      requests.countP (fun requestId => executionOf after requestId = some id) +
        if id = plan.executionId then 1 else 0 := by
    intro id
    obtain ⟨⟨stored, found, rfl⟩, _⟩ := loadedPlan cancels.planned
    have first : executionOf db row.requestId = some stored.plan.executionId := by
      rw [executionOf, own, Option.bind_some, found, Option.map_some]
    simp only [execution_, List.countP_cons, first, decide_eq_true_eq, Option.some.injEq]
    congr 1
    exact if_congr eq_comm rfl rfl
  have revised : after.identity.revision = db.identity.revision + 1 := by
    obtain ⟨_, _, _, left⟩ := cancels.left
    rw [left]
  have runs : ∀ requestId ∈ requests, ∀ other, db.stagedFor? requestId = some other →
      after.identity.content.run? other.runId = db.identity.content.run? other.runId := by
    intro requestId inside other found
    obtain ⟨listed, named⟩ := stagedFor?_some found
    have apart : other.runId ≠ row.runId := by
      intro same
      have stored := Table.find?_mem listed
      rw [same, Table.find?_mem member] at stored
      obtain rfl := Option.some.inj stored
      exact fresh (named ▸ inside)
    have kept : ∀ run, (endRun .cancelled (timestamp (row.finishTime now)) run).metadata.id = run.metadata.id :=
      fun _ => rfl
    obtain ⟨_, _, _, left⟩ := cancels.left
    rw [left]
    dsimp only
    rw [cancelledRun, IdentityCatalog.run?_updateRun kept, if_neg apart]
  constructor
  · intro room
    have catalog := room.catalog
    rw [List.length_cons] at catalog
    refine ⟨room.runs _ (List.mem_cons_self ..) row run own cancels.found, by omega, fun id later found => ?_,
      fun requestId inside other moved located located' => ?_⟩
    · have moved := revisions id
      rw [found, Option.map_some] at moved
      obtain ⟨old, stored, counted⟩ := Option.map_eq_some_iff.mp moved.symm
      have bounded := room.executions id old stored
      rw [count] at bounded
      split at counted <;> rename_i here
      · rw [if_pos here] at bounded
        omega
      · rw [if_neg here] at bounded
        omega
    · rw [launch requestId inside] at located
      rw [runs requestId inside other located] at located'
      exact room.runs requestId (List.mem_cons_of_mem _ inside) other moved located located'
  · rintro ⟨runRoom, room⟩
    have catalog := room.catalog
    refine ⟨by rw [List.length_cons]; omega, fun id old stored => ?_, fun requestId inside other moved located found => ?_⟩
    · have moved := revisions id
      rw [stored, Option.map_some] at moved
      obtain ⟨later, found, counted⟩ := Option.map_eq_some_iff.mp moved
      have bounded := room.executions id later found
      rw [count]
      split at counted <;> rename_i here
      · rw [if_pos here]
        omega
      · rw [if_neg here]
        omega
    · rcases List.mem_cons.mp inside with rfl | inside
      · obtain rfl := Option.some.inj (own.symm.trans located)
        obtain rfl := Option.some.inj (cancels.found.symm.trans found)
        exact runRoom
      · refine room.runs requestId inside other moved ?_ ?_
        · rw [launch requestId inside, located]
        · rw [runs requestId inside other located, found]

/-- A cancellation that succeeds could count its run up. -/
theorem cancelWaiting_runRoom {reason : String} (committed : cancelWaiting db now row reason = .ok after)
    (found : db.identity.content.run? row.runId = some run) : run.metadata.revision + 1 < 2 ^ 64 := by
  simp only [cancelWaiting, cancelledCatalog, bind_ok, exists_unit, loadCatalog_ok, required_ok, nextRevision_ok]
    at committed
  obtain ⟨_, ⟨_, rfl⟩, other, located, _, _, _, _, _, _, _, ⟨_, ⟨room, _⟩, _⟩, _⟩ := committed
  obtain rfl := Option.some.inj (located.symm.trans found)
  exact room

/-- A request whose launch waits is answered by the cancellation of the launch. -/
theorem cancelForRequest_waiting {requestId : ApprovalRequestId} (found : db.stagedFor? requestId = some row)
    (waits : row.state.isWaiting = true) :
    cancelForRequest db now requestId "approval_expired" = cancelWaiting db now row "approval_expired" := by
  have readable : (isBlank "approval_expired" || decide (200 < byteLength "approval_expired")) = false := by decide
  have live : row.state ≠ .cancelled := by
    intro state
    rw [state] at waits
    cases waits
  simp only [cancelForRequest, reject, rejectIf, readable, found, live, waits, if_false, Bool.false_eq_true, ok_bind,
    Bool.not_true]

/-- The launches of a list of requests can all be cancelled exactly when there is room for it. -/
theorem expireEach_succeeds (store : Validates db) (once : requests.Nodup) (clock : now < sqlLimit)
    (waits : AllWait db requests) :
    (∃ after, foldEach (fun db requestId => cancelForRequest db now requestId "approval_expired") requests db =
      .ok after) ↔ Room db requests := by
  induction requests generalizing db with
  | nil =>
    refine ⟨fun _ => ⟨store.revised, fun id row found => ?_, fun _ member => by cases member⟩, fun _ => ⟨db, rfl⟩⟩
    have stored := store.sound id row found
    rw [List.countP_nil, Nat.add_zero, ← stored.revision]
    exact stored.bounded
  | cons first rest ih =>
    obtain ⟨row, found, waiting⟩ := waits first (List.mem_cons_self ..)
    obtain ⟨member, rfl⟩ := stagedFor?_some found
    obtain ⟨fresh, onceRest⟩ := List.nodup_cons.mp once
    simp only [foldEach, bind_ok, cancelForRequest_waiting found waiting]
    constructor
    · rintro ⟨after, middle, stepped, remaining⟩
      obtain ⟨run, plan, graphRow, execution, cancels⟩ := cancelWaiting_ok waiting stepped
      have room := (ih (cancels.validates store member) onceRest (cancels.allWait store member fresh waits.rest)).mp
        ⟨after, remaining⟩
      exact (cancels.room store member fresh).mpr ⟨cancelWaiting_runRoom stepped cancels.found, room⟩
    · intro room
      obtain ⟨run, located, proved⟩ := store.launches row member waiting
      obtain ⟨proof, _⟩ := validateStagedContext_ok.mp proved
      have named : run.metadata.id = row.runId := (Lookup.find_some located).2
      have launch : proof.launch = row :=
        Option.some.inj (proof.launchFound.symm.trans (named ▸ Table.find?_mem member))
      have catalog := room.catalog
      rw [List.length_cons] at catalog
      have belongs : executionOf db row.requestId = some proof.plan.executionId := by
        obtain ⟨⟨stored, planned, same⟩, _⟩ := loadedPlan proof.planned
        rw [executionOf, found, Option.bind_some, ← named, planned, Option.map_some, same]
      have graphRoom := room.executions _ _ proof.rowFound
      rw [List.countP_cons, belongs, decide_eq_true rfl, if_pos rfl] at graphRoom
      obtain ⟨middle, stepped⟩ := cancelWaiting_succeeds store proof "approval_expired" clock (by omega)
        (room.runs _ (List.mem_cons_self ..) row run found located) (by omega)
      rw [launch] at stepped
      obtain ⟨_, _, _, _, cancels⟩ := cancelWaiting_ok waiting stepped
      have others := ((cancels.room store member fresh).mp room).2
      obtain ⟨after, remaining⟩ := (ih (cancels.validates store member) onceRest
        (cancels.allWait store member fresh waits.rest)).mpr others
      exact ⟨after, middle, stepped, remaining⟩

end Room

section Exact

/-- The launch waits, and its request has expired. -/
def hasExpired (db : Database) (now : Nat) (row : StagedRow) : Bool :=
  row.state.isWaiting && (db.approvals.find? row.requestId).any fun approval => approval.expiresAtMs ≤ now

/-- A launch was cancelled with everything that is recorded for it. -/
structure LaunchCancelled (db after : Database) (row : StagedRow) : Prop where
  launch : ∃ later, after.staged.find? row.runId = some later ∧ later.state = .cancelled
  run : ∃ run, after.identity.content.run? row.runId = some run ∧ run.state = .cancelled ∧ run.startedAt = none
  node : ∃ stored node, db.plans.find? row.runId = some stored ∧
    HoldsNode after stored.plan.executionId stored.plan.nodeId node ∧ node.state = .cancelled
  grant : ∀ grant, db.grants.find? row.requestId = some grant →
    ∃ later, after.grants.find? row.requestId = some later ∧ later.revokedAtMs.isSome = true

variable [Sha256] [SerdeJson] {db after : Database} {now : Nat} {row : StagedRow}

/-- A launch that waits, its run, and what was decided about it. -/
structure WaitingLaunch (db : Database) (row : StagedRow) (run : Run) where
  waiting : Waiting db run
  launch : waiting.launch = row
  found : db.identity.content.run? row.runId = some run
  approval : db.approvals.find? row.requestId = some waiting.approval
  decided : (row.state = .awaitingApproval ∧ waiting.approval.decision = none ∧
      db.grants.find? row.requestId = none) ∨
    (row.state = .ready ∧ waiting.approval.decision.isSome = true ∧
      ∃ grant, db.grants.find? row.requestId = some grant ∧ grant.unspent = true)

theorem Validates.waitingLaunch (store : Validates db) (member : row ∈ db.staged.rows)
    (waits : row.state.isWaiting = true) : ∃ run, Nonempty (WaitingLaunch db row run) := by
  obtain ⟨run, located, proved⟩ := store.launches row member waits
  obtain ⟨waiting, _, decided⟩ := validateStagedContext_ok.mp proved
  have named : run.metadata.id = row.runId := (Lookup.find_some located).2
  have launch : waiting.launch = row :=
    Option.some.inj (waiting.launchFound.symm.trans (named ▸ Table.find?_mem member))
  have approval := waiting.approvalFound
  have asked := waiting.approvalId
  have decided := decided rfl
  rw [launch] at approval asked decided
  refine ⟨run, ⟨waiting, launch, located, approval, ?_⟩⟩
  unfold validateDecisionAndGrantState at decided
  rw [asked] at decided
  split at decided
  · rename_i state decision grant
    exact .inl ⟨state, decision, grant⟩
  · rename_i state decision grant
    simp only [bind_ok, exists_unit, reject_ok, Bool.not_eq_false'] at decided
    exact .inr ⟨state, by rw [decision]; rfl, _, grant, decided.1⟩
  · cases decided

/-- In a store that validates, the launches whose decision is still owed or whose grant is unspent are the ones that
wait. -/
theorem Validates.isOverdue (store : Validates db) (member : row ∈ db.staged.rows) :
    isOverdue db now row = hasExpired db now row := by
  cases waits : row.state.isWaiting with
  | false =>
    rw [hasExpired, waits, Bool.false_and, Bool.eq_false_iff]
    intro late
    rw [isOverdue_waits late] at waits
    cases waits
  | true =>
    obtain ⟨run, ⟨launch⟩⟩ := store.waitingLaunch member waits
    unfold Daemon.isOverdue hasExpired
    rw [launch.approval, waits]
    rcases launch.decided with ⟨state, decision, _⟩ | ⟨state, decision, _⟩ <;> simp [state, decision]

theorem Validates.overdueRequests (store : Validates db) : (overdueRequests db now).Nodup ∧
    AllWait db (overdueRequests db now) ∧
    ∀ row ∈ db.staged.rows, (row.requestId ∈ overdueRequests db now ↔ hasExpired db now row = true) := by
  have sorted := List.perm_insertionSort StagedRow.precedes (db.staged.rows.filter (Daemon.isOverdue db now))
  have listed : ∀ requestId ∈ Daemon.overdueRequests db now, ∃ row ∈ db.staged.rows, row.requestId = requestId ∧
      hasExpired db now row = true := by
    intro requestId inside
    obtain ⟨row, found, named⟩ := List.mem_map.mp inside
    obtain ⟨member, late⟩ := List.mem_filter.mp (sorted.mem_iff.mp found)
    exact ⟨row, member, named, store.isOverdue member ▸ late⟩
  refine ⟨?_, fun requestId inside => ?_, fun row member => ⟨fun inside => ?_, fun late => ?_⟩⟩
  · refine (sorted.map (·.requestId)).nodup_iff.mpr ?_
    exact store.requests.sublist (List.filter_sublist.map _)
  · obtain ⟨row, member, rfl, late⟩ := listed requestId inside
    refine ⟨row, Lookup.find_of_mem store.requests member, ?_⟩
    simp only [hasExpired, Bool.and_eq_true] at late
    exact late.1
  · obtain ⟨other, there, same, late⟩ := listed _ inside
    rw [← store.onlyLaunch there member same]
    exact late
  · exact List.mem_map_of_mem (sorted.mem_iff.mpr (List.mem_filter.mpr ⟨member, store.isOverdue member ▸ late⟩))

omit [Sha256] [SerdeJson] in
theorem ExpiresExactly.run? {falls : StagedRow → Bool} (exact_ : ExpiresExactly db now falls after) {runId : RunId}
    {run : Run} (found : db.identity.content.run? runId = some run) :
    after.identity.content.run? runId = some (lapse now falls (db.staged.find? runId)
      (fun finished => endRun .cancelled (timestamp finished)) run) := by
  have named : ∀ finished (run : Run), (endRun .cancelled (timestamp finished) run).metadata.id = run.metadata.id :=
    fun _ _ => rfl
  obtain ⟨_, same⟩ := Lookup.find_some found
  unfold IdentityCatalog.run? at found ⊢
  rw [exact_.runs, List.find?_map]
  have asked : ((fun run : Run => decide (run.metadata.id = runId)) ∘ fun run =>
      lapse now falls (db.staged.find? run.metadata.id) (fun finished => endRun .cancelled (timestamp finished)) run) =
        fun run => decide (run.metadata.id = runId) := by
    funext run
    rw [Function.comp_apply, lapse_kept (·.metadata.id) named run]
  rw [asked, found, Option.map_some, same]

/-- A launch that falls is cancelled with everything recorded for it. -/
theorem ExpiresExactly.cancelled {falls : StagedRow → Bool} (exact_ : ExpiresExactly db now falls after)
    (store : Validates db) (member : row ∈ db.staged.rows) (waits : row.state.isWaiting = true)
    (down : falls row = true) : LaunchCancelled db after row := by
  obtain ⟨run, ⟨held⟩⟩ := store.waitingLaunch member waits
  have stored := Table.find?_mem member
  have named : run.metadata.id = row.runId := (Lookup.find_some held.found).2
  have own : db.stagedFor? row.requestId = some row := Lookup.find_of_mem store.requests member
  refine ⟨?_, ?_, ?_, fun grant found => ?_⟩
  · refine ⟨row.cancel (row.finishTime now) "approval_expired", ?_, rfl⟩
    rw [exact_.launch, stored, Option.map_some, fallen_falls down]
  · refine ⟨endRun .cancelled (timestamp (row.finishTime now)) run, ?_, rfl, held.waiting.unstarted⟩
    rw [exact_.run? held.found, stored, lapse, if_pos down]
  · obtain ⟨⟨planRow, planned, same⟩, _⟩ := loadedPlan held.waiting.planned
    rw [named] at planned
    obtain ⟨later, reached, lapses⟩ := exact_.executions _ _ held.waiting.rowFound
    have nodeId : held.waiting.node.nodeId = held.waiting.plan.nodeId := (Lookup.find_some held.waiting.nodeFound).2
    have fell : FallenNode db falls held.waiting.plan.executionId held.waiting.node.nodeId :=
      ⟨row, member, down, planRow, planned, same ▸ rfl, same ▸ nodeId.symm⟩
    refine ⟨planRow, GraphExecution.cancel held.waiting.node, planned, ⟨later, same ▸ reached, ?_⟩, rfl⟩
    rw [lapses.node?, same, held.waiting.nodeFound, Option.map_some, lapseNode_doomed fell]
  · have unspent : grant.unspent = true := by
      rcases held.decided with ⟨_, _, none⟩ | ⟨_, _, other, issued, unspent⟩
      · rw [none] at found
        cases found
      · rw [← Option.some.inj (issued.symm.trans found)]
        exact unspent
    have same : grant.requestId = row.requestId := Table.find?_key found
    have revoked : lapse now falls (db.stagedFor? grant.requestId) revokeUnspent grant ∈ after.grants.rows := by
      rw [exact_.grants]
      exact List.mem_map_of_mem (Table.mem_of_find? found)
    have listed := Table.find?_mem revoked
    rw [lapse_kept (·.requestId) revokeUnspent_requestId grant, same, own, lapse, if_pos down, revokeUnspent,
      if_pos unspent] at listed
    exact ⟨_, listed, rfl⟩

/-- Once the overdue launches have fallen, none is overdue. -/
theorem ExpiresExactly.settled (exact_ : ExpiresExactly db now (hasExpired db now) after) (store : Validates db) :
    Daemon.overdueRequests after now = [] := by
  have timely : after.staged.rows.filter (Daemon.isOverdue after now) = [] := by
    refine List.filter_eq_nil_iff.mpr fun later inside late => ?_
    rw [exact_.launches] at inside
    obtain ⟨row, member, rfl⟩ := List.mem_map.mp inside
    cases down : hasExpired db now row with
    | true =>
      rw [fallen_falls down] at late
      cases isOverdue_waits late
    | false =>
      have same : Daemon.isOverdue after now row = Daemon.isOverdue db now row := by
        unfold Daemon.isOverdue
        rw [exact_.spares.approvals]
      rw [fallen_stands down, same, store.isOverdue member, down] at late
      cases late
  rw [Daemon.overdueRequests, timely, List.insertionSort_nil, List.map_nil]

/-- In a store that validates, the launches that wait for an expired request are cancelled with their runs, nodes and
grants, the pending nodes that depend on theirs are blocked, and nothing else changes; a second pass changes nothing.
The pass succeeds exactly when the clock and the revisions it counts up can be stored. -/
theorem expire_exact (store : Validates db) (now : Nat) :
    ((∃ after, expire db now = .ok after) ↔ now < sqlLimit ∧ Room db (overdueRequests db now)) ∧
    ∀ after, expire db now = .ok after → ExpiresExactly db now (hasExpired db now) after ∧
      (∀ row ∈ db.staged.rows, hasExpired db now row = true → LaunchCancelled db after row) ∧
      expire after now = .ok after := by
  obtain ⟨once, waits, late⟩ := @Validates.overdueRequests _ _ db now store
  simp only [expire, bind_ok, exists_unit, nowMs_ok, exists_and_left]
  refine ⟨and_congr_right fun clock => expireEach_succeeds store once clock waits, ?_⟩
  rintro after ⟨clock, done⟩
  obtain ⟨effect, _⟩ := expireEach_exact store once waits done
  have falls : ∀ row ∈ db.staged.rows, decide (row.requestId ∈ overdueRequests db now) = hasExpired db now row := by
    intro row member
    rw [Bool.eq_iff_iff, decide_eq_true_eq]
    exact late row member
  have exact_ := effect.congr falls
  refine ⟨exact_, fun row member down => ?_, clock, ?_⟩
  · simp only [hasExpired, Bool.and_eq_true] at down
    exact exact_.cancelled store member down.1 (by simp only [hasExpired, down.1, down.2, Bool.and_self])
  · rw [exact_.settled store]
    rfl

end Exact

section Ready

/-- The checks of a store that validates, as they are run. -/
def storeChecks [Sha256] [SerdeJson] (db : Database) : Bool :=
  (storedExecutions db).all (fun execution => isOk (validateStored db execution)) &&
    isOk (M3State.validate ⟨db.m3.content, storedExecutions db⟩ db.identity.content) &&
    db.staged.rows.all fun row => !row.state.isWaiting ||
      (db.identity.content.run? row.runId).any fun run => isOk (validateStagedRun db run)

theorem Validates.of_checks [Sha256] [SerdeJson] {db : Database} (checks : storeChecks db = true)
    (sound : SoundGraphs db) (launches : LaunchesSound db) (timed : ∀ row ∈ db.staged.rows, row.stagedAtMs < sqlLimit)
    (revised : db.identity.revision < sqlLimit) : Validates db := by
  simp only [storeChecks, Bool.and_eq_true, List.all_eq_true, Bool.or_eq_true, Bool.not_eq_true', Option.any_eq_true,
    isOk_unit] at checks
  obtain ⟨⟨readable, state⟩, proved⟩ := checks
  refine ⟨readable, sound, state, fun row member waits => ?_, launches.requests, timed, revised⟩
  rcases proved row member with idle | found
  · rw [idle] at waits
    cases waits
  · exact found

/-- `accountRun` before its launch is dispatched. -/
def readyRun : DaemonProcess :=
  @DaemonProcess.run accountDigests firstField .fresh (accountRun.take 6)

/-- What is computed of it, at once. -/
theorem readyRun_facts : @storeChecks accountDigests firstField readyRun.db = true ∧
    (∀ row ∈ readyRun.db.staged.rows, row.stagedAtMs < sqlLimit) ∧ readyRun.db.identity.revision < sqlLimit ∧
    isOk (@expire accountDigests firstField readyRun.db 300006) = true ∧
    isOk (@expire accountDigests firstField readyRun.db sqlLimit) = false ∧
    ∃ row ∈ readyRun.db.staged.rows, hasExpired readyRun.db 300006 row = true ∧
      hasExpired readyRun.db sqlLimit row = true := by
  decide +kernel

theorem readyRun_validates : @Validates accountDigests firstField readyRun.db := by
  have sound : @LedgersSound accountDigests readyRun :=
    @LedgersSound.run accountDigests firstField _ (@LedgersSound.fresh accountDigests) (accountRun.take 6)
  obtain ⟨checks, timed, revised, _⟩ := readyRun_facts
  exact @Validates.of_checks accountDigests firstField readyRun.db checks (@LedgersSound.graphs accountDigests _ sound)
    (@LedgersSound.launches accountDigests _ sound) timed revised

/-- Five minutes after it was asked for, the approved launch falls. -/
theorem expire_exact_ready : ∃ after, @expire accountDigests firstField readyRun.db 300006 = .ok after ∧
    @expire accountDigests firstField after 300006 = .ok after ∧
    ∃ row ∈ readyRun.db.staged.rows, hasExpired readyRun.db 300006 row = true ∧ LaunchCancelled readyRun.db after row := by
  obtain ⟨_, exact_⟩ := @expire_exact accountDigests firstField readyRun.db readyRun_validates 300006
  obtain ⟨_, _, _, expires, _, row, member, down, _⟩ := readyRun_facts
  obtain ⟨after, done⟩ := isOk_iff.mp expires
  obtain ⟨_, cancelled, again⟩ := exact_ after done
  exact ⟨after, done, again, row, member, down, cancelled row member down⟩

/-- A time that no SQL integer holds is refused, also with a launch that has expired. -/
theorem expire_refuses : @Validates accountDigests firstField readyRun.db ∧
    (∃ row ∈ readyRun.db.staged.rows, hasExpired readyRun.db sqlLimit row = true) ∧
    ¬∃ after, @expire accountDigests firstField readyRun.db sqlLimit = .ok after := by
  obtain ⟨_, _, _, _, refused, row, member, _, down⟩ := readyRun_facts
  refine ⟨readyRun_validates, ⟨row, member, down⟩, ?_⟩
  rintro ⟨after, done⟩
  rw [done] at refused
  cases refused

end Ready

end Bastet.Daemon
