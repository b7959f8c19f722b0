import Bastet.Daemon.GraphCounters

/-! Restarting an execution for missing output: once for each original, and without touching it. -/

set_option autoImplicit false

namespace Bastet.Daemon

open Fallible Lookup Bastet.Core

section Added

variable {db middle after : Database}

/-- Every execution stored afterwards was stored before. -/
def NoneAdded (db after : Database) : Prop :=
  ∀ id, db.graphs.find? id = none → after.graphs.find? id = none

theorem NoneAdded.of_same (same : after.graphs = db.graphs) : NoneAdded db after :=
  fun _ absent => same ▸ absent

theorem NoneAdded.trans (first : NoneAdded db middle) (second : NoneAdded middle after) : NoneAdded db after :=
  fun id absent => second id (first id absent)

theorem NoneAdded.of_update {id : GraphRunId} {execution : GraphExecution} {updatedAt : String}
    (graphs : after.graphs = db.graphs.update id (GraphRow.store execution updatedAt) GraphRow.store_executionId) :
    NoneAdded db after := by
  intro other absent
  rw [graphs, Table.find?_update]
  split_ifs with same
  · rw [absent, Option.map_none]
  · exact absent

variable [Sha256] [SerdeJson]

theorem Cancels.noneAdded {now : Nat} {row : StagedRow} {reason : String} {run : Run} {plan : ProviderLaunchPlan}
    {graphRow : GraphRow} {execution : GraphExecution}
    (cancels : Cancels db now row reason run plan graphRow execution after) : NoneAdded db after := by
  obtain ⟨grants, events, _, rfl⟩ := cancels.left
  exact .of_update rfl

theorem MayCancel.noneAdded {now : Nat} {requestId : ApprovalRequestId} {reason : String}
    (cancels : MayCancel db now requestId reason after) : NoneAdded db after := by
  rcases cancels with ⟨rfl, _⟩ | ⟨_, _, _, _, _, _, cancels⟩
  · exact .of_same rfl
  · exact cancels.noneAdded

theorem CancelsSome.noneAdded {now : Nat} (cancels : CancelsSome now db after) : NoneAdded db after := by
  induction cancels with
  | refl => exact .of_same rfl
  | tail before last ih =>
    obtain ⟨_, _, cancels⟩ := last
    exact ih.trans cancels.noneAdded

theorem onDecision_noneAdded {now : Nat} {request : ApprovalRequest} {kind : ApprovalDecisionKind}
    (informed : onDecision db now request kind = .ok after) : NoneAdded db after := by
  rcases onDecision_ok informed with ⟨_, rfl⟩ | ⟨_, _, _, _, _, _, _, _, _, _, _, rfl⟩ | ⟨_, cancels⟩
  · exact .of_same rfl
  · exact .of_same rfl
  · exact cancels.noneAdded

omit [Sha256] [SerdeJson] in
theorem recovered_noneAdded (now : Nat) (daemon : DaemonState) (revision : Nat) (events : List String) :
    NoneAdded db (db.recovered now daemon revision events) := by
  intro id absent
  simp only [Database.recovered, Table.find?_updateAll, absent, Option.map_none]

end Added

section Sources

/-- The stored execution of this id was restarted from the original. -/
def Database.Names (db : Database) (original id : GraphRunId) : Prop :=
  ∃ row, db.graphs.find? id = some row ∧ row.execution.restartedFromExecutionId = some original

/-- The action submits an execution that a client says was restarted from the original. -/
def submitsRestart (original : GraphRunId) : Action → Bool
  | .command (.createGraphExecution _ submitted) => submitted.restartedFromExecutionId = some original
  | _ => false

/-- The action is a restart of the original for missing output. -/
def restarts (original : GraphRunId) : Action → Bool
  | .command (.restartMissingOutputGraph _ _ originalId _) => originalId = original
  | _ => false

variable [Sha256] [SerdeJson] {db after : Database} {original : GraphRunId} {action : Action}

/-- Only a client's submission or a restart stores an execution that names the original. -/
theorem Change.adds (change : Change db action after) (sound : SoundGraphs db) {id : GraphRunId} {later : GraphRow}
    (absent : db.graphs.find? id = none) (found : after.graphs.find? id = some later)
    (source : later.execution.restartedFromExecutionId = some original) :
    submitsRestart original action = true ∨ restarts original action = true := by
  have none : NoneAdded db after → False := fun none => by
    rw [none id absent] at found
    cases found
  have inserted : ∀ {graph : GraphRow} {graphs : Table GraphRow.executionId}, db.graphs.insert graph = some graphs →
      after.graphs = graphs → later = graph := by
    intro graph graphs inserted same
    rw [same, Table.find?_insert inserted] at found
    split_ifs at found
    · exact (Option.some.inj found).symm
    · rw [absent] at found
      cases found
  cases change with
  | accepted events made consistent m3Bounded graphBounded stored =>
    obtain rfl := inserted stored rfl
    obtain ⟨_, _, _, started, _, _⟩ := Core.acceptMvpDecision_ok made
    simp only [GraphExecution.start, bind_ok, exists_unit, pure_ok] at started
    obtain ⟨_, rfl⟩ := started
    cases source
  | createdGraph events valid bounded stored =>
    obtain rfl := inserted stored rfl
    exact .inl (decide_eq_true source)
  | restartedGraph events row decided same made bounded stored =>
    obtain rfl := inserted stored rfl
    have kept := sound _ _ row
    simp only [GraphExecution.restartAs, GraphExecution.start, bind_ok, exists_unit, pure_ok] at made
    obtain ⟨_, _, _, ⟨_, rfl⟩, rfl⟩ := made
    have named := Option.some.inj source
    exact .inr (decide_eq_true ((Table.find?_key row).symm.trans (kept.id.trans named)))
  | storedM3 stored =>
    obtain ⟨_, _, _, rfl⟩ := stored
    exact (none (.of_same rfl)).elim
  | worked stored works =>
    obtain ⟨_, _, _, _, _, rfl⟩ := stored
    exact (none (.of_update rfl)).elim
  | begun events begun serving attended current left =>
    exact (none (.of_update (Beginning.stages left).graphs)).elim
  | finished events trusted finishing => exact (none (.of_update rfl)).elim
  | decided issued events deciding informed =>
    have kept := onDecision_noneAdded informed
    exact (none fun id absent => kept id absent).elim
  | cancelled events some =>
    have kept := some.noneAdded
    exact (none fun id absent => kept id absent).elim
  | revoked events spent cancels =>
    have kept := cancels.noneAdded
    exact (none fun id absent => kept id absent).elim
  | claimed events claiming => exact (none (.of_update rfl)).elim
  | abandoned events abandoning => exact (none (.of_update rfl)).elim
  | @recovered now _ revision events middle proved catalogValid recoverable revised expired =>
    have first : NoneAdded db _ := recovered_noneAdded now ⟨bump db.daemon.revision, .recovering⟩ revision middle
    exact (none (first.trans expired.noneAdded)).elim
  | _ => exact (none (.of_same rfl)).elim

/-- The two executions were restarted from the same one, or neither was restarted. -/
def SameSource (before after : GraphExecution) : Prop :=
  after.restartedFromExecutionId = before.restartedFromExecutionId

omit [SerdeJson] in
theorem GraphRow.Leads.source {row later : GraphRow} (leads : row.Leads later) (sound : row.Sound) :
    SameSource row.execution later.execution :=
  leads.relates sound (fun _ => rfl) (fun _ _ _ first second => Eq.trans second first)
    fun _ _ valid written => (written.kept valid).1.source

omit [SerdeJson] in
theorem GraphsFollow.names (follow : GraphsFollow db after) (sound : SoundGraphs db) {id : GraphRunId}
    (names : db.Names original id) : after.Names original id := by
  obtain ⟨row, found, source⟩ := names
  obtain ⟨later, reached, leads⟩ := follow.kept id row found
  exact ⟨later, reached, Eq.trans (leads.source (sound id row found)) source⟩

theorem Change.names (change : Change db action after) (sound : SoundGraphs db)
    (undirected : submitsRestart original action = false) (other : restarts original action = false) {id : GraphRunId}
    (names : after.Names original id) : db.Names original id := by
  obtain ⟨later, found, source⟩ := names
  cases before : db.graphs.find? id with
  | none =>
    rcases change.adds sound before found source with submitted | restarted
    · rw [undirected] at submitted
      cases submitted
    · rw [other] at restarted
      cases restarted
  | some row =>
    obtain ⟨last, reached, leads⟩ := (change.graphsFollow sound).kept id row before
    obtain rfl := Option.some.inj (reached.symm.trans found)
    exact ⟨row, before, Eq.trans (Eq.symm (leads.source (sound id row before))) source⟩

end Sources

section Calls

/-- What a successful restart of the original does: the execution it returns names the original, and is a fresh one of
its graph when it was not stored before. -/
structure Restarted (db after : Database) (original id : GraphRunId) : Prop where
  names : after.Names original id
  created : db.graphs.find? id = none → ∃ source row, db.graphs.find? original = some source ∧
    after.graphs.find? id = some row ∧ row.execution.graph = source.execution.graph ∧
    row.execution.nodes.map (·.nodeId) = source.execution.graph.nodes.map (·.id) ∧
    (∀ node ∈ row.execution.nodes, node.state = .pending) ∧ row.execution.outputs = []

/-- At most one stored execution names the original. -/
def Database.RestartedOnce (db : Database) (original : GraphRunId) : Prop :=
  ∀ id other, db.Names original id → db.Names original other → id = other

variable [Sha256] [SerdeJson] {db after : Database} {original : GraphRunId}

/-- The daemon answers a restart of the original with the receipt. -/
def DaemonProcess.Answers (process : DaemonProcess) (original : GraphRunId) (action : Action)
    (receipt : GraphExecutionReceipt) : Prop :=
  ∃ now restartedId expected after, action = .command (.restartMissingOutputGraph now restartedId original expected) ∧
    process.service = .serving ∧
    restartMissingOutputGraph process.db now restartedId original expected = .ok (after, receipt)

omit [SerdeJson] in
/-- What a committed restart does to the stored executions. -/
theorem restartMissingOutputGraph_stores {now : Nat} {restartedId : GraphRunId} {expected : Nat}
    {receipt : GraphExecutionReceipt} (sound : SoundGraphs db)
    (committed : restartMissingOutputGraph db now restartedId original expected = .ok (after, receipt)) :
    Restarted db after original receipt.executionId ∧
      (∀ id row, db.graphs.find? id = some row → after.graphs.find? id = some row) ∧
      (db.RestartedOnce original → after.RestartedOnce original) := by
  rcases restartMissingOutputGraph_answers committed with ⟨existing, member, source, rfl, answered⟩ |
    ⟨first, row, baseline, restarted, graphs, found, _, _, _, made, _, inserted, ⟨events, rfl⟩, answered⟩
  · obtain ⟨row, stored, rfl⟩ := mem_storedExecutions.mp member
    have located := Table.find?_mem stored
    have named : row.executionId = receipt.executionId := (sound _ row located).id.trans answered.symm
    rw [named] at located
    refine ⟨⟨⟨row, located, source⟩, fun absent => ?_⟩, fun _ _ found => found, fun once => once⟩
    rw [absent] at located
    cases located
  · have kept := sound _ row found
    have named : row.execution.id = original := kept.id.symm.trans (Table.find?_key found)
    simp only [GraphExecution.restartAs, GraphExecution.start, bind_ok, exists_unit, pure_ok] at made
    obtain ⟨_, _, _, ⟨_, rfl⟩, rfl⟩ := made
    have stored := Table.find?_insert_self inserted
    dsimp only at stored answered
    rw [answered]
    have only : ∀ id, Database.Names { db with graphs, events } original id → id = restartedId := by
      rintro id ⟨later, located, source⟩
      dsimp only at located
      rw [Table.find?_insert inserted] at located
      split_ifs at located with same
      · exact same
      · exact absurd source (first _ (mem_storedExecutions.mpr ⟨later, Table.mem_of_find? located, rfl⟩))
    refine ⟨⟨⟨_, stored, congrArg some named⟩, fun _ => ⟨row, _, found, stored, rfl, ?_, ?_, rfl⟩⟩,
      fun _ _ held => Table.find?_insert_of_some inserted held, fun _ id other names second => ?_⟩
    · simp
    · simp
    · exact (only id names).trans (only other second).symm

namespace DaemonProcess

variable {process : DaemonProcess} {action : Action}

/-- A step that restarts the original leaves the database as it was, or commits the restart. -/
theorem next_restart (restart : restarts original action = true) :
    (process.next action).db = process.db ∨ ∃ now restartedId expected receipt,
      restartMissingOutputGraph process.db now restartedId original expected =
        .ok ((process.next action).db, receipt) := by
  unfold restarts at restart
  split at restart
  · rename_i now restartedId originalId expected
    obtain rfl := of_decide_eq_true restart
    simp only [next]
    rcases commit_cases process
      (execute process.db (.restartMissingOutputGraph now restartedId originalId expected)) _ with
      ⟨db, _, committed, same⟩ | ⟨_, same⟩
    · simp only [execute, bind_ok, pure_ok, Prod.exists, exists_and_right, exists_eq_right] at committed
      obtain ⟨receipt, committed⟩ := committed
      rw [same]
      exact .inr ⟨now, restartedId, expected, receipt, committed⟩
    · rw [same]
      exact .inl rfl
  · cases restart

/-- An answer is the receipt of a restart that this step commits. -/
theorem Answers.commits {receipt : GraphExecutionReceipt} (answers : process.Answers original action receipt) :
    ∃ now restartedId expected, restartMissingOutputGraph process.db now restartedId original expected =
      .ok ((process.next action).db, receipt) := by
  obtain ⟨now, restartedId, expected, after, rfl, serving, committed⟩ := answers
  refine ⟨now, restartedId, expected, ?_⟩
  have executed : execute process.db (.restartMissingOutputGraph now restartedId original expected) = .ok after := by
    simp only [execute, committed, ok_bind]
    rfl
  simp only [next, commit, serving, executed]
  exact committed

/-- A restart stores at most a new execution, whatever it answers. -/
theorem restart_keeps (sound : SoundGraphs process.db) (restart : restarts original action = true) {id : GraphRunId}
    {row : GraphRow} (found : process.db.graphs.find? id = some row) :
    (process.next action).db.graphs.find? id = some row := by
  rcases next_restart restart with same | ⟨_, _, _, _, committed⟩
  · rw [same]
    exact found
  · exact (restartMissingOutputGraph_stores sound committed).2.1 id row found

/-- No step adds a second execution that names the original, unless a client submits it. -/
theorem next_once (sound : SoundGraphs process.db) (undirected : submitsRestart original action = false)
    (once : process.db.RestartedOnce original) : (process.next action).db.RestartedOnce original := by
  cases restart : restarts original action with
  | true =>
    rcases next_restart restart with same | ⟨_, _, _, _, committed⟩
    · rw [same]
      exact once
    · exact (restartMissingOutputGraph_stores sound committed).2.2 once
  | false =>
    rcases process.next_change action with same | change
    · rw [same]
      exact once
    · exact fun id other first second =>
        once id other (change.names sound undirected restart first) (change.names sound undirected restart second)

/-- Whatever named the original on the way names it still. -/
theorem run_names (sound : SoundGraphs process.db) (actions : List Action) {id : GraphRunId}
    (names : process.db.Names original id) : (process.run actions).db.Names original id :=
  (run_graphsFollow sound actions).names sound names

theorem run_once (actions : List Action) (undirected : ∀ action ∈ actions, submitsRestart original action = false)
    (sound : SoundGraphs process.db) (once : process.db.RestartedOnce original) :
    (process.run actions).db.RestartedOnce original := by
  induction actions generalizing process with
  | nil => exact once
  | cons first rest ih =>
    exact ih (fun action member => undirected action (List.mem_cons_of_mem _ member))
      (SoundGraphs.next process first sound) (next_once sound (undirected first List.mem_cons_self) once)

end DaemonProcess

end Calls

section Runs

variable [Sha256] [SerdeJson]

/-- Along every run in which no client submits an execution that names the original, at most one execution ever names
it, every restart that is answered returns that one, made afresh from the original's graph, and no restart changes a
stored execution. -/
theorem restart_idempotent (actions : List Action) (original : GraphRunId)
    (undirected : ∀ action ∈ actions, submitsRestart original action = false) :
    (∀ taken later id other, taken <+: actions → later <+: actions →
      (DaemonProcess.fresh.run taken).db.Names original id → (DaemonProcess.fresh.run later).db.Names original other →
        id = other) ∧
    (∀ taken action receipt, taken ++ [action] <+: actions →
      (DaemonProcess.fresh.run taken).Answers original action receipt →
        Restarted (DaemonProcess.fresh.run taken).db (DaemonProcess.fresh.run (taken ++ [action])).db original
          receipt.executionId) ∧
    (∀ taken action first later again second, taken ++ [action] <+: actions → later ++ [again] <+: actions →
      (DaemonProcess.fresh.run taken).Answers original action first →
        (DaemonProcess.fresh.run later).Answers original again second → first.executionId = second.executionId) ∧
    ∀ taken action, taken ++ [action] <+: actions → restarts original action = true →
      ∀ id row, (DaemonProcess.fresh.run taken).db.graphs.find? id = some row →
        (DaemonProcess.fresh.run (taken ++ [action])).db.graphs.find? id = some row := by
  have once : (DaemonProcess.fresh.run actions).db.RestartedOnce original := by
    apply DaemonProcess.run_once actions undirected SoundGraphs.fresh
    rintro id other ⟨row, found, _⟩
    cases found
  have remains : ∀ taken id, taken <+: actions → (DaemonProcess.fresh.run taken).db.Names original id →
      (DaemonProcess.fresh.run actions).db.Names original id := by
    rintro taken id ⟨rest, rfl⟩ names
    have further : DaemonProcess.fresh.run (taken ++ rest) = (DaemonProcess.fresh.run taken).run rest :=
      Machine.run_append _ taken rest
    rw [further]
    exact DaemonProcess.run_names (SoundGraphs.fresh.run taken) rest names
  have single : ∀ taken later id other, taken <+: actions → later <+: actions →
      (DaemonProcess.fresh.run taken).db.Names original id → (DaemonProcess.fresh.run later).db.Names original other →
        id = other :=
    fun taken later id other begins starts first second =>
      once id other (remains taken id begins first) (remains later other starts second)
  have last : ∀ taken action, DaemonProcess.fresh.run (taken ++ [action]) =
      (DaemonProcess.fresh.run taken).next action :=
    fun taken action => Machine.run_append _ taken [action]
  have answered : ∀ taken action receipt, (DaemonProcess.fresh.run taken).Answers original action receipt →
      Restarted (DaemonProcess.fresh.run taken).db (DaemonProcess.fresh.run (taken ++ [action])).db original
        receipt.executionId := by
    intro taken action receipt answers
    obtain ⟨_, _, _, committed⟩ := answers.commits
    rw [last]
    exact (restartMissingOutputGraph_stores (SoundGraphs.fresh.run taken) committed).1
  refine ⟨single, fun taken action receipt _ => answered taken action receipt, ?_, ?_⟩
  · intro taken action first later again second begins starts one two
    exact single _ _ _ _ begins starts (answered taken action first one).names (answered later again second two).names
  · intro taken action _ restart id row found
    rw [last]
    exact DaemonProcess.restart_keeps (SoundGraphs.fresh.run taken) restart found

/-- The accepted decision's nodes succeed without an output, and its execution is restarted twice. -/
def restartedTwice : List Action :=
  firstRun.take 2 ++
    [.command (.claimGraphNodes 6 (nth 24) 0 "scheduler" 2),
      .command (.completeGraphNode 7 (nth 24) 1 (nth 21) "scheduler" true),
      .command (.completeGraphNode 7 (nth 24) 2 (nth 22) "scheduler" true),
      .command (.claimGraphNodes 8 (nth 24) 3 "scheduler" 2),
      .command (.completeGraphNode 8 (nth 24) 4 (nth 23) "scheduler" true),
      .command (.restartMissingOutputGraph 9 (nth 40) (nth 24) 5),
      .command (.restartMissingOutputGraph 10 (nth 41) (nth 24) 5)]

omit [Sha256] [SerdeJson] in
theorem restart_idempotent_twice :
    let reached (count : Nat) := @DaemonProcess.run (.table []) SerdeJson.compact .fresh (restartedTwice.take count)
    ∃ first second,
      @DaemonProcess.Answers (.table []) (reached 7) (nth 24)
        (.command (.restartMissingOutputGraph 9 (nth 40) (nth 24) 5)) first ∧
      @DaemonProcess.Answers (.table []) (reached 8) (nth 24)
        (.command (.restartMissingOutputGraph 10 (nth 41) (nth 24) 5)) second ∧
      first.executionId = second.executionId := by
  intro reached
  obtain ⟨undirected, serving, answers, still, repeats⟩ :
      (∀ action ∈ restartedTwice, submitsRestart (nth 24) action = false) ∧
      (reached 7).service = .serving ∧
      isOk (@restartMissingOutputGraph (.table []) (reached 7).db 9 (nth 40) (nth 24) 5) = true ∧
      (reached 8).service = .serving ∧
      isOk (@restartMissingOutputGraph (.table []) (reached 8).db 10 (nth 41) (nth 24) 5) = true := by
    decide +kernel
  obtain ⟨⟨after, first⟩, committed⟩ := isOk_iff.mp answers
  obtain ⟨⟨last, second⟩, repeated⟩ := isOk_iff.mp repeats
  have one : @DaemonProcess.Answers (.table []) (reached 7) (nth 24)
      (.command (.restartMissingOutputGraph 9 (nth 40) (nth 24) 5)) first :=
    ⟨9, nth 40, 5, after, rfl, serving, committed⟩
  have two : @DaemonProcess.Answers (.table []) (reached 8) (nth 24)
      (.command (.restartMissingOutputGraph 10 (nth 41) (nth 24) 5)) second :=
    ⟨10, nth 41, 5, last, rfl, still, repeated⟩
  have idempotent := @restart_idempotent (.table []) SerdeJson.compact restartedTwice (nth 24) undirected
  exact ⟨first, second, one, two, idempotent.2.2.1 _ _ _ _ _ _ (List.take_prefix 8 restartedTwice)
    (List.prefix_refl _) one two⟩

end Runs

end Bastet.Daemon
