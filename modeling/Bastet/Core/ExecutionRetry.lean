import Bastet.Core.ExecutionHistory

/-! How far a retry reaches: it reopens the failed node, what depends on it, and every blocked
node that no failed, cancelled or blocked dependency holds back, whichever branch it is on. -/

set_option autoImplicit false

namespace Bastet.Core

open Fallible Lookup GraphExecution

namespace GraphExecution

variable {self next : GraphExecution} {nodeId id : GraphNodeId}

/-- The node itself, and the nodes that depend on it, directly or transitively. -/
def Downstream (graph : WorkflowGraph) (nodeId id : GraphNodeId) : Prop :=
  Relation.ReflTransGen (Needs graph) id nodeId

/-- Every record outside the branch below a node is as it was. -/
def Confined (nodeId : GraphNodeId) (before after : GraphExecution) : Prop :=
  ∀ id, ¬Downstream before.graph nodeId id → after.node? id = before.node? id

/-- A node is blocked although nothing it needs failed, was cancelled or is blocked: its own run
ended blocked. -/
def EndedBlocked (self : GraphExecution) (id : GraphNodeId) : Prop :=
  ∃ definition node, self.definition? id = some definition ∧ self.node? id = some node ∧ node.state = .blocked ∧
    ∀ dependency ∈ definition.needs, ∀ other, self.node? dependency = some other → other.state.blocks = false

theorem endedBlocked_iff (aligned : self.Aligned) :
    self.EndedBlocked id ↔ id ∈ reopenable self.graph (snapshot self.nodes) := by
  simp only [reopenable_iff, snapshot_eq aligned.distinct]
  constructor
  · rintro ⟨definition, node, known, found, blocked, free⟩
    obtain ⟨member, same⟩ := find_some known
    have snapped : (self.node? id).map (·.state) = some .blocked := by
      rw [found, Option.map_some, blocked]
    refine ⟨definition, member, same, snapped, fun dependency needed state recorded => ?_⟩
    obtain ⟨other, present, rfl⟩ := Option.map_eq_some_iff.mp recorded
    exact free dependency needed other present
  · rintro ⟨definition, member, rfl, blocked, free⟩
    obtain ⟨node, found, state⟩ := Option.map_eq_some_iff.mp blocked
    refine ⟨definition, node, find_of_mem aligned.defined member, found, state, fun dependency needed other present => ?_⟩
    exact free dependency needed other.state (congrArg (Option.map (·.state)) present)

/-- What a node outside the branch needs is outside the branch too. -/
theorem Downstream.of_needs {graph : WorkflowGraph} {dependency : GraphNodeId} (needed : Needs graph id dependency)
    (below : Downstream graph nodeId dependency) : Downstream graph nodeId id :=
  Relation.ReflTransGen.head needed below

/-- Nodes of a safe execution that depend on an impeded node are blocked by what they need. -/
theorem Safe.not_endedBlocked (aligned : self.Aligned) (safe : self.Safe) (below : Downstream self.graph nodeId id)
    (failed : self.stageOf nodeId = .broken) : ¬self.EndedBlocked id := by
  rintro ⟨definition, node, known, found, blocked, free⟩
  -- every node of the chain down to `id` is impeded
  have impeded : (self.stageOf id).impedes ∧ (id = nodeId ∨ ∃ dependency, Needs self.graph id dependency ∧
      (self.stageOf dependency).impedes) := by
    clear known found blocked free
    induction below using Relation.ReflTransGen.head_induction_on with
    | refl =>
      rw [failed]
      exact ⟨trivial, .inl rfl⟩
    | head needed _ ih =>
      rw [safe.contained _ _ needed ih.1]
      exact ⟨trivial, .inr ⟨_, needed, ih.1⟩⟩
  rcases impeded.2 with rfl | ⟨dependency, needed, stopped⟩
  · rw [stageOf_some found, blocked] at failed
    cases failed
  · unfold stageOf at stopped
    cases present : self.node? dependency with
    | none =>
      rw [present] at stopped
      exact stopped
    | some other =>
      rw [present] at stopped
      have unblocked := free dependency ((aligned.needs_iff known).mp needed) other present
      rw [GraphNodeState.blocks_iff.mpr stopped] at unblocked
      cases unblocked

/-- An execution that agrees with another on a node and on what the node needs has it end blocked too. -/
theorem EndedBlocked.congr (ended : self.EndedBlocked id) (graph : next.graph = self.graph)
    (same : next.node? id = self.node? id)
    (needs : ∀ dependency, Needs self.graph id dependency → next.node? dependency = self.node? dependency) :
    next.EndedBlocked id := by
  obtain ⟨definition, node, known, found, blocked, free⟩ := ended
  refine ⟨definition, node, ?_, same.trans found, blocked, fun dependency needed other present => ?_⟩
  · unfold definition?
    rw [graph]
    exact known
  · obtain ⟨member, named⟩ := find_some known
    rw [needs dependency ⟨definition, member, named, needed⟩] at present
    exact free dependency needed other present

/-- A retry reopens every node that ended blocked, and outside the branch of the retried node nothing else. -/
theorem retryFailed_reach (aligned : self.Aligned) {node : GraphNodeExecution} (found : self.node? nodeId = some node)
    (failed : node.state = .failed) :
    ∃ next, self.retryFailed nodeId = .ok next ∧ Frame self next ∧ (∀ id, ¬next.EndedBlocked id) ∧
      ((∀ id, ¬self.EndedBlocked id) → Confined nodeId self next) := by
  have first := modifyFirst_reset self.nodes nodeId
  -- the loop works on node lists: an execution around each list says what a round keeps
  let around (nodes : List GraphNodeExecution) : GraphExecution := { self with nodes }
  have rounds : ∀ middle after,
      (middle.map (·.nodeId) = self.nodes.map (·.nodeId) ∧
        ((∀ id, ¬self.EndedBlocked id) → Confined nodeId self (around middle))) →
      Reset middle after (reopenable self.graph (snapshot middle)) →
      after.map (·.nodeId) = self.nodes.map (·.nodeId) ∧
        ((∀ id, ¬self.EndedBlocked id) → Confined nodeId self (around after)) := by
    rintro middle after ⟨keys, confined⟩ spec
    have frame : Frame self (around middle) := ⟨rfl, rfl, rfl, keys⟩
    refine ⟨spec.keys.trans keys, fun none id outside => ?_⟩
    have unchosen : id ∉ reopenable self.graph (snapshot middle) := by
      intro chosen
      have ended : (around middle).EndedBlocked id := (endedBlocked_iff (aligned.frame frame)).mpr chosen
      refine none id (ended.congr rfl (confined none id outside).symm fun dependency needed => ?_)
      exact (confined none dependency fun below => outside (.of_needs needed below)).symm
    have looked := spec.lookup id
    rw [if_neg unchosen] at looked
    exact looked.trans (confined none id outside)
  have opened : Confined nodeId self (around (modifyFirst (·.nodeId) nodeId reset self.nodes)) := by
    intro id outside
    have looked := first.lookup id
    have apart : id ∉ [nodeId] := by
      intro member
      exact outside (List.mem_singleton.mp member ▸ .refl)
    rw [if_neg apart] at looked
    exact looked
  obtain ⟨nodes, ran, ⟨keys, confined⟩, -⟩ :=
    reopenLoop_preserves aligned.defined rounds (self.nodes.length + 1) ⟨first.keys, fun _ => opened⟩
  have retried : self.retryFailed nodeId = .ok { self with nodes, revision := bump self.revision } := by
    simp [retryFailed, found, failed, ran, okOr, rejectIf, pure, Except.pure]
  refine ⟨_, retried, ⟨rfl, rfl, rfl, keys⟩, fun id ended => ?_, confined⟩
  have frame : Frame self { self with nodes, revision := bump self.revision } := ⟨rfl, rfl, rfl, keys⟩
  have distinct : ((modifyFirst (·.nodeId) nodeId reset self.nodes).map (·.nodeId)).Nodup :=
    first.keys ▸ aligned.distinct
  have enough : (modifyFirst (·.nodeId) nodeId reset self.nodes).countP (fun node => decide (node.state = .blocked)) <
      self.nodes.length + 1 := by
    have counted := @List.countP_le_length _ (fun node : GraphNodeExecution => decide (node.state = .blocked))
      (modifyFirst (·.nodeId) nodeId reset self.nodes)
    rw [length_modifyFirst] at counted
    omega
  have settled := reopenLoop_settled aligned.defined distinct enough ran
  have chosen := (endedBlocked_iff (aligned.frame frame)).mp ended
  rw [settled] at chosen
  cases chosen

theorem retryFailed_confined_iff (aligned : self.Aligned) (safe : self.Safe) {node : GraphNodeExecution}
    (found : self.node? nodeId = some node) (failed : node.state = .failed) :
    ∃ next, self.retryFailed nodeId = .ok next ∧ (Confined nodeId self next ↔ ∀ id, ¬self.EndedBlocked id) := by
  obtain ⟨next, retried, frame, none, confined⟩ := retryFailed_reach aligned found failed
  refine ⟨next, retried, fun kept id ended => ?_, confined⟩
  have broken : self.stageOf nodeId = .broken := by
    rw [stageOf_some found, failed]
    rfl
  have outside : ¬Downstream self.graph nodeId id := fun below => safe.not_endedBlocked aligned below broken ended
  refine none id (ended.congr frame.graph (kept id outside) fun dependency needed => ?_)
  exact kept dependency fun below => outside (.of_needs needed below)

end GraphExecution

/-- A retry stays within the branch of the failed node exactly when no node's own run ended blocked, in
every state reached. -/
theorem retry_confined_iff [Sha256] (id : GraphRunId) (graph : WorkflowGraph) (started : GraphExecution)
    (accepted : GraphExecution.start id graph = .ok started) (operations : List Operation) :
    let reached := Machine.run Operation.leave started operations
    ∀ nodeId node, reached.node? nodeId = some node → node.state = .failed →
      ∃ next, reached.retryFailed nodeId = .ok next ∧
        (Confined nodeId reached next ↔ ∀ other, ¬reached.EndedBlocked other) := by
  obtain ⟨aligned, safe⟩ := GraphExecution.start_aligned accepted
  have begun : Operation.Invariant started := ⟨aligned, safe⟩
  have reached := Machine.run_preserves Operation.apply_invariant begun operations
  rw [Operation.run_leave begun]
  intro _ nodeId node found failed
  exact retryFailed_confined_iff reached.aligned reached.safe found failed

theorem retry_confined_iff_branches :
    let digests := Sha256.table []
    let started : GraphExecution := ⟨⟨60⟩, branchesUnderJoin,
      [⟨⟨51⟩, .pending, none, 0, none, none⟩, ⟨⟨52⟩, .pending, none, 0, none, none⟩,
        ⟨⟨53⟩, .pending, none, 0, none, none⟩], [], none, 0⟩
    let reached := Machine.run (@Operation.leave digests) started
      [.claimReady "scheduler" 2, .complete ⟨52⟩ "scheduler" true, .complete ⟨51⟩ "scheduler" false]
    ∃ next, reached.retryFailed ⟨51⟩ = .ok next ∧
      (Confined ⟨51⟩ reached next ↔ ∀ other, ¬reached.EndedBlocked other) := by
  intro digests started reached
  exact @retry_confined_iff digests ⟨60⟩ branchesUnderJoin started (by decide)
    [.claimReady "scheduler" 2, .complete ⟨52⟩ "scheduler" true, .complete ⟨51⟩ "scheduler" false]
    ⟨51⟩ ⟨⟨51⟩, .failed, some "scheduler", 2, none, none⟩ (by decide) rfl

/-- The run of one branch ended blocked, that of the other failed: retrying the second reopens the first. -/
theorem retry_reopens_other_branch :
    let digests := Sha256.table []
    let started : GraphExecution := ⟨⟨60⟩, branchesUnderJoin,
      [⟨⟨51⟩, .pending, none, 0, none, none⟩, ⟨⟨52⟩, .pending, none, 0, none, none⟩,
        ⟨⟨53⟩, .pending, none, 0, none, none⟩], [], none, 0⟩
    let reached := Machine.run (@Operation.leave digests) started
      [.claimReady "scheduler" 2, .bindRun ⟨51⟩ "scheduler" ⟨7⟩, .bindRun ⟨52⟩ "scheduler" ⟨8⟩,
        .finishTerminal ⟨51⟩ "scheduler" .blocked none, .finishTerminal ⟨52⟩ "scheduler" .failed none]
    GraphExecution.start ⟨60⟩ branchesUnderJoin = .ok started ∧
      reached.node? ⟨51⟩ = some ⟨⟨51⟩, .blocked, none, 2, some ⟨7⟩, none⟩ ∧
      ¬Downstream branchesUnderJoin ⟨52⟩ ⟨51⟩ ∧
      let next : GraphExecution := ⟨⟨60⟩, branchesUnderJoin,
        [⟨⟨51⟩, .pending, none, 3, none, none⟩, ⟨⟨52⟩, .pending, none, 3, none, none⟩,
          ⟨⟨53⟩, .pending, none, 2, none, none⟩], [], none, 4⟩
      reached.retryFailed ⟨52⟩ = .ok next ∧ ¬Confined ⟨52⟩ reached next := by
  intro digests started reached
  have apart : ¬Downstream branchesUnderJoin ⟨52⟩ ⟨51⟩ := by
    intro below
    rcases Relation.ReflTransGen.cases_head below with same | ⟨_, ⟨definition, member, named, needed⟩, _⟩
    · exact absurd same (by decide)
    · -- the first branch needs nothing
      simp only [branchesUnderJoin, List.mem_cons, List.not_mem_nil, or_false] at member
      rcases member with rfl | rfl | rfl
      · cases needed
      · cases needed
      · exact absurd named (by decide)
  have ended : reached.node? ⟨51⟩ = some ⟨⟨51⟩, .blocked, none, 2, some ⟨7⟩, none⟩ := by decide
  refine ⟨by decide, ended, apart, by decide, fun confined => ?_⟩
  have kept := (confined ⟨51⟩ apart).trans ended
  cases kept

end Bastet.Core
