import Bastet.Core.ExecutionWrites

/-! Nodes that wait for an approval: nothing but the answer to it moves them. -/

set_option autoImplicit false

namespace Bastet.Core

open Fallible Lookup GraphExecution

/-- The run whose approval the operation answers. -/
def Operation.answers : Operation → Option RunId
  | .activateStagedNode _ _ runId => some runId
  | .cancelStagedNode _ _ runId => some runId
  | _ => none

theorem Transition.awaiting {operation : Operation} {node later : GraphNodeExecution}
    (moves : Transition operation node later) (awaiting : node.state = .awaitingApproval) :
    later = node ∨ operation.answers = node.runId := by
  cases moves with
  | kept => exact .inl rfl
  | activated _ _ bound | cancelled _ _ bound => exact .inr bound.symm
  | claimedReady pending | claimed pending => rw [pending] at awaiting; cases awaiting
  | staged _ pending => rw [pending] at awaiting; cases awaiting
  | bound running | completed running => rw [running] at awaiting; cases awaiting
  | finished _ running => rw [running] at awaiting; cases awaiting
  | retried failed => rw [failed] at awaiting; cases awaiting
  | reopened blocked => rw [blocked] at awaiting; cases awaiting
  | blocked _ pending => rw [pending] at awaiting; cases awaiting
  | reconciled running => rw [running] at awaiting; cases awaiting

/-- The nodes that wait for the approval of a run still wait for it, and are the same. -/
def StillAwaits (runId : RunId) (before after : GraphExecution) : Prop :=
  ∀ nodeId node, before.node? nodeId = some node → node.state = .awaitingApproval → node.runId = some runId →
    after.node? nodeId = some node

namespace StillAwaits

variable {runId : RunId} {before after last : GraphExecution}

theorem refl (before : GraphExecution) : StillAwaits runId before before :=
  fun _ _ found _ _ => found

theorem trans (first : StillAwaits runId before after) (second : StillAwaits runId after last) :
    StillAwaits runId before last :=
  fun nodeId node found awaiting bound => second nodeId node (first nodeId node found awaiting bound) awaiting bound

theorem of_transitions {operation : Operation} (moves : Transitions operation before after)
    (other : operation.answers ≠ some runId) : StillAwaits runId before after := by
  intro nodeId node found awaiting bound
  obtain ⟨later, reached, moved⟩ := moves nodeId node found
  rcases moved.awaiting awaiting with rfl | answered
  · exact reached
  · exact absurd (answered.trans bound) other

theorem of_nodes (same : after.nodes = before.nodes) : StillAwaits runId before after := by
  intro nodeId node found _ _
  unfold node?
  rw [same]
  exact found

end StillAwaits

section Lapses

/-- What the cancellation of overdue launches leaves of a node: a node that waits for one of them is cancelled, and
a pending node that depends on such a node is blocked. -/
inductive Lapsed (overdue : RunId → Prop) (execution : GraphExecution) (nodeId : GraphNodeId)
    (node : GraphNodeExecution) : GraphNodeExecution → Prop
  | kept : Lapsed overdue execution nodeId node node
  | cancelled {runId : RunId} {later : GraphNodeExecution} (awaiting : node.state = .awaitingApproval)
      (bound : node.runId = some runId) (late : overdue runId) (state : later.state = .cancelled) :
      Lapsed overdue execution nodeId node later
  | blocked {cause : GraphNodeId} {staged later : GraphNodeExecution} {runId : RunId} (pending : node.state = .pending)
      (needs : Relation.TransGen (Needs execution.graph) nodeId cause) (found : execution.node? cause = some staged)
      (awaiting : staged.state = .awaitingApproval) (bound : staged.runId = some runId) (late : overdue runId)
      (state : later.state = .blocked) : Lapsed overdue execution nodeId node later

/-- The nodes of an execution before and after the cancellation of overdue launches. -/
structure Lapses (overdue : RunId → Prop) (before after : GraphExecution) : Prop where
  frame : Frame before after
  node : ∀ id node, before.node? id = some node →
    ∃ later, after.node? id = some later ∧ Lapsed overdue before id node later

variable {overdue : RunId → Prop} {before after last : GraphExecution}

/-- A node that the cancellation left in another state was in it before, and is the same. -/
theorem Lapses.unchanged (lapses : Lapses overdue before after) {id : GraphNodeId} {later : GraphNodeExecution}
    (found : after.node? id = some later) (live : later.state ≠ .cancelled) (free : later.state ≠ .blocked) :
    before.node? id = some later := by
  have known : id ∈ before.nodes.map (·.nodeId) := by
    rw [← lapses.frame.keys, ← (find_some found).2]
    exact List.mem_map_of_mem (find_some found).1
  obtain ⟨node, located⟩ := exists_of_mem_keys known
  obtain ⟨other, reached, lapsed⟩ := lapses.node id node located
  obtain rfl := Option.some.inj (reached.symm.trans found)
  cases lapsed with
  | kept => exact located
  | cancelled _ _ _ state => exact absurd state live
  | blocked _ _ _ _ _ _ state => exact absurd state free

namespace Lapses

theorem refl (before : GraphExecution) : Lapses overdue before before :=
  ⟨.refl before, fun _ node found => ⟨node, found, .kept⟩⟩

theorem trans (first : Lapses overdue before after) (second : Lapses overdue after last) :
    Lapses overdue before last := by
  refine ⟨first.frame.trans second.frame, fun id node found => ?_⟩
  obtain ⟨middle, reached, lapsed⟩ := first.node id node found
  obtain ⟨later, ended, again⟩ := second.node id middle reached
  refine ⟨later, ended, ?_⟩
  cases again with
  | kept => exact lapsed
  | cancelled awaiting bound late state =>
    have same : before.node? id = some middle := first.unchanged reached (by simp [awaiting]) (by simp [awaiting])
    obtain rfl := Option.some.inj (found.symm.trans same)
    exact .cancelled awaiting bound late state
  | @blocked cause staged _ runId pending needs located awaiting bound late state =>
    cases lapsed with
    | kept =>
      have waited : before.node? cause = some staged :=
        first.unchanged located (by simp [awaiting]) (by simp [awaiting])
      exact .blocked pending (first.frame.graph ▸ needs) waited awaiting bound late state
    | cancelled _ _ _ other | blocked _ _ _ _ _ _ other =>
      rw [other] at pending
      cases pending

/-- The cancellation of one staged node. -/
theorem of_cancelled {nodeId : GraphNodeId} {owner : String} {runId : RunId}
    (cancelled : before.cancelStagedNode nodeId owner runId = .ok after) (late : overdue runId) :
    Lapses overdue before after := by
  obtain ⟨staged, located, awaiting, _, bound, rfl⟩ := cancelStagedNode_ok cancelled
  have kept : ∀ node, (cancel node).nodeId = node.nodeId := fun _ => rfl
  obtain ⟨affected, -, -, depends, lookup⟩ := blockDependents_spec (before.updateNode nodeId cancel) nodeId
  refine ⟨(frame_updateNode kept).trans (frame_blockDependents _ nodeId), fun id node found => ?_⟩
  rw [lookup id, node?_updateNode kept]
  by_cases same : id = nodeId
  · subst same
    obtain rfl := Option.some.inj (located.symm.trans found)
    refine ⟨cancel staged, by simp [found], .cancelled awaiting bound late rfl⟩
  · rw [if_neg same, found]
    by_cases inside : id ∈ affected ∧ id ≠ nodeId
    · refine ⟨block node, by rw [if_pos inside, Option.map_some], ?_⟩
      by_cases pending : node.state = .pending
      · have needs : Relation.TransGen (Needs before.graph) id nodeId :=
          (Relation.reflTransGen_iff_eq_or_transGen.mp (depends id inside.1)).resolve_left fun equal => same equal.symm
        exact .blocked pending needs located awaiting bound late (by rw [block, if_pos pending])
      · rw [block, if_neg pending]
        exact .kept
    · exact ⟨node, by rw [if_neg inside], .kept⟩

/-- The nodes that wait for a launch that is not overdue still wait for it. -/
theorem stillAwaits {runId : RunId} (lapses : Lapses overdue before after) (spared : ¬overdue runId) :
    StillAwaits runId before after := by
  intro nodeId node found awaiting bound
  obtain ⟨later, reached, lapsed⟩ := lapses.node nodeId node found
  cases lapsed with
  | kept => exact reached
  | cancelled _ other late => exact absurd (Option.some.inj (bound.symm.trans other) ▸ late) spared
  | blocked pending =>
    rw [pending] at awaiting
    cases awaiting

end Lapses

end Lapses

end Bastet.Core
