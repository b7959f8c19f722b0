import Bastet.Core.ExecutionWaiting

/-! What the cancellation of staged nodes makes of an execution, exactly: the nodes themselves are cancelled, the
pending nodes that depend on one of them are blocked, and the others stay. The order of cancellation is lost. -/

set_option autoImplicit false

namespace Bastet.Core

open Fallible Lookup GraphExecution

section Nodes

variable {graph : WorkflowGraph} {doomed further : GraphNodeId → Prop} {node : GraphNodeExecution}

open Classical in
/-- A doomed node is cancelled; a node that depends on one is blocked if it is pending. -/
noncomputable def lapseNode (graph : WorkflowGraph) (doomed : GraphNodeId → Prop) (node : GraphNodeExecution) :
    GraphNodeExecution :=
  if doomed node.nodeId then cancel node
  else if ∃ cause, doomed cause ∧ Relation.TransGen (Needs graph) node.nodeId cause then block node
  else node

theorem lapseNode_doomed (falls : doomed node.nodeId) : lapseNode graph doomed node = cancel node :=
  if_pos falls

theorem lapseNode_depends (stands : ¬doomed node.nodeId) {cause : GraphNodeId} (falls : doomed cause)
    (needs : Relation.TransGen (Needs graph) node.nodeId cause) : lapseNode graph doomed node = block node := by
  rw [lapseNode, if_neg stands, if_pos ⟨cause, falls, needs⟩]

theorem lapseNode_other (stands : ¬doomed node.nodeId)
    (apart : ∀ cause, doomed cause → ¬Relation.TransGen (Needs graph) node.nodeId cause) :
    lapseNode graph doomed node = node := by
  rw [lapseNode, if_neg stands, if_neg]
  rintro ⟨cause, falls, needs⟩
  exact apart cause falls needs

theorem block_nodeId (node : GraphNodeExecution) : (block node).nodeId = node.nodeId := by
  unfold block
  split <;> rfl

theorem block_of_not_pending (other : node.state ≠ .pending) : block node = node :=
  if_neg other

theorem block_not_pending (node : GraphNodeExecution) : (block node).state ≠ .pending := by
  unfold block
  split
  · simp
  · assumption

/-- Cancelling and blocking keep the node and the run it is bound to. -/
theorem lapseNode_kept (graph : WorkflowGraph) (doomed : GraphNodeId → Prop) (node : GraphNodeExecution) :
    (lapseNode graph doomed node).nodeId = node.nodeId ∧ (lapseNode graph doomed node).runId = node.runId := by
  unfold lapseNode
  split
  · exact ⟨rfl, rfl⟩
  · split
    · unfold block
      split <;> exact ⟨rfl, rfl⟩
    · exact ⟨rfl, rfl⟩

/-- A node that still waits for its approval was passed by. -/
theorem lapseNode_awaiting (awaiting : (lapseNode graph doomed node).state = .awaitingApproval) :
    lapseNode graph doomed node = node ∧ ¬doomed node.nodeId := by
  unfold lapseNode at awaiting ⊢
  split
  · rename_i falls
    rw [if_pos falls] at awaiting
    cases awaiting
  · rename_i stands
    rw [if_neg stands] at awaiting
    refine ⟨?_, stands⟩
    split
    · rename_i needs
      rw [if_pos needs] at awaiting
      unfold block at awaiting ⊢
      split
      · rename_i pending
        rw [if_pos pending] at awaiting
        cases awaiting
      · rfl
    · rfl

/-- Two cancellations in turn are one, if what falls second still waited after the first. -/
theorem lapseNode_twice (staged : further node.nodeId → (lapseNode graph doomed node).state = .awaitingApproval) :
    lapseNode graph further (lapseNode graph doomed node) =
      lapseNode graph (fun id => doomed id ∨ further id) node := by
  have named := (lapseNode_kept graph doomed node).1
  by_cases second : further node.nodeId
  · obtain ⟨same, _⟩ := lapseNode_awaiting (staged second)
    rw [same, lapseNode_doomed second, lapseNode_doomed (.inr second)]
  have passed : ¬further (lapseNode graph doomed node).nodeId := named ▸ second
  by_cases first : doomed node.nodeId
  · -- what was cancelled is not pending, so nothing blocks it
    have cancelled : lapseNode graph doomed node = cancel node := lapseNode_doomed first
    have both : lapseNode graph (fun id => doomed id ∨ further id) node = cancel node := lapseNode_doomed (.inl first)
    rw [both, ← cancelled]
    rw [lapseNode, if_neg passed]
    split
    · exact block_of_not_pending (by rw [cancelled]; simp [cancel])
    · rfl
  have stands : ¬(doomed node.nodeId ∨ further node.nodeId) := by simp [first, second]
  by_cases early : ∃ cause, doomed cause ∧ Relation.TransGen (Needs graph) node.nodeId cause
  · obtain ⟨cause, falls, needs⟩ := early
    have blocked : lapseNode graph doomed node = block node := lapseNode_depends first falls needs
    have both : lapseNode graph (fun id => doomed id ∨ further id) node = block node :=
      lapseNode_depends stands (.inl falls) needs
    rw [both, ← blocked]
    rw [lapseNode, if_neg passed]
    split
    · exact block_of_not_pending (by rw [blocked]; exact block_not_pending node)
    · rfl
  · have same : lapseNode graph doomed node = node :=
      lapseNode_other first fun cause falls needs => early ⟨cause, falls, needs⟩
    rw [same]
    unfold lapseNode
    rw [if_neg second, if_neg stands]
    congr 1
    apply propext
    constructor
    · rintro ⟨cause, falls, needs⟩
      exact ⟨cause, .inr falls, needs⟩
    · rintro ⟨cause, falls | falls, needs⟩
      · exact absurd ⟨cause, falls, needs⟩ early
      · exact ⟨cause, falls, needs⟩

end Nodes

/-- The doomed nodes of an execution were cancelled; but for the nodes and the revision it is what it was. -/
def LapsesExactly (doomed : GraphNodeId → Prop) (before after : GraphExecution) : Prop :=
  after = { before with nodes := before.nodes.map (lapseNode before.graph doomed), revision := after.revision }

namespace LapsesExactly

variable {doomed further : GraphNodeId → Prop} {before after last : GraphExecution}

theorem nodes (lapses : LapsesExactly doomed before after) :
    after.nodes = before.nodes.map (lapseNode before.graph doomed) := by
  rw [lapses]

theorem graph (lapses : LapsesExactly doomed before after) : after.graph = before.graph := by
  rw [lapses]

theorem node? (lapses : LapsesExactly doomed before after) (id : GraphNodeId) :
    after.node? id = (before.node? id).map (lapseNode before.graph doomed) := by
  unfold GraphExecution.node?
  rw [lapses.nodes, List.find?_map]
  congr 2
  funext node
  simp only [Function.comp_apply, (lapseNode_kept before.graph doomed node).1]

theorem refl (before : GraphExecution) : LapsesExactly (fun _ => False) before before := by
  have same : ∀ node ∈ before.nodes, lapseNode before.graph (fun _ => False) node = node :=
    fun node _ => lapseNode_other id fun _ falls => falls.elim
  unfold LapsesExactly
  rw [List.map_congr_left same, List.map_id']

theorem trans (first : LapsesExactly doomed before after) (second : LapsesExactly further after last)
    (staged : ∀ node ∈ after.nodes, further node.nodeId → node.state = .awaitingApproval) :
    LapsesExactly (fun id => doomed id ∨ further id) before last := by
  have twice : before.nodes.map (lapseNode before.graph fun id => doomed id ∨ further id) =
      after.nodes.map (lapseNode after.graph further) := by
    rw [first.nodes, first.graph, List.map_map]
    refine List.map_congr_left fun node member => (lapseNode_twice fun falls => ?_).symm
    have listed : lapseNode before.graph doomed node ∈ after.nodes := first.nodes ▸ List.mem_map_of_mem member
    exact staged _ listed ((lapseNode_kept before.graph doomed node).1 ▸ falls)
  unfold LapsesExactly at first second ⊢
  rw [twice, second, first]

/-- The cancellation of one staged node. -/
theorem of_cancelled {nodeId : GraphNodeId} {owner : String} {runId : RunId}
    (distinct : (before.nodes.map (·.nodeId)).Nodup)
    (cancelled : before.cancelStagedNode nodeId owner runId = .ok after) :
    LapsesExactly (fun id => id = nodeId) before after := by
  obtain ⟨staged, located, awaiting, _, _, rfl⟩ := cancelStagedNode_ok cancelled
  have kept : ∀ node, (cancel node).nodeId = node.nodeId := fun _ => rfl
  have named : ∀ node, (lapseNode before.graph (fun id => id = nodeId) node).nodeId = node.nodeId :=
    fun node => (lapseNode_kept _ _ node).1
  have keys : (before.nodes.map (lapseNode before.graph fun id => id = nodeId)).map (·.nodeId) =
      before.nodes.map (·.nodeId) := by
    rw [List.map_map]
    exact List.map_congr_left fun node _ => named node
  obtain ⟨affected, root, closed, depends, lookup⟩ := blockDependents_spec (before.updateNode nodeId cancel) nodeId
  have updated : Frame before (before.updateNode nodeId cancel) := frame_updateNode kept
  have frame := updated.trans (frame_blockDependents _ nodeId)
  -- the set that blocking reaches is the set of the dependents
  have reached : ∀ id, Relation.TransGen (Needs before.graph) id nodeId → id ∈ affected := by
    intro id needs
    induction needs using Relation.TransGen.head_induction_on with
    | single need => exact closed _ _ need root
    | head need _ inside => exact closed _ _ need inside
  have same : ((before.updateNode nodeId cancel).blockDependents nodeId).nodes =
      before.nodes.map (lapseNode before.graph fun id => id = nodeId) := by
    refine ext_find (keys ▸ distinct) (frame.keys.trans keys.symm) fun id => ?_
    have looked := lookup id
    unfold GraphExecution.node? at looked
    rw [looked, List.find?_map, show ((fun node => decide (node.nodeId = id)) ∘
      lapseNode before.graph fun id => id = nodeId) = fun node => decide (node.nodeId = id) from
        funext fun node => by simp only [Function.comp_apply, named]]
    have changed : (before.updateNode nodeId cancel).nodes.find? (fun node => node.nodeId = id) = _ :=
      node?_updateNode kept id
    rw [changed]
    unfold GraphExecution.node?
    cases found : before.nodes.find? (fun node => node.nodeId = id) with
    | none => simp
    | some node =>
      obtain ⟨_, rfl⟩ := find_some found
      by_cases same : node.nodeId = nodeId
      · simp [same, lapseNode]
      · by_cases inside : node.nodeId ∈ affected
        · have needs : Relation.TransGen (Needs before.graph) node.nodeId nodeId :=
            (Relation.reflTransGen_iff_eq_or_transGen.mp (depends _ inside)).resolve_left fun equal => same equal.symm
          have blocked : lapseNode before.graph (fun id => id = nodeId) node = block node :=
            lapseNode_depends same rfl needs
          rw [if_pos ⟨inside, same⟩, if_neg same, Option.map_some, Option.map_some, blocked]
        · rw [if_neg (fun both => inside both.1), if_neg same, Option.map_some, lapseNode_other same]
          rintro _ rfl needs
          exact inside (reached _ needs)
  unfold LapsesExactly
  rw [← same]
  rfl

end LapsesExactly

end Bastet.Core
