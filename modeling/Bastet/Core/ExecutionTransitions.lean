import Bastet.Core.ExecutionRuns

/-! What one operation can do to one node. Every invariant of the records of the nodes
is read off this relation. -/

set_option autoImplicit false

namespace Bastet.Core

open Fallible Lookup GraphExecution

/-- The operation makes the node it ends an obstacle for its dependents. -/
def Operation.impedes : Operation → Bool
  | .cancelStagedNode .. => true
  | .complete _ _ succeeded => !succeeded
  | .finishTerminal _ _ state _ => state.blocks
  | _ => false

/-- The record of a node before an operation, and the record it may leave. -/
inductive Transition : Operation → GraphNodeExecution → GraphNodeExecution → Prop
  | kept {operation : Operation} {node : GraphNodeExecution} : Transition operation node node
  | claimedReady {owner : String} {limit : Nat} {node : GraphNodeExecution} (pending : node.state = .pending) :
      Transition (.claimReady owner limit) node (engage owner node)
  | claimed {owner : String} {node : GraphNodeExecution} (pending : node.state = .pending) :
      Transition (.claimNode node.nodeId owner) node (engage owner node)
  | staged {owner : String} {runId : RunId} {node : GraphNodeExecution} (named : isBlank owner = false)
      (pending : node.state = .pending) (unbound : node.runId = none) :
      Transition (.stageNode node.nodeId owner runId) node (stage owner runId node)
  | activated {owner : String} {runId : RunId} {node : GraphNodeExecution} (awaiting : node.state = .awaitingApproval)
      (owned : node.owner = some owner) (bound : node.runId = some runId) :
      Transition (.activateStagedNode node.nodeId owner runId) node (activate node)
  | cancelled {owner : String} {runId : RunId} {node : GraphNodeExecution} (awaiting : node.state = .awaitingApproval)
      (owned : node.owner = some owner) (bound : node.runId = some runId) :
      Transition (.cancelStagedNode node.nodeId owner runId) node (cancel node)
  | bound {owner : String} {runId : RunId} {node : GraphNodeExecution} (running : node.state = .running)
      (owned : node.owner = some owner) (unbound : node.runId = none) :
      Transition (.bindRun node.nodeId owner runId) node { node with runId := some runId }
  | completed {owner : String} {succeeded : Bool} {node : GraphNodeExecution} (running : node.state = .running)
      (owned : node.owner = some owner) :
      Transition (.complete node.nodeId owner succeeded) node (conclude (if succeeded then .succeeded else .failed) node)
  | finished {owner : String} {state : GraphNodeState} {failure : Option AdapterFailure} {node : GraphNodeExecution}
      (terminal : state.isTerminal = true) (running : node.state = .running) (owned : node.owner = some owner) :
      Transition (.finishTerminal node.nodeId owner state failure) node (finish owner state failure node)
  | retried {node : GraphNodeExecution} (failed : node.state = .failed) :
      Transition (.retryFailed node.nodeId) node (reset node)
  | reopened {nodeId : GraphNodeId} {node : GraphNodeExecution} (blocked : node.state = .blocked) :
      Transition (.retryFailed nodeId) node (reset node)
  | blocked {operation : Operation} {node : GraphNodeExecution} (impedes : operation.impedes = true)
      (pending : node.state = .pending) : Transition operation node (block node)
  | reconciled {node : GraphNodeExecution} (running : node.state = .running) :
      Transition .reconcileAfterRestart node (reconcileNode node)

/-- Every node of the execution makes a transition of the operation. -/
def Transitions (operation : Operation) (before after : GraphExecution) : Prop :=
  ∀ id node, before.node? id = some node → ∃ later, after.node? id = some later ∧ Transition operation node later

namespace Transitions

variable {operation : Operation} {self next : GraphExecution} {nodeId : GraphNodeId} {node : GraphNodeExecution}
  {change : GraphNodeExecution → GraphNodeExecution}

theorem refl (operation : Operation) (self : GraphExecution) : Transitions operation self self :=
  fun _ node found => ⟨node, found, .kept⟩

/-- One node is changed, and nothing else. -/
theorem update (kept : ∀ node, (change node).nodeId = node.nodeId) (found : self.node? nodeId = some node)
    (moves : Transition operation node (change node)) : Transitions operation self (self.updateNode nodeId change) := by
  intro id other recorded
  rw [node?_updateNode kept]
  by_cases same : id = nodeId
  · subst same
    obtain rfl := Option.some.inj (found.symm.trans recorded)
    exact ⟨change node, by rw [if_pos rfl, found, Option.map_some], moves⟩
  · exact ⟨other, by rw [if_neg same, recorded], .kept⟩

/-- One node is changed, and pending nodes that depend on it are blocked. -/
theorem fail (impedes : operation.impedes = true) (kept : ∀ node, (change node).nodeId = node.nodeId)
    (found : self.node? nodeId = some node) (moves : Transition operation node (change node)) :
    Transitions operation self ((self.updateNode nodeId change).blockDependents nodeId) := by
  obtain ⟨affected, -, -, -, lookup⟩ := blockDependents_spec (self.updateNode nodeId change) nodeId
  intro id other recorded
  rw [lookup id]
  by_cases same : id = nodeId
  · rw [if_neg fun both => both.2 same]
    exact update kept found moves id other recorded
  · rw [node?_updateNode kept, if_neg same, recorded, Option.map_some]
    split
    · by_cases pending : other.state = .pending
      · exact ⟨block other, rfl, .blocked impedes pending⟩
      · exact ⟨other, by rw [block, if_neg pending], .kept⟩
    · exact ⟨other, rfl, .kept⟩

end Transitions

namespace GraphExecution

variable {self next : GraphExecution} {nodeId : GraphNodeId} {owner : String} {runId : RunId}

theorem claimReady_transitions (aligned : self.Aligned) (owner : String) (limit : Nat) :
    Transitions (.claimReady owner limit) self (self.claimReady owner limit).2 := by
  unfold claimReady
  split
  case isTrue => exact .refl _ self
  case isFalse =>
    obtain ⟨after, chosen, ran, spec, -⟩ :=
      claimLoop_spec self.graph (snapshot self.nodes) owner limit aligned.distinct []
    have moved : ∀ revision, Transitions (.claimReady owner limit) self { self with nodes := after, revision } := by
      intro revision id node found
      have looked := spec.lookup id
      by_cases member : id ∈ chosen
      · obtain ⟨other, recorded, pending⟩ := spec.pending id member
        obtain rfl := Option.some.inj (found.symm.trans recorded)
        rw [if_pos member, recorded] at looked
        exact ⟨engage owner node, looked, .claimedReady pending⟩
      · rw [if_neg member] at looked
        exact ⟨node, looked.trans found, .kept⟩
    cases loop : claimLoop self.graph (snapshot self.nodes) owner limit [] self.nodes with
    | mk result nodes =>
      rw [loop] at ran
      obtain rfl : nodes = after := ran
      cases result with
      | error error => exact moved self.revision
      | ok claimed => exact moved _

theorem claimNode_transitions (accepted : self.claimNode nodeId owner = .ok next) :
    Transitions (.claimNode nodeId owner) self next := by
  obtain ⟨_, node, _, _, found, pending, rfl⟩ := claimNode_ok accepted
  obtain rfl := (find_some found).2
  exact .update (fun _ => rfl) found (.claimed pending)

theorem stageNode_transitions (accepted : self.stageNode nodeId owner runId = .ok next) :
    Transitions (.stageNode nodeId owner runId) self next := by
  obtain ⟨_, node, named, _, _, _, found, pending, _, unbound, rfl⟩ := stageNode_ok accepted
  obtain rfl := (find_some found).2
  exact .update (fun _ => rfl) found (.staged named pending unbound)

theorem activateStagedNode_transitions (accepted : self.activateStagedNode nodeId owner runId = .ok next) :
    Transitions (.activateStagedNode nodeId owner runId) self next := by
  obtain ⟨node, found, awaiting, owned, bound, rfl⟩ := activateStagedNode_ok accepted
  obtain rfl := (find_some found).2
  exact .update (fun _ => rfl) found (.activated awaiting owned bound)

theorem cancelStagedNode_transitions (accepted : self.cancelStagedNode nodeId owner runId = .ok next) :
    Transitions (.cancelStagedNode nodeId owner runId) self next := by
  obtain ⟨node, found, awaiting, owned, bound, rfl⟩ := cancelStagedNode_ok accepted
  obtain rfl := (find_some found).2
  exact .fail rfl (fun _ => rfl) found (.cancelled awaiting owned bound)

theorem bindRun_transitions (accepted : self.bindRun nodeId owner runId = .ok next) :
    Transitions (.bindRun nodeId owner runId) self next := by
  obtain ⟨node, found, running, owned, unbound, rfl⟩ := bindRun_ok accepted
  obtain rfl := (find_some found).2
  have kept : ∀ node : GraphNodeExecution, { node with runId := some runId }.nodeId = node.nodeId := fun _ => rfl
  exact .update kept found (.bound running owned unbound)

theorem complete_transitions {succeeded : Bool} (accepted : self.complete nodeId owner succeeded = .ok next) :
    Transitions (.complete nodeId owner succeeded) self next := by
  obtain ⟨node, found, running, owned, rfl⟩ := complete_ok accepted
  obtain rfl := (find_some found).2
  have moves : Transition (.complete node.nodeId owner succeeded) node _ := .completed running owned
  cases succeeded with
  | true => exact .update (fun _ => rfl) found moves
  | false => exact .fail rfl (fun _ => rfl) found moves

theorem finishTerminal_transitions {state : GraphNodeState} {failure : Option AdapterFailure}
    (accepted : self.finishTerminal nodeId owner state failure = .ok next) :
    Transitions (.finishTerminal nodeId owner state failure) self next := by
  obtain ⟨node, terminal, found, running, owned, rfl⟩ := finishTerminal_ok accepted
  obtain rfl := (find_some found).2
  have moves : Transition (.finishTerminal node.nodeId owner state failure) node _ := .finished terminal running owned
  by_cases blocks : state.blocks = true
  · rw [if_pos blocks]
    exact .fail blocks (fun _ => rfl) found moves
  · rw [if_neg blocks]
    exact .update (fun _ => rfl) found moves

/-- What the rounds of reopening keep: a node is as it was, or was failed or blocked and starts over. -/
def Reopened (nodeId : GraphNodeId) (nodes after : List GraphNodeExecution) : Prop :=
  ∀ id node, nodes.find? (fun node => node.nodeId = id) = some node →
    ∃ later, after.find? (fun node => node.nodeId = id) = some later ∧ Transition (.retryFailed nodeId) node later ∧
      (later = node ∨ later.state = .pending)

theorem Reopened.round {graph : WorkflowGraph} {nodes middle after : List GraphNodeExecution}
    (distinct : (middle.map (·.nodeId)).Nodup) (reopened : Reopened nodeId nodes middle)
    (spec : Reset middle after (reopenable graph (snapshot middle))) : Reopened nodeId nodes after := by
  intro id node found
  obtain ⟨record, recorded, moves, shape⟩ := reopened id node found
  have looked := spec.lookup id
  by_cases member : id ∈ reopenable graph (snapshot middle)
  · obtain ⟨_, _, _, snapped, -⟩ := reopenable_iff.mp member
    rw [snapshot_eq distinct, recorded] at snapped
    have blocked : record.state = .blocked := Option.some.inj snapped
    -- a node that was reset before is pending, so the round chose a node that is as it was
    rcases shape with rfl | pending
    · rw [if_pos member, recorded] at looked
      exact ⟨reset record, looked, .reopened blocked, .inr rfl⟩
    · rw [blocked] at pending
      cases pending
  · rw [if_neg member] at looked
    exact ⟨record, looked.trans recorded, moves, shape⟩

theorem retryFailed_transitions (aligned : self.Aligned) (accepted : self.retryFailed nodeId = .ok next) :
    Transitions (.retryFailed nodeId) self next := by
  obtain ⟨node, nodes, found, failed, ran, rfl⟩ := retryFailed_ok accepted
  have first := modifyFirst_reset self.nodes nodeId
  have opened : Reopened nodeId self.nodes (modifyFirst (·.nodeId) nodeId reset self.nodes) := by
    intro id other recorded
    have looked := first.lookup id
    by_cases same : id = nodeId
    · subst same
      obtain rfl := Option.some.inj (found.symm.trans recorded)
      obtain rfl := (find_some found).2
      rw [if_pos (List.mem_singleton_self _), recorded] at looked
      exact ⟨reset node, looked, .retried failed, .inr rfl⟩
    · rw [if_neg fun member => same (List.mem_singleton.mp member)] at looked
      exact ⟨other, looked.trans recorded, .kept, .inl rfl⟩
  have rounds : ∀ middle after,
      (middle.map (·.nodeId) = self.nodes.map (·.nodeId) ∧ Reopened nodeId self.nodes middle) →
      Reset middle after (reopenable self.graph (snapshot middle)) →
      (after.map (·.nodeId) = self.nodes.map (·.nodeId) ∧ Reopened nodeId self.nodes after) := by
    rintro middle after ⟨keys, reopened⟩ spec
    exact ⟨spec.keys.trans keys, reopened.round (keys ▸ aligned.distinct) spec⟩
  obtain ⟨after, again, ⟨_, reached⟩, -⟩ :=
    reopenLoop_preserves aligned.defined rounds (self.nodes.length + 1) ⟨first.keys, opened⟩
  obtain rfl : nodes = after := Except.ok.inj (ran.symm.trans again)
  intro id other recorded
  obtain ⟨later, looked, moves, -⟩ := reached id other recorded
  exact ⟨later, looked, moves⟩

theorem reconcileAfterRestart_transitions (self : GraphExecution) :
    Transitions .reconcileAfterRestart self self.reconcileAfterRestart.2 := by
  intro id node found
  rw [reconcile_lookup, found]
  by_cases running : node.state = .running
  · exact ⟨reconcileNode node, rfl, .reconciled running⟩
  · exact ⟨node, by rw [Option.map_some, reconcileNode, if_neg running], .kept⟩

end GraphExecution

theorem Operation.orUnchanged_transitions {operation : Operation} {self : GraphExecution}
    {result : Except GraphError GraphExecution}
    (accepted : ∀ next, result = .ok next → Transitions operation self next) :
    Transitions operation self (orUnchanged self result) := by
  cases result with
  | error _ => exact .refl operation self
  | ok next => exact accepted next rfl

/-- Every node of an execution makes a transition of the operation that is applied to it. -/
theorem Operation.apply_transitions [Sha256] {self : GraphExecution} (aligned : self.Aligned) (operation : Operation) :
    Transitions operation self (operation.apply self) := by
  cases operation with
  | claimReady owner limit => exact claimReady_transitions aligned owner limit
  | claimNode nodeId owner => exact orUnchanged_transitions fun _ => claimNode_transitions
  | stageNode nodeId owner runId => exact orUnchanged_transitions fun _ => stageNode_transitions
  | activateStagedNode nodeId owner runId => exact orUnchanged_transitions fun _ => activateStagedNode_transitions
  | cancelStagedNode nodeId owner runId => exact orUnchanged_transitions fun _ => cancelStagedNode_transitions
  | bindRun nodeId owner runId => exact orUnchanged_transitions fun _ => bindRun_transitions
  | complete nodeId owner succeeded => exact orUnchanged_transitions fun _ => complete_transitions
  | finishTerminal nodeId owner state failure => exact orUnchanged_transitions fun _ => finishTerminal_transitions
  | retryFailed nodeId => exact orUnchanged_transitions fun _ => retryFailed_transitions aligned
  | recordOutput output =>
    refine orUnchanged_transitions fun next accepted => ?_
    obtain ⟨_, _, _, _, _, _, rfl⟩ := recordOutput_ok accepted
    exact .refl _ _
  | reconcileAfterRestart => exact reconcileAfterRestart_transitions self

end Bastet.Core
