import Bastet.Core.ExecutionWrites

/-! The run a node is bound to: what each operation does to the state in which a node holds
a run. A pending node holds none. -/

set_option autoImplicit false

namespace Bastet.Core

open Fallible Lookup

namespace GraphNodeExecution

variable {node : GraphNodeExecution} {runId : RunId}

/-- The state of a node, if it is bound to the run. -/
def stateFor (self : GraphNodeExecution) (runId : RunId) : Option GraphNodeState :=
  if self.runId = some runId then some self.state else none

theorem stateFor_bound (bound : node.runId = some runId) : node.stateFor runId = some node.state :=
  if_pos bound

theorem stateFor_other (apart : node.runId ≠ some runId) : node.stateFor runId = none :=
  if_neg apart

theorem stateFor_unbound (unbound : node.runId = none) (runId : RunId) : node.stateFor runId = none := by
  refine stateFor_other ?_
  rw [unbound]
  simp

theorem stateFor_some {state : GraphNodeState} (held : node.stateFor runId = some state) :
    node.runId = some runId ∧ node.state = state := by
  unfold stateFor at held
  split at held
  · rename_i bound
    exact ⟨bound, Option.some.inj held⟩
  · cases held

end GraphNodeExecution

namespace GraphExecution

open GraphNodeExecution

/-- The state of a node, if the node is bound to the run. -/
def stateFor (self : GraphExecution) (nodeId : GraphNodeId) (runId : RunId) : Option GraphNodeState :=
  (self.node? nodeId).bind fun node => node.stateFor runId

/-- No pending node is bound to a run. -/
def PendingUnbound (self : GraphExecution) : Prop :=
  ∀ nodeId node, self.node? nodeId = some node → node.state = .pending → node.runId = none

/-- Every node holds the runs it held, in the same states. -/
structure SameBindings (before after : GraphExecution) : Prop where
  state : ∀ nodeId runId, after.stateFor nodeId runId = before.stateFor nodeId runId
  idle : before.PendingUnbound → after.PendingUnbound

/-- One node holds one run in the state `last`, after the state `first`, and nothing else changes. -/
structure Rebinds (nodeId : GraphNodeId) (runId : RunId) (first last : Option GraphNodeState)
    (before after : GraphExecution) : Prop where
  was : before.stateFor nodeId runId = first
  now : after.stateFor nodeId runId = last
  others : ∀ otherNode otherRun, ¬(otherNode = nodeId ∧ otherRun = runId) →
    after.stateFor otherNode otherRun = before.stateFor otherNode otherRun
  idle : before.PendingUnbound → after.PendingUnbound

variable {before middle after : GraphExecution} {nodeId : GraphNodeId} {runId : RunId} {node : GraphNodeExecution}
  {first last : Option GraphNodeState} {change : GraphNodeExecution → GraphNodeExecution}

theorem stateFor_found (found : before.node? nodeId = some node) (runId : RunId) :
    before.stateFor nodeId runId = node.stateFor runId := by
  rw [stateFor, found, Option.bind_some]

/-- What is held by an execution is held by one of its nodes. -/
theorem stateFor_isNode {state : GraphNodeState} (held : before.stateFor nodeId runId = some state) :
    ∃ node, before.node? nodeId = some node ∧ node.runId = some runId ∧ node.state = state := by
  obtain ⟨node, found, held⟩ := Option.bind_eq_some_iff.mp held
  exact ⟨node, found, stateFor_some held⟩

theorem SameBindings.of_nodes (same : after.nodes = before.nodes) : SameBindings before after := by
  have found : ∀ nodeId, after.node? nodeId = before.node? nodeId := fun nodeId => by rw [node?, node?, same]
  refine ⟨fun nodeId runId => by rw [stateFor, stateFor, found], fun idle nodeId node recorded => ?_⟩
  exact idle nodeId node (found nodeId ▸ recorded)

theorem Rebinds.trans_same (rebinds : Rebinds nodeId runId first last before middle)
    (same : SameBindings middle after) : Rebinds nodeId runId first last before after where
  was := rebinds.was
  now := (same.state nodeId runId).trans rebinds.now
  others otherNode otherRun apart := (same.state otherNode otherRun).trans (rebinds.others otherNode otherRun apart)
  idle unbound := same.idle (rebinds.idle unbound)

theorem SameBindings.trans_rebinds (same : SameBindings before middle)
    (rebinds : Rebinds nodeId runId first last middle after) : Rebinds nodeId runId first last before after where
  was := (same.state nodeId runId).symm.trans rebinds.was
  now := rebinds.now
  others otherNode otherRun apart := (rebinds.others otherNode otherRun apart).trans (same.state otherNode otherRun)
  idle unbound := rebinds.idle (same.idle unbound)

section Block

/-- Blocking the dependents of a node moves pending nodes only, and these hold nothing. -/
theorem blockDependents_same (idle : before.PendingUnbound) (failed : GraphNodeId) :
    SameBindings before (before.blockDependents failed) := by
  obtain ⟨affected, -, -, -, lookup⟩ := blockDependents_spec before failed
  constructor
  · intro nodeId runId
    rw [stateFor, stateFor, lookup nodeId]
    split
    · cases found : before.node? nodeId with
      | none => rfl
      | some node =>
        by_cases pending : node.state = .pending
        · have unbound := idle nodeId node found pending
          have still : (block node).runId = none := by rw [block, if_pos pending]; exact unbound
          rw [Option.map_some, Option.bind_some, Option.bind_some, stateFor_unbound still, stateFor_unbound unbound]
        · rw [Option.map_some, block, if_neg pending]
    · rfl
  · intro _ nodeId later reached pending
    rw [lookup nodeId] at reached
    split at reached
    · obtain ⟨node, found, rfl⟩ := Option.map_eq_some_iff.mp reached
      by_cases waits : node.state = .pending
      · rw [block, if_pos waits] at pending
        cases pending
      · exact absurd (by rw [block, if_neg waits] at pending; exact pending) waits
    · exact idle nodeId later reached pending

end Block

section Update

/-- An update of one node changes what this node holds. -/
theorem stateFor_updateNode (kept : ∀ node, (change node).nodeId = node.nodeId)
    (found : before.node? nodeId = some node) (otherNode : GraphNodeId) (otherRun : RunId) :
    (before.updateNode nodeId change).stateFor otherNode otherRun =
      if otherNode = nodeId then (change node).stateFor otherRun else before.stateFor otherNode otherRun := by
  rw [stateFor, node?_updateNode kept]
  by_cases here : otherNode = nodeId
  · subst here
    rw [if_pos rfl, if_pos rfl, found, Option.map_some, Option.bind_some]
  · rw [if_neg here, if_neg here, stateFor]

theorem PendingUnbound.updateNode (kept : ∀ node, (change node).nodeId = node.nodeId)
    (found : before.node? nodeId = some node) (leaves : (change node).state ≠ .pending)
    (idle : before.PendingUnbound) : (before.updateNode nodeId change).PendingUnbound := by
  intro otherNode later reached pending
  rw [node?_updateNode kept] at reached
  split at reached
  · rename_i here
    rw [here, found, Option.map_some] at reached
    obtain rfl := Option.some.inj reached
    exact absurd pending leaves
  · exact idle otherNode later reached pending

/-- An update of a node that holds a run, or is bound to it by the update. -/
theorem Rebinds.of_update (change : GraphNodeExecution → GraphNodeExecution)
    (kept : ∀ node, (change node).nodeId = node.nodeId)
    (found : before.node? nodeId = some node) (leaves : (change node).state ≠ .pending)
    (bound : (change node).runId = some runId) (before_ : node.runId = none ∨ node.runId = some runId) :
    Rebinds nodeId runId (node.stateFor runId) (some (change node).state) before (before.updateNode nodeId change) where
  was := stateFor_found found runId
  now := by rw [stateFor_updateNode kept found, if_pos rfl, stateFor_bound bound]
  others otherNode otherRun apart := by
    rw [stateFor_updateNode kept found]
    split
    · rename_i here
      subst here
      have other : otherRun ≠ runId := fun same => apart ⟨rfl, same⟩
      rw [stateFor_found found, stateFor_other fun held => other (Option.some.inj (held.symm.trans bound))]
      rcases before_ with unbound | bound
      · rw [stateFor_unbound unbound]
      · rw [stateFor_other fun held => other (Option.some.inj (held.symm.trans bound))]
    · rfl
  idle := .updateNode kept found leaves

/-- An update of a node that holds no run and is bound to none. -/
theorem SameBindings.of_update (change : GraphNodeExecution → GraphNodeExecution)
    (kept : ∀ node, (change node).nodeId = node.nodeId)
    (found : before.node? nodeId = some node) (leaves : (change node).state ≠ .pending) (unbound : node.runId = none)
    (still : (change node).runId = none) : SameBindings before (before.updateNode nodeId change) where
  state otherNode otherRun := by
    rw [stateFor_updateNode kept found]
    split
    · rename_i here
      rw [here, stateFor_found found, stateFor_unbound unbound, stateFor_unbound still]
    · rfl
  idle := .updateNode kept found leaves

/-- The update of a node that fails, with the block of its dependents. -/
theorem Rebinds.blocked (rebinds : Rebinds nodeId runId first last before middle) (idle : before.PendingUnbound)
    (failed : GraphNodeId) : Rebinds nodeId runId first last before (middle.blockDependents failed) :=
  rebinds.trans_same (blockDependents_same (rebinds.idle idle) failed)

end Update

section Operations

variable {owner : String}

theorem stageNode_rebinds (accepted : before.stageNode nodeId owner runId = .ok after) :
    Rebinds nodeId runId none (some .awaitingApproval) before after := by
  obtain ⟨_, node, _, _, _, _, found, _, _, unbound, rfl⟩ := stageNode_ok accepted
  have rebinds : Rebinds nodeId runId (node.stateFor runId) (some .awaitingApproval) before
      (before.updateNode nodeId (stage owner runId)) :=
    .of_update (stage owner runId) (fun _ => rfl) found (by simp [stage]) rfl (.inl unbound)
  rw [stateFor_unbound unbound] at rebinds
  exact rebinds

theorem claimNode_same (idle : before.PendingUnbound) (accepted : before.claimNode nodeId owner = .ok after) :
    SameBindings before after := by
  obtain ⟨_, node, _, _, found, pending, rfl⟩ := claimNode_ok accepted
  have unbound := idle nodeId node found pending
  exact .of_update (engage owner) (fun _ => rfl) found (by simp [engage]) unbound unbound

theorem bindRun_rebinds (accepted : before.bindRun nodeId owner runId = .ok after) :
    Rebinds nodeId runId none (some .running) before after := by
  obtain ⟨node, found, running, _, unbound, rfl⟩ := bindRun_ok accepted
  have rebinds : Rebinds nodeId runId (node.stateFor runId) (some node.state) before
      (before.updateNode nodeId fun node => { node with runId := some runId }) :=
    .of_update (fun node => { node with runId := some runId }) (fun _ => rfl) found (by rw [running]; simp) rfl (.inl unbound)
  rw [stateFor_unbound unbound, running] at rebinds
  exact rebinds.trans_same (.of_nodes rfl)

theorem activateStagedNode_rebinds (accepted : before.activateStagedNode nodeId owner runId = .ok after) :
    Rebinds nodeId runId (some .awaitingApproval) (some .running) before after := by
  obtain ⟨node, found, awaiting, _, bound, rfl⟩ := activateStagedNode_ok accepted
  have rebinds : Rebinds nodeId runId (node.stateFor runId) (some .running) before (before.updateNode nodeId activate) :=
    .of_update activate (fun _ => rfl) found (by simp [activate]) bound (.inr bound)
  rw [stateFor_bound bound, awaiting] at rebinds
  exact rebinds

theorem cancelStagedNode_rebinds (idle : before.PendingUnbound)
    (accepted : before.cancelStagedNode nodeId owner runId = .ok after) :
    Rebinds nodeId runId (some .awaitingApproval) (some .cancelled) before after := by
  obtain ⟨node, found, awaiting, _, bound, rfl⟩ := cancelStagedNode_ok accepted
  have rebinds : Rebinds nodeId runId (node.stateFor runId) (some .cancelled) before (before.updateNode nodeId cancel) :=
    .of_update cancel (fun _ => rfl) found (by simp [cancel]) bound (.inr bound)
  rw [stateFor_bound bound, awaiting] at rebinds
  exact rebinds.blocked idle nodeId

theorem finishTerminal_rebinds {state : GraphNodeState} {failure : Option AdapterFailure} (idle : before.PendingUnbound)
    (accepted : before.finishTerminal nodeId owner state failure = .ok after)
    (held : (before.node? nodeId).bind (·.runId) = some runId) :
    Rebinds nodeId runId (some .running) (some state) before after := by
  obtain ⟨node, terminal, found, running, _, rfl⟩ := finishTerminal_ok accepted
  rw [found, Option.bind_some] at held
  have leaves : state ≠ .pending := by
    rintro rfl
    cases terminal
  have rebinds : Rebinds nodeId runId (node.stateFor runId) (some state) before
      (before.updateNode nodeId (finish owner state failure)) :=
    .of_update (finish owner state failure) (fun _ => rfl) found leaves held (.inr held)
  rw [stateFor_bound held, running] at rebinds
  split
  · exact rebinds.blocked idle nodeId
  · exact rebinds

/-- A completion ends a node that holds a run. -/
theorem complete_bound {succeeded : Bool} (idle : before.PendingUnbound)
    (accepted : before.complete nodeId owner succeeded = .ok after)
    (held : before.stateFor nodeId runId = some .running) :
    Rebinds nodeId runId (some .running) (some (if succeeded then .succeeded else .failed)) before after := by
  obtain ⟨node, found, running, _, rfl⟩ := complete_ok accepted
  rw [stateFor_found found] at held
  have bound := (stateFor_some held).1
  have rebinds : ∀ state, state ≠ .pending →
      Rebinds nodeId runId (node.stateFor runId) (some state) before (before.updateNode nodeId (conclude state)) :=
    fun state apart => .of_update (conclude state) (fun _ => rfl) found apart bound (.inr bound)
  rw [held] at rebinds
  cases succeeded with
  | true => exact rebinds .succeeded (by simp)
  | false => exact (rebinds .failed (by simp)).blocked idle nodeId

/-- A completion ends a node with its run, if it has one. -/
theorem complete_rebinds {succeeded : Bool} (idle : before.PendingUnbound)
    (accepted : before.complete nodeId owner succeeded = .ok after) :
    SameBindings before after ∨
      ∃ runId, Rebinds nodeId runId (some .running) (some (if succeeded then .succeeded else .failed)) before after := by
  obtain ⟨node, found, running, _, same⟩ := complete_ok accepted
  cases bound : node.runId with
  | some runId =>
    have held : before.stateFor nodeId runId = some .running := by rw [stateFor_found found, stateFor_bound bound, running]
    exact .inr ⟨runId, complete_bound idle accepted held⟩
  | none =>
    left
    have unheld : ∀ state, state ≠ .pending → SameBindings before (before.updateNode nodeId (conclude state)) :=
      fun state apart => .of_update (conclude state) (fun _ => rfl) found apart bound bound
    rw [same]
    cases succeeded with
    | true => exact unheld .succeeded (by simp)
    | false =>
      have first := unheld .failed (by simp)
      have second := blockDependents_same (first.idle idle) nodeId
      exact ⟨fun other run => (second.state other run).trans (first.state other run),
        fun idle => second.idle (first.idle idle)⟩

end Operations

section Transitions

/-- What is true of every transition of a node is true of the node afterwards. -/
theorem Frame.node_moves {operation : Operation} {nodeId : GraphNodeId} (frame : Frame before after)
    (moves : Transitions operation before after) {later : GraphNodeExecution}
    (reached : after.node? nodeId = some later) :
    ∃ node, before.node? nodeId = some node ∧ Transition operation node later := by
  cases found : before.node? nodeId with
  | none =>
    rw [frame.node?_none found] at reached
    cases reached
  | some node =>
    obtain ⟨other, again, moved⟩ := moves nodeId node found
    obtain rfl := Option.some.inj (again.symm.trans reached)
    exact ⟨node, rfl, moved⟩

theorem claimReady_same (aligned : before.Aligned) (idle : before.PendingUnbound) (owner : String) (limit : Nat) :
    SameBindings before (before.claimReady owner limit).2 := by
  have moves := claimReady_transitions aligned owner limit
  have frame := Operation.claimReady_frame aligned owner limit
  constructor
  · intro nodeId runId
    rw [stateFor, stateFor]
    cases found : before.node? nodeId with
    | none => rw [frame.node?_none found]
    | some node =>
      obtain ⟨later, reached, moved⟩ := moves nodeId node found
      rw [reached]
      cases moved with
      | kept => rfl
      | claimedReady pending =>
        have unbound := idle nodeId node found pending
        rw [Option.bind_some, Option.bind_some, stateFor_unbound unbound, stateFor_unbound]
        exact unbound
      | blocked impedes => cases impedes
  · intro _ nodeId later reached pending
    obtain ⟨node, found, moved⟩ := frame.node_moves moves reached
    cases moved with
    | kept => exact idle nodeId _ found pending
    | claimedReady => cases pending
    | blocked impedes => cases impedes

/-- A retry frees the failed node it is for, and blocked nodes. -/
structure Frees (retried : GraphNodeId) (before after : GraphExecution) : Prop where
  state : ∀ nodeId runId, after.stateFor nodeId runId = before.stateFor nodeId runId ∨
    after.stateFor nodeId runId = none ∧ (before.stateFor nodeId runId = some .blocked ∨
      nodeId = retried ∧ before.stateFor nodeId runId = some .failed)
  idle : before.PendingUnbound → after.PendingUnbound

theorem retryFailed_frees (aligned : before.Aligned) (idle : before.PendingUnbound)
    (accepted : before.retryFailed nodeId = .ok after) : Frees nodeId before after := by
  have moves := retryFailed_transitions aligned accepted
  have frame := Operation.retryFailed_frame aligned accepted
  have freed : ∀ (node : GraphNodeExecution) (runId : RunId), (reset node).stateFor runId = none :=
    fun node runId => stateFor_unbound rfl runId
  constructor
  · intro otherNode runId
    rw [stateFor, stateFor]
    cases found : before.node? otherNode with
    | none =>
      left
      rw [frame.node?_none found]
    | some node =>
      obtain ⟨later, reached, moved⟩ := moves otherNode node found
      obtain rfl := (find_some found).2
      rw [reached, Option.bind_some, Option.bind_some]
      cases moved with
      | kept => exact .inl rfl
      | retried failed =>
        rw [freed]
        by_cases bound : node.runId = some runId
        · exact .inr ⟨rfl, .inr ⟨rfl, by rw [stateFor_bound bound, failed]⟩⟩
        · exact .inl (stateFor_other bound).symm
      | reopened blocked =>
        rw [freed]
        by_cases bound : node.runId = some runId
        · exact .inr ⟨rfl, .inl (by rw [stateFor_bound bound, blocked])⟩
        · exact .inl (stateFor_other bound).symm
      | blocked impedes => cases impedes
  · intro _ otherNode later reached pending
    obtain ⟨node, found, moved⟩ := frame.node_moves moves reached
    cases moved with
    | kept => exact idle otherNode _ found pending
    | retried | reopened => rfl
    | blocked impedes => cases impedes

/-- A restart frees the running nodes. -/
theorem reconcile_stateFor (before : GraphExecution) (nodeId : GraphNodeId) (runId : RunId) :
    before.reconcileAfterRestart.2.stateFor nodeId runId =
      if before.stateFor nodeId runId = some .running then none else before.stateFor nodeId runId := by
  rw [stateFor, stateFor, reconcile_lookup]
  cases found : before.node? nodeId with
  | none => rfl
  | some node =>
    rw [Option.map_some, Option.bind_some, Option.bind_some]
    by_cases running : node.state = .running
    · have freed : (reconcileNode node).runId = none := by rw [reconcileNode, if_pos running]
      rw [stateFor_unbound freed]
      split
      · rfl
      · rename_i other
        by_cases bound : node.runId = some runId
        · exact absurd (by rw [stateFor_bound bound, running]) other
        · rw [stateFor_other bound]
    · rw [reconcileNode, if_neg running, if_neg]
      intro held
      exact running (stateFor_some held).2

theorem PendingUnbound.reconciled (idle : before.PendingUnbound) : before.reconcileAfterRestart.2.PendingUnbound := by
  intro nodeId later reached pending
  rw [reconcile_lookup] at reached
  obtain ⟨node, found, rfl⟩ := Option.map_eq_some_iff.mp reached
  by_cases running : node.state = .running
  · rw [reconcileNode, if_pos running] at pending
    cases pending
  · rw [reconcileNode, if_neg running] at pending ⊢
    exact idle nodeId node found pending

end Transitions

/-- No node of an execution that starts is bound. -/
theorem start_unbound {id : GraphRunId} {graph : WorkflowGraph} (started : start id graph = .ok after) :
    (∀ nodeId runId, after.stateFor nodeId runId = none) ∧ after.PendingUnbound := by
  simp only [start, bind_ok, exists_unit, pure_ok] at started
  obtain ⟨_, rfl⟩ := started
  have unbound : ∀ nodeId node, node? ⟨id, graph, graph.nodes.map fun node => ⟨node.id, .pending, none, 0, none, none⟩,
      [], none, 0⟩ nodeId = some node → node.runId = none := by
    intro nodeId node found
    obtain ⟨_, _, rfl⟩ := List.mem_map.mp (find_some found).1
    rfl
  refine ⟨fun nodeId runId => ?_, fun nodeId node found _ => unbound nodeId node found⟩
  rw [Option.eq_none_iff_forall_ne_some]
  intro state held
  obtain ⟨node, found, bound, _⟩ := stateFor_isNode held
  rw [unbound nodeId node found] at bound
  cases bound

end GraphExecution

end Bastet.Core
