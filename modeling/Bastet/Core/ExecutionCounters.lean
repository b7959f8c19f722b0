import Bastet.Core.ExecutionWrites

/-! The revision counters of nodes: an operation moves a node at most once, and so does any
number of restarts and cancellations together. -/

set_option autoImplicit false

namespace Bastet.Core

open Fallible Lookup GraphExecution

/-- A `u64` counter below its greatest value is increased by one. -/
theorem bump_eq {revision : Nat} (room : revision < 2 ^ 64 - 1) : bump revision = revision + 1 := by
  unfold bump
  exact Nat.mod_eq_of_lt (by omega)

/-- A node that moves is counted once; binding it to a run does not count. -/
theorem Transition.revision {operation : Operation} {node later : GraphNodeExecution}
    (moves : Transition operation node later) :
    later.revision = node.revision ∨ later.revision = bump node.revision := by
  cases moves with
  | kept | bound => exact .inl rfl
  | claimedReady | claimed | staged | activated | cancelled | completed | finished | retried | reopened => exact .inr rfl
  | blocked _ pending =>
    rw [block, if_pos pending]
    exact .inr rfl
  | reconciled running =>
    rw [reconcileNode, if_pos running]
    exact .inr rfl

/-- The states in which a cancellation or a restart leaves a node, and which neither of them leaves. -/
def GraphNodeState.isOver : GraphNodeState → Bool
  | .cancelled | .blocked | .uncertain => true
  | _ => false

namespace GraphExecution

variable {before middle after : GraphExecution}

/-- Every node is counted once at most. -/
def CountsOnce (before after : GraphExecution) : Prop :=
  ∀ id node, before.node? id = some node → ∃ later, after.node? id = some later ∧
    (later.revision = node.revision ∨ later.revision = bump node.revision)

/-- Nodes are as they were, or are over and were counted once. -/
def Closes (before after : GraphExecution) : Prop :=
  ∀ id node, before.node? id = some node → ∃ later, after.node? id = some later ∧
    (later = node ∨ node.state.isOver = false ∧ later.state.isOver = true ∧ later.revision = bump node.revision)

theorem CountsOnce.of_transitions {operation : Operation} (moves : Transitions operation before after) :
    CountsOnce before after := by
  intro id node found
  obtain ⟨later, looked, moved⟩ := moves id node found
  exact ⟨later, looked, moved.revision⟩

theorem Closes.refl (self : GraphExecution) : Closes self self :=
  fun _ node found => ⟨node, found, .inl rfl⟩

theorem Closes.trans (first : Closes before middle) (second : Closes middle after) : Closes before after := by
  intro id node found
  obtain ⟨later, looked, moved⟩ := first id node found
  obtain ⟨last, reached, further⟩ := second id later looked
  refine ⟨last, reached, ?_⟩
  rcases moved with rfl | ⟨started, ended, counted⟩
  · exact further
  · rcases further with rfl | ⟨again, _, _⟩
    · exact .inr ⟨started, ended, counted⟩
    · rw [ended] at again
      cases again

theorem Closes.countsOnce (closes : Closes before after) : CountsOnce before after := by
  intro id node found
  obtain ⟨later, looked, moved⟩ := closes id node found
  refine ⟨later, looked, ?_⟩
  rcases moved with rfl | ⟨_, _, counted⟩
  · exact .inl rfl
  · exact .inr counted

theorem cancelStagedNode_closes {nodeId : GraphNodeId} {owner : String} {runId : RunId}
    (accepted : before.cancelStagedNode nodeId owner runId = .ok after) : Closes before after := by
  intro id node found
  obtain ⟨later, looked, moves⟩ := cancelStagedNode_transitions accepted id node found
  refine ⟨later, looked, ?_⟩
  cases moves with
  | kept => exact .inl rfl
  | cancelled awaiting => exact .inr ⟨by rw [awaiting]; rfl, rfl, rfl⟩
  | blocked _ pending =>
    rw [block, if_pos pending]
    exact .inr ⟨by rw [pending]; rfl, rfl, rfl⟩

theorem reconcileAfterRestart_closes (self : GraphExecution) : Closes self self.reconcileAfterRestart.2 := by
  intro id node found
  obtain ⟨later, looked, moves⟩ := reconcileAfterRestart_transitions self id node found
  refine ⟨later, looked, ?_⟩
  cases moves with
  | kept => exact .inl rfl
  | reconciled running =>
    rw [reconcileNode, if_pos running]
    exact .inr ⟨by rw [running]; rfl, rfl, rfl⟩
  | blocked impedes => cases impedes

end GraphExecution

end Bastet.Core
