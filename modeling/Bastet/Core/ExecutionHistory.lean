import Bastet.Core.ExecutionValid

/-! What stays of an execution for good: nodes that ended other than by a failure, and
the outputs in the order in which they were recorded. -/

set_option autoImplicit false

namespace Bastet.Core

open Fallible Lookup GraphExecution

/-- The states that no operation leaves. -/
def GraphNodeState.isSettled : GraphNodeState → Bool
  | .succeeded | .cancelled | .uncertain => true
  | _ => false

theorem Transition.settled {operation : Operation} {node later : GraphNodeExecution}
    (moves : Transition operation node later) (settled : node.state.isSettled = true) : later = node := by
  cases moves with
  | kept => rfl
  | claimedReady pending | claimed pending => rw [pending] at settled; cases settled
  | staged _ pending => rw [pending] at settled; cases settled
  | activated awaiting | cancelled awaiting => rw [awaiting] at settled; cases settled
  | bound running | completed running => rw [running] at settled; cases settled
  | finished _ running => rw [running] at settled; cases settled
  | retried failed => rw [failed] at settled; cases settled
  | reopened blocked => rw [blocked] at settled; cases settled
  | blocked _ pending => rw [pending] at settled; cases settled
  | reconciled running => rw [running] at settled; cases settled

/-- A failed node stays failed, or is the one that is retried. -/
theorem Transition.failed {operation : Operation} {node later : GraphNodeExecution}
    (moves : Transition operation node later) (failed : node.state = .failed) :
    later = node ∨ operation = .retryFailed node.nodeId ∧ later.state = .pending := by
  cases moves with
  | kept => exact .inl rfl
  | retried => exact .inr ⟨rfl, rfl⟩
  | claimedReady pending | claimed pending => rw [pending] at failed; cases failed
  | staged _ pending => rw [pending] at failed; cases failed
  | activated awaiting | cancelled awaiting => rw [awaiting] at failed; cases failed
  | bound running | completed running => rw [running] at failed; cases failed
  | finished _ running => rw [running] at failed; cases failed
  | reopened blocked => rw [blocked] at failed; cases failed
  | blocked _ pending => rw [pending] at failed; cases failed
  | reconciled running => rw [running] at failed; cases failed

/-- What every later state of an execution keeps. -/
structure Remembers (before after : GraphExecution) : Prop where
  settled : ∀ id node, before.node? id = some node → node.state.isSettled = true → after.node? id = some node
  outputs : before.outputs <+: after.outputs

namespace Remembers

variable {before after last : GraphExecution}

theorem refl (before : GraphExecution) : Remembers before before :=
  ⟨fun _ _ found _ => found, List.prefix_refl _⟩

theorem trans (first : Remembers before after) (second : Remembers after last) : Remembers before last :=
  ⟨fun id node found settled => second.settled id node (first.settled id node found settled) settled,
    first.outputs.trans second.outputs⟩

/-- The output of a node that succeeded in a run stays its output. -/
theorem output (remembers : Remembers before after) {nodeId : GraphNodeId} {node : GraphNodeExecution} {runId : RunId}
    (found : before.node? nodeId = some node) (settled : node.state.isSettled = true) (bound : node.runId = some runId)
    {recorded : GraphNodeOutput} (output : before.output nodeId = some recorded) :
    after.output nodeId = some recorded := by
  obtain ⟨added, extended⟩ := remembers.outputs
  simp only [GraphExecution.output, found, Option.bind_some, bound] at output
  simp only [GraphExecution.output, remembers.settled nodeId node found settled, Option.bind_some, bound]
  rw [← extended, List.find?_append, output, Option.some_or]

end Remembers

theorem Operation.apply_remembers [Sha256] {self : GraphExecution} (aligned : self.Aligned) (operation : Operation) :
    Remembers self (operation.apply self) := by
  constructor
  · intro id node found settled
    obtain ⟨later, looked, moves⟩ := apply_transitions aligned operation id node found
    exact moves.settled settled ▸ looked
  · rcases apply_outputs self operation with same | ⟨output, _, recorded⟩
    · rw [same]
    · obtain ⟨_, _, _, _, _, _, next⟩ := recordOutput_ok recorded
      rw [next]
      exact List.prefix_append _ _

/-- No re-execution, over every run of the public operations and every continuation of it. -/
theorem no_reexecution [Sha256] (id : GraphRunId) (graph : WorkflowGraph) (started : GraphExecution)
    (accepted : GraphExecution.start id graph = .ok started) (operations more : List Operation) :
    let reached := Machine.run Operation.leave started operations
    let later := Machine.run Operation.leave reached more
    (∀ nodeId node, reached.node? nodeId = some node →
      node.state = .succeeded ∨ node.state = .cancelled ∨ node.state = .uncertain →
      ∃ after, later.node? nodeId = some after ∧ after.state = node.state ∧ after.owner = node.owner ∧
        after.runId = node.runId) ∧
    (∀ operation nodeId node, reached.node? nodeId = some node → node.state = .failed →
      ∃ after, (Operation.leave reached operation).node? nodeId = some after ∧
        (after.state = .failed ∨ operation = .retryFailed nodeId ∧ after.state = .pending)) ∧
    reached.outputs <+: later.outputs ∧
    (∀ nodeId node runId output, reached.node? nodeId = some node → node.state = .succeeded →
      node.runId = some runId → reached.output nodeId = some output → later.output nodeId = some output) := by
  obtain ⟨aligned, safe⟩ := GraphExecution.start_aligned accepted
  have begun : Operation.Invariant started := ⟨aligned, safe⟩
  have reached := Machine.run_preserves Operation.apply_invariant begun operations
  rw [Operation.run_leave begun]
  dsimp only
  rw [Operation.run_leave reached]
  have remembers := Machine.run_relates Operation.Invariant Remembers Remembers.refl
    (fun _ _ _ => Remembers.trans) Operation.apply_invariant
    (fun _ operation invariant => Operation.apply_remembers invariant.aligned operation) reached more
  refine ⟨?_, ?_, remembers.outputs, ?_⟩
  · intro nodeId node found ended
    have settled : node.state.isSettled = true := by
      rcases ended with state | state | state <;> rw [state] <;> rfl
    exact ⟨node, remembers.settled nodeId node found settled, rfl, rfl, rfl⟩
  · intro operation nodeId node found failed
    obtain ⟨after, looked, moves⟩ := Operation.apply_transitions reached.aligned operation nodeId node found
    obtain rfl := (find_some found).2
    rw [Operation.leave_eq reached.aligned]
    refine ⟨after, looked, ?_⟩
    rcases moves.failed failed with rfl | retried
    · exact .inl failed
    · exact .inr retried
  · intro nodeId node runId output found succeeded bound recorded
    exact remembers.output found (by rw [succeeded]; rfl) bound recorded

theorem no_reexecution_branches :
    let digests := Sha256.table [("Findings", "e171c2ff25b55e5a2d63d081ec3a65e272d11afec9169a03822c970aac37e79e")]
    let findings : GraphNodeOutput :=
      ⟨⟨51⟩, ⟨7⟩, "sha256:e171c2ff25b55e5a2d63d081ec3a65e272d11afec9169a03822c970aac37e79e", "Findings"⟩
    let started : GraphExecution := ⟨⟨60⟩, branchesUnderJoin,
      [⟨⟨51⟩, .pending, none, 0, none, none⟩, ⟨⟨52⟩, .pending, none, 0, none, none⟩,
        ⟨⟨53⟩, .pending, none, 0, none, none⟩], [], none, 0⟩
    let reached := Machine.run (@Operation.leave digests) started
      [.stageNode ⟨51⟩ "scheduler" ⟨7⟩, .activateStagedNode ⟨51⟩ "scheduler" ⟨7⟩,
        .finishTerminal ⟨51⟩ "scheduler" .succeeded none, .recordOutput findings]
    let later := Machine.run (@Operation.leave digests) reached
      [.claimNode ⟨52⟩ "scheduler", .complete ⟨52⟩ "scheduler" false, .retryFailed ⟨52⟩, .reconcileAfterRestart]
    later.output ⟨51⟩ = some findings := by
  intro digests findings started reached later
  have history := @no_reexecution digests ⟨60⟩ branchesUnderJoin started (by decide)
    [.stageNode ⟨51⟩ "scheduler" ⟨7⟩, .activateStagedNode ⟨51⟩ "scheduler" ⟨7⟩,
      .finishTerminal ⟨51⟩ "scheduler" .succeeded none, .recordOutput findings]
    [.claimNode ⟨52⟩ "scheduler", .complete ⟨52⟩ "scheduler" false, .retryFailed ⟨52⟩, .reconcileAfterRestart]
  exact history.2.2.2 ⟨51⟩ ⟨⟨51⟩, .succeeded, some "scheduler", 3, some ⟨7⟩, none⟩ ⟨7⟩ findings (by decide) rfl rfl
    (by decide)

end Bastet.Core
