import Bastet.Core.ExecutionSafety
import Bastet.Library.Machine

/-! Safety of the scheduler over every run of the public operations: what was taken on
had everything it needs, and what cannot succeed any more is blocked. -/

set_option autoImplicit false

namespace Bastet.Core

open Fallible Lookup Gating GraphExecution

/-- The public operations on an execution. -/
inductive Operation where
  | claimReady (owner : String) (limit : Nat)
  | claimNode (nodeId : GraphNodeId) (owner : String)
  | stageNode (nodeId : GraphNodeId) (owner : String) (runId : RunId)
  | activateStagedNode (nodeId : GraphNodeId) (owner : String) (runId : RunId)
  | cancelStagedNode (nodeId : GraphNodeId) (owner : String) (runId : RunId)
  | bindRun (nodeId : GraphNodeId) (owner : String) (runId : RunId)
  | complete (nodeId : GraphNodeId) (owner : String) (succeeded : Bool)
  | finishTerminal (nodeId : GraphNodeId) (owner : String) (state : GraphNodeState) (failure : Option AdapterFailure)
  | retryFailed (nodeId : GraphNodeId)
  | recordOutput (output : GraphNodeOutput)
  | reconcileAfterRestart

/-- The execution an operation leaves: unchanged where the operation is refused. -/
def orUnchanged (self : GraphExecution) : Except GraphError GraphExecution → GraphExecution
  | .ok next => next
  | .error _ => self

def Operation.apply [Sha256] (self : GraphExecution) : Operation → GraphExecution
  | .claimReady owner limit => (self.claimReady owner limit).2
  | .claimNode nodeId owner => orUnchanged self (self.claimNode nodeId owner)
  | .stageNode nodeId owner runId => orUnchanged self (self.stageNode nodeId owner runId)
  | .activateStagedNode nodeId owner runId => orUnchanged self (self.activateStagedNode nodeId owner runId)
  | .cancelStagedNode nodeId owner runId => orUnchanged self (self.cancelStagedNode nodeId owner runId)
  | .bindRun nodeId owner runId => orUnchanged self (self.bindRun nodeId owner runId)
  | .complete nodeId owner succeeded => orUnchanged self (self.complete nodeId owner succeeded)
  | .finishTerminal nodeId owner state failure => orUnchanged self (self.finishTerminal nodeId owner state failure)
  | .retryFailed nodeId => orUnchanged self (self.retryFailed nodeId)
  | .recordOutput output => orUnchanged self (self.recordOutput output)
  | .reconcileAfterRestart => self.reconcileAfterRestart.2

/-- Every state reached is over the nodes of its graph, and safe. -/
structure Operation.Invariant (execution : GraphExecution) : Prop where
  aligned : execution.Aligned
  safe : execution.Safe

theorem Operation.orUnchanged_safe {self : GraphExecution} {result : Except GraphError GraphExecution} (safe : self.Safe)
    (accepted : ∀ next, result = .ok next → Frame self next ∧ next.Safe) :
    Frame self (orUnchanged self result) ∧ (orUnchanged self result).Safe := by
  cases result with
  | error _ => exact ⟨.refl self, safe⟩
  | ok next => exact accepted next rfl

theorem Operation.apply_safe [Sha256] {self : GraphExecution} (operation : Operation) (invariant : Invariant self) :
    Frame self (operation.apply self) ∧ (operation.apply self).Safe := by
  obtain ⟨aligned, safe⟩ := invariant
  cases operation with
  | claimReady owner limit => exact claimReady_safe aligned safe owner limit
  | claimNode nodeId owner => exact orUnchanged_safe safe fun _ => claimNode_safe aligned safe
  | stageNode nodeId owner runId => exact orUnchanged_safe safe fun _ => stageNode_safe aligned safe
  | activateStagedNode nodeId owner runId => exact orUnchanged_safe safe fun _ => activateStagedNode_safe safe
  | cancelStagedNode nodeId owner runId => exact orUnchanged_safe safe fun _ => cancelStagedNode_safe aligned safe
  | bindRun nodeId owner runId => exact orUnchanged_safe safe fun _ => bindRun_safe safe
  | complete nodeId owner succeeded => exact orUnchanged_safe safe fun _ => complete_safe aligned safe
  | finishTerminal nodeId owner state failure => exact orUnchanged_safe safe fun _ => finishTerminal_safe aligned safe
  | retryFailed nodeId => exact orUnchanged_safe safe fun _ => retryFailed_safe aligned safe
  | recordOutput output =>
    refine orUnchanged_safe safe fun next accepted => ?_
    obtain ⟨_, _, _, _, _, _, rfl⟩ := recordOutput_ok accepted
    exact ⟨⟨rfl, rfl, rfl, rfl⟩, safe⟩
  | reconcileAfterRestart => exact reconcileAfterRestart_safe safe

theorem Operation.apply_invariant [Sha256] (self : GraphExecution) (operation : Operation) (invariant : Invariant self) :
    Invariant (operation.apply self) := by
  obtain ⟨frame, safe⟩ := apply_safe operation invariant
  exact ⟨invariant.aligned.frame frame, safe⟩

/-- The states in which a node was taken on. -/
def GraphNodeState.isTaken : GraphNodeState → Bool
  | .awaitingApproval | .running | .succeeded | .failed | .cancelled | .uncertain => true
  | .pending | .blocked => false

/-- Every node that was taken on has all of its dependencies in state succeeded. -/
def GraphExecution.DependenciesSucceeded (self : GraphExecution) : Prop :=
  ∀ node ∈ self.nodes, node.state.isTaken = true →
    ∀ definition ∈ self.graph.nodes, definition.id = node.nodeId → ∀ dependency ∈ definition.needs,
      ∃ other ∈ self.nodes, other.nodeId = dependency ∧ other.state = .succeeded

/-- Every node with a direct dependency that failed, was cancelled or is blocked is blocked. -/
def GraphExecution.FailuresBlocked (self : GraphExecution) : Prop :=
  ∀ node ∈ self.nodes, ∀ definition ∈ self.graph.nodes, definition.id = node.nodeId →
    ∀ dependency ∈ definition.needs, ∀ other ∈ self.nodes, other.nodeId = dependency →
      other.state.blocks = true → node.state = .blocked

theorem Operation.Invariant.dependencies {self : GraphExecution} (invariant : Invariant self) :
    self.DependenciesSucceeded := by
  intro node member taken definition inside named dependency needed
  have found : self.node? node.nodeId = some node := find_of_mem invariant.aligned.distinct member
  have engaged : (self.stageOf node.nodeId).taken := by
    rw [stageOf_some found]
    cases state : node.state <;> simp_all [GraphNodeState.isTaken, GraphNodeState.stage, Stage.taken]
  have done := invariant.safe.settled node.nodeId engaged dependency ⟨definition, inside, named, needed⟩
  obtain ⟨other, recorded, succeeded⟩ := succeeded_iff_done.mpr done
  obtain ⟨present, same⟩ := find_some recorded
  exact ⟨other, present, same, succeeded⟩

theorem Operation.Invariant.failures {self : GraphExecution} (invariant : Invariant self) :
    self.FailuresBlocked := by
  rintro node member definition inside named dependency needed other present rfl blocks
  have found : self.node? node.nodeId = some node := find_of_mem invariant.aligned.distinct member
  have recorded : self.node? other.nodeId = some other := find_of_mem invariant.aligned.distinct present
  have impeded : (self.stageOf other.nodeId).impedes := by
    rw [stageOf_some recorded]
    exact GraphNodeState.blocks_iff.mp blocks
  have barred := invariant.safe.contained node.nodeId other.nodeId ⟨definition, inside, named, needed⟩ impeded
  rw [stageOf_some found] at barred
  exact GraphNodeState.stage_barred.mp barred

/-- Workflow safety over every run of the public operations from an accepted graph. -/
theorem workflow_safety [Sha256] (id : GraphRunId) (graph : WorkflowGraph) (started : GraphExecution)
    (accepted : GraphExecution.start id graph = .ok started) (operations : List Operation) :
    (Machine.run Operation.apply started operations).DependenciesSucceeded ∧
      (Machine.run Operation.apply started operations).FailuresBlocked := by
  obtain ⟨aligned, safe⟩ := GraphExecution.start_aligned accepted
  have reached := Machine.run_preserves Operation.apply_invariant ⟨aligned, safe⟩ operations
  exact ⟨reached.dependencies, reached.failures⟩

/-- Two research branches under one join. -/
def branchesUnderJoin : WorkflowGraph :=
  ⟨⟨50⟩, [⟨⟨51⟩, .research, ⟨1⟩, "Research A", []⟩, ⟨⟨52⟩, .research, ⟨2⟩, "Research B", []⟩,
    ⟨⟨53⟩, .join, ⟨1⟩, "Join", [⟨51⟩, ⟨52⟩]⟩]⟩

theorem workflow_safety_branches :
    let digests := Sha256.table
      [("Findings", "e171c2ff25b55e5a2d63d081ec3a65e272d11afec9169a03822c970aac37e79e")]
    let started : GraphExecution := ⟨⟨60⟩, branchesUnderJoin,
      [⟨⟨51⟩, .pending, none, 0, none, none⟩, ⟨⟨52⟩, .pending, none, 0, none, none⟩,
        ⟨⟨53⟩, .pending, none, 0, none, none⟩], [], none, 0⟩
    let reached := Machine.run (@Operation.apply digests) started
      [.claimReady "scheduler" 2, .complete ⟨51⟩ "scheduler" false, .complete ⟨52⟩ "scheduler" true,
        .recordOutput ⟨⟨52⟩, ⟨8⟩, outputHash "Findings", "Findings"⟩, .retryFailed ⟨51⟩, .stageNode ⟨51⟩ "scheduler" ⟨7⟩]
    reached.DependenciesSucceeded ∧ reached.FailuresBlocked := by
  intro digests started reached
  exact @workflow_safety digests ⟨60⟩ branchesUnderJoin started (by decide) _

end Bastet.Core
