import Bastet.Core.ExecutionHistory

/-! What every operation keeps of any valid execution, also of one that was not started here. -/

set_option autoImplicit false

namespace Bastet.Core

open Fallible Lookup GraphExecution

variable [Sha256] {self next : GraphExecution}

namespace Operation

omit [Sha256] in
theorem orUnchanged_frame {result : Except GraphError GraphExecution}
    (accepted : ∀ next, result = .ok next → Frame self next) : Frame self (orUnchanged self result) := by
  cases result with
  | error _ => exact .refl self
  | ok next => exact accepted next rfl

omit [Sha256] in
/-- A node that ends keeps the frame, also when its dependents are blocked. -/
theorem frame_fail {nodeId : GraphNodeId} {change : GraphNodeExecution → GraphNodeExecution}
    (kept : ∀ node, (change node).nodeId = node.nodeId) :
    Frame self ((self.updateNode nodeId change).blockDependents nodeId) :=
  (frame_updateNode kept).trans (frame_blockDependents _ nodeId)

omit [Sha256] in
theorem retryFailed_frame (aligned : self.Aligned) {nodeId : GraphNodeId}
    (accepted : self.retryFailed nodeId = .ok next) : Frame self next := by
  obtain ⟨node, nodes, _, _, ran, rfl⟩ := retryFailed_ok accepted
  have rounds : ∀ middle after : List GraphNodeExecution, middle.map (·.nodeId) = self.nodes.map (·.nodeId) →
      Reset middle after (reopenable self.graph (snapshot middle)) → after.map (·.nodeId) = self.nodes.map (·.nodeId) :=
    fun _ _ keys spec => spec.keys.trans keys
  obtain ⟨after, again, keys, -⟩ := reopenLoop_preserves aligned.defined rounds (self.nodes.length + 1)
    (modifyFirst_reset self.nodes nodeId).keys
  obtain rfl := Except.ok.inj (ran.symm.trans again)
  exact ⟨rfl, rfl, rfl, keys⟩

omit [Sha256] in
theorem claimReady_frame (aligned : self.Aligned) (owner : String) (limit : Nat) :
    Frame self (self.claimReady owner limit).2 := by
  unfold GraphExecution.claimReady
  split
  · exact .refl self
  · obtain ⟨after, chosen, ran, spec, -⟩ :=
      claimLoop_spec self.graph (snapshot self.nodes) owner limit aligned.distinct []
    split <;> rename_i result <;> rw [result] at ran <;> subst ran <;> exact ⟨rfl, rfl, rfl, spec.keys⟩

theorem apply_frame (aligned : self.Aligned) (operation : Operation) : Frame self (operation.apply self) := by
  cases operation with
  | claimReady owner limit => exact claimReady_frame aligned owner limit
  | claimNode nodeId owner =>
    refine orUnchanged_frame fun next accepted => ?_
    obtain ⟨_, _, _, _, _, _, rfl⟩ := claimNode_ok accepted
    exact frame_updateNode fun _ => rfl
  | stageNode nodeId owner runId =>
    refine orUnchanged_frame fun next accepted => ?_
    simp only [GraphExecution.stageNode, bind_ok, pure_ok] at accepted
    obtain ⟨_, _, _, _, _, _, _, _, _, _, rfl⟩ := accepted
    exact frame_updateNode fun _ => rfl
  | activateStagedNode nodeId owner runId =>
    refine orUnchanged_frame fun next accepted => ?_
    obtain ⟨_, _, _, _, _, rfl⟩ := activateStagedNode_ok accepted
    exact frame_updateNode fun _ => rfl
  | cancelStagedNode nodeId owner runId =>
    refine orUnchanged_frame fun next accepted => ?_
    obtain ⟨_, _, _, _, _, rfl⟩ := cancelStagedNode_ok accepted
    exact frame_fail fun _ => rfl
  | bindRun nodeId owner runId =>
    refine orUnchanged_frame fun next accepted => ?_
    obtain ⟨_, _, _, _, _, rfl⟩ := bindRun_ok accepted
    have kept : ∀ node : GraphNodeExecution, { node with runId := some runId }.nodeId = node.nodeId := fun _ => rfl
    exact ⟨rfl, rfl, rfl, map_modifyFirst kept self.nodes⟩
  | complete nodeId owner succeeded =>
    refine orUnchanged_frame fun next accepted => ?_
    obtain ⟨_, _, _, _, rfl⟩ := complete_ok accepted
    split
    · exact frame_updateNode fun _ => rfl
    · exact frame_fail fun _ => rfl
  | finishTerminal nodeId owner state failure =>
    refine orUnchanged_frame fun next accepted => ?_
    obtain ⟨_, _, _, _, _, rfl⟩ := finishTerminal_ok accepted
    split
    · exact frame_fail fun _ => rfl
    · exact frame_updateNode fun _ => rfl
  | retryFailed nodeId => exact orUnchanged_frame fun _ => retryFailed_frame aligned
  | recordOutput output =>
    refine orUnchanged_frame fun next accepted => ?_
    obtain ⟨_, _, _, _, _, _, rfl⟩ := recordOutput_ok accepted
    exact ⟨rfl, rfl, rfl, rfl⟩
  | reconcileAfterRestart =>
    refine ⟨rfl, rfl, rfl, ?_⟩
    show (self.nodes.map reconcileNode).map (·.nodeId) = self.nodes.map (·.nodeId)
    rw [List.map_map]
    exact List.map_congr_left fun node _ => by
      unfold Function.comp reconcileNode
      split <;> rfl

/-- A run of operations keeps the frame and the checks of a stored execution, and what has ended. -/
theorem run_kept (valid : self.Valid) (operations : List Operation) :
    Frame self (Machine.run apply self operations) ∧ (Machine.run apply self operations).Valid ∧
      Remembers self (Machine.run apply self operations) := by
  have preserved : ∀ (execution : GraphExecution) (operation : Operation),
      Frame self execution ∧ execution.Valid ∧ Remembers self execution →
      Frame self (operation.apply execution) ∧ (operation.apply execution).Valid ∧
        Remembers self (operation.apply execution) := by
    rintro execution operation ⟨frame, checked, remembers⟩
    have kept := apply_frame checked.aligned operation
    exact ⟨frame.trans kept, apply_valid operation checked kept,
      remembers.trans (apply_remembers checked.aligned operation)⟩
  exact Machine.run_preserves preserved ⟨.refl self, valid, .refl self⟩ operations

end Operation

end Bastet.Core
