import Bastet.Core.ExecutionResults

/-! The checks a stored execution has to pass, and that no operation leads out of them. -/

set_option autoImplicit false

namespace Bastet.Core

open Fallible Lookup GraphExecution

namespace GraphExecution

variable [Sha256] {self next : GraphExecution}

/-- What `validate` establishes. -/
structure Valid (execution : GraphExecution) : Prop where
  graph : execution.graph.validate = .ok ()
  aligned : execution.Aligned
  states : ∀ node ∈ execution.nodes, executionStateIsValid node = true
  runs : (execution.outputs.map (·.runId)).Nodup
  outputs : ∀ output ∈ execution.outputs,
    output.validate = .ok () ∧ output.nodeId ∈ execution.graph.nodes.map (·.id)

omit [Sha256] in
/-- As many records as nodes, all different and all of nodes of the graph, are one for each. -/
theorem aligned_iff (valid : self.graph.Valid) :
    self.Aligned ↔ self.nodes.length = self.graph.nodes.length ∧ (self.nodes.map (·.nodeId)).Nodup ∧
      ∀ node ∈ self.nodes, node.nodeId ∈ self.graph.nodes.map (·.id) := by
  constructor
  · intro aligned
    have same : (self.nodes.map (·.nodeId)).Perm (self.graph.nodes.map (·.id)) :=
      (List.perm_ext_iff_of_nodup aligned.distinct aligned.defined).mpr aligned.same
    refine ⟨by simpa using same.length_eq, aligned.distinct, fun node member => ?_⟩
    exact (aligned.same _).mp (List.mem_map_of_mem member)
  · rintro ⟨sized, distinct, known⟩
    have subset : self.nodes.map (·.nodeId) ⊆ self.graph.nodes.map (·.id) := by
      intro id member
      obtain ⟨node, inside, rfl⟩ := List.mem_map.mp member
      exact known node inside
    have same : (self.nodes.map (·.nodeId)).Perm (self.graph.nodes.map (·.id)) :=
      (List.subperm_of_subset distinct subset).perm_of_length_le (by simp [sized])
    exact ⟨valid.distinct, distinct, fun id => same.mem_iff⟩

theorem validate_iff : self.validate = .ok () ↔ self.Valid := by
  simp only [validate, bind_ok, exists_unit, rejectIf_ok, Bool.or_eq_false_iff, decide_eq_false_iff_not, ne_eq,
    not_not, List.any_eq_false, Bool.not_eq_true', Bool.or_eq_true, not_or, Bool.not_eq_false, isOk_unit,
    decide_eq_true_eq, not_forall, exists_prop]
  constructor
  · rintro ⟨graph, ⟨⟨sized, distinct⟩, nodes⟩, distinctRuns, outputs⟩
    have distinct := card_toFinset_iff.mp (distinct.trans (List.length_map ..).symm)
    have known : ∀ node ∈ self.nodes, node.nodeId ∈ self.graph.nodes.map (·.id) :=
      fun node member => List.mem_map.mpr (nodes node member).1
    refine ⟨graph, (aligned_iff (WorkflowGraph.validate_valid graph)).mpr ⟨sized, distinct, known⟩,
      fun node member => (nodes node member).2, ?_, fun output member => ?_⟩
    · exact card_toFinset_iff.mp (distinctRuns.trans (List.length_map ..).symm)
    · exact ⟨(outputs output member).1, List.mem_map.mpr (outputs output member).2⟩
  · rintro ⟨graph, aligned, states, runs, outputs⟩
    obtain ⟨sized, distinct, known⟩ := (aligned_iff (WorkflowGraph.validate_valid graph)).mp aligned
    refine ⟨graph, ⟨⟨sized, ?_⟩, fun node member => ?_⟩, ?_, fun output member => ?_⟩
    · exact (card_toFinset_iff.mpr distinct).trans (List.length_map ..)
    · exact ⟨List.mem_map.mp (known node member), states node member⟩
    · exact (card_toFinset_iff.mpr runs).trans (List.length_map ..)
    · exact ⟨(outputs output member).1, List.mem_map.mp (outputs output member).2⟩

theorem start_valid {id : GraphRunId} {graph : WorkflowGraph} (started : start id graph = .ok self) : self.Valid := by
  obtain ⟨aligned, -⟩ := start_aligned started
  simp only [start, bind_ok, exists_unit, pure_ok] at started
  obtain ⟨accepted, rfl⟩ := started
  refine ⟨accepted, aligned, fun node member => ?_, List.nodup_nil, fun _ member => by cases member⟩
  obtain ⟨_, _, rfl⟩ := List.mem_map.mp member
  rfl

theorem restartAs_valid {id : GraphRunId} (restarted : self.restartAs id = .ok next) : next.Valid := by
  simp only [restartAs, bind_ok, exists_unit, rejectIf_ok, pure_ok] at restarted
  obtain ⟨_, _, begun, started, rfl⟩ := restarted
  obtain ⟨graph, ⟨defined, distinct, same⟩, states, runs, outputs⟩ := start_valid started
  exact ⟨graph, ⟨defined, distinct, same⟩, states, runs, outputs⟩

end GraphExecution

theorem Transition.state_valid {operation : Operation} {node later : GraphNodeExecution}
    (moves : Transition operation node later) (valid : executionStateIsValid node = true) :
    executionStateIsValid later = true := by
  cases moves with
  | kept => exact valid
  | claimedReady | claimed | retried | reopened => rfl
  | staged named => simp [executionStateIsValid, stage, named]
  | activated _ owned | cancelled _ owned => simp [executionStateIsValid, activate, cancel, owned]
  | bound running owned => simp [executionStateIsValid, running, owned]
  | @completed _ succeeded _ _ owned => cases succeeded <;> simp [executionStateIsValid, conclude, owned]
  | @finished _ state _ _ terminal =>
    cases state <;> simp_all [executionStateIsValid, finish, GraphNodeState.keepsOwner, GraphNodeState.isTerminal]
  | blocked _ pending =>
    rw [block, if_pos pending]
    simpa [executionStateIsValid, pending] using valid
  | reconciled running => simp [executionStateIsValid, reconcileNode, running]

namespace Operation

variable [Sha256] {self : GraphExecution}

omit [Sha256] in
theorem orUnchanged_outputs {result : Except GraphError GraphExecution}
    (accepted : ∀ next, result = .ok next → next.outputs = self.outputs) :
    (orUnchanged self result).outputs = self.outputs := by
  cases result with
  | error _ => rfl
  | ok next => exact accepted next rfl

/-- Only `record_output` changes the outputs of an execution. -/
theorem apply_outputs (self : GraphExecution) (operation : Operation) :
    (operation.apply self).outputs = self.outputs ∨
      ∃ output, operation = .recordOutput output ∧ self.recordOutput output = .ok (operation.apply self) := by
  cases operation with
  | recordOutput output =>
    cases recorded : self.recordOutput output with
    | error _ => exact .inl (by rw [apply, recorded]; rfl)
    | ok next => exact .inr ⟨output, rfl, by rw [apply, recorded]; rfl⟩
  | claimReady owner limit =>
    left
    simp only [apply, GraphExecution.claimReady]
    split
    · rfl
    · split <;> rfl
  | claimNode nodeId owner =>
    refine .inl (orUnchanged_outputs fun next accepted => ?_)
    obtain ⟨_, _, _, _, _, _, rfl⟩ := claimNode_ok accepted
    rfl
  | stageNode nodeId owner runId =>
    refine .inl (orUnchanged_outputs fun next accepted => ?_)
    obtain ⟨_, _, _, _, _, _, _, _, _, _, rfl⟩ := stageNode_ok accepted
    rfl
  | activateStagedNode nodeId owner runId =>
    refine .inl (orUnchanged_outputs fun next accepted => ?_)
    obtain ⟨_, _, _, _, _, rfl⟩ := activateStagedNode_ok accepted
    rfl
  | cancelStagedNode nodeId owner runId =>
    refine .inl (orUnchanged_outputs fun next accepted => ?_)
    obtain ⟨_, _, _, _, _, rfl⟩ := cancelStagedNode_ok accepted
    rfl
  | bindRun nodeId owner runId =>
    refine .inl (orUnchanged_outputs fun next accepted => ?_)
    obtain ⟨_, _, _, _, _, rfl⟩ := bindRun_ok accepted
    rfl
  | complete nodeId owner succeeded =>
    refine .inl (orUnchanged_outputs fun next accepted => ?_)
    obtain ⟨_, _, _, _, rfl⟩ := complete_ok accepted
    split <;> rfl
  | finishTerminal nodeId owner state failure =>
    refine .inl (orUnchanged_outputs fun next accepted => ?_)
    obtain ⟨_, _, _, _, _, rfl⟩ := finishTerminal_ok accepted
    split <;> rfl
  | retryFailed nodeId =>
    refine .inl (orUnchanged_outputs fun next accepted => ?_)
    obtain ⟨_, _, _, _, _, rfl⟩ := retryFailed_ok accepted
    rfl
  | reconcileAfterRestart => exact .inl rfl

/-- Outputs stay of different runs, well formed, and of nodes of the graph. -/
theorem apply_outputs_valid (operation : Operation) (valid : self.Valid) :
    ((operation.apply self).outputs.map (·.runId)).Nodup ∧ ∀ output ∈ (operation.apply self).outputs,
      output.validate = .ok () ∧ output.nodeId ∈ self.graph.nodes.map (·.id) := by
  rcases apply_outputs self operation with same | ⟨output, rfl, recorded⟩
  · rw [same]
    exact ⟨valid.runs, valid.outputs⟩
  · obtain ⟨node, outputValid, fresh, found, -, -, next⟩ := recordOutput_ok recorded
    rw [next]
    constructor
    · rw [List.map_append, List.map_singleton, List.nodup_append]
      refine ⟨valid.runs, List.nodup_singleton _, ?_⟩
      intro used inside new same
      obtain ⟨existing, present, rfl⟩ := List.mem_map.mp inside
      rw [List.mem_singleton.mp same]
      exact fresh existing present
    · intro other member
      rcases List.mem_append.mp member with old | new
      · exact valid.outputs other old
      · obtain rfl := List.mem_singleton.mp new
        obtain ⟨inside, named⟩ := find_some found
        exact ⟨outputValid, (valid.aligned.same _).mp (named ▸ List.mem_map_of_mem inside)⟩

theorem apply_valid (operation : Operation) (valid : self.Valid) (frame : Frame self (operation.apply self)) :
    (operation.apply self).Valid := by
  have aligned := valid.aligned.frame frame
  have moves := apply_transitions valid.aligned operation
  have states : ∀ node ∈ (operation.apply self).nodes, executionStateIsValid node = true := by
    intro node member
    have found : (operation.apply self).node? node.nodeId = some node := find_of_mem aligned.distinct member
    obtain ⟨before, recorded⟩ : ∃ before, self.node? node.nodeId = some before :=
      exists_of_mem_keys (frame.keys ▸ List.mem_map_of_mem member)
    obtain ⟨later, looked, moved⟩ := moves node.nodeId before recorded
    obtain rfl := Option.some.inj (found.symm.trans looked)
    exact moved.state_valid (valid.states before (find_some recorded).1)
  have outputs := apply_outputs_valid operation valid
  refine ⟨frame.graph ▸ valid.graph, aligned, states, outputs.1, ?_⟩
  rw [frame.graph]
  exact outputs.2

/-- Every state reached is over its graph and safe, and passes the checks of a stored execution. -/
theorem run_valid (invariant : Invariant self) (valid : self.Valid) (operations : List Operation) :
    Invariant (Machine.run apply self operations) ∧ (Machine.run apply self operations).Valid := by
  have preserved : ∀ (execution : GraphExecution) (operation : Operation), Invariant execution ∧ execution.Valid →
      Invariant (operation.apply execution) ∧ (operation.apply execution).Valid := by
    rintro execution operation ⟨sound, checked⟩
    exact ⟨apply_invariant execution operation sound, apply_valid operation checked (apply_safe operation sound).1⟩
  exact Machine.run_preserves preserved ⟨invariant, valid⟩ operations

end Operation

/-- Validation is preserved by every run of the public operations, and an operation that fails
leaves the execution as it was. -/
theorem validation_preserved [Sha256] (id : GraphRunId) (graph : WorkflowGraph) (started : GraphExecution)
    (accepted : GraphExecution.start id graph = .ok started) (operations : List Operation) :
    let reached := Machine.run Operation.leave started operations
    reached.validate = .ok () ∧
      (∀ other restarted, reached.restartAs other = .ok restarted → restarted.validate = .ok ()) ∧
      ∀ operation error, (Operation.perform reached operation).1 = .error error →
        (Operation.perform reached operation).2 = reached := by
  obtain ⟨aligned, safe⟩ := GraphExecution.start_aligned accepted
  have invariant : Operation.Invariant started := ⟨aligned, safe⟩
  rw [Operation.run_leave invariant]
  obtain ⟨reached, valid⟩ := Operation.run_valid invariant (start_valid accepted) operations
  refine ⟨validate_iff.mpr valid, fun _ _ restarted => validate_iff.mpr (restartAs_valid restarted), ?_⟩
  exact fun _ _ => Operation.perform_error reached.aligned

theorem validation_preserved_branches :
    let digests := Sha256.table []
    let started : GraphExecution := ⟨⟨60⟩, branchesUnderJoin,
      [⟨⟨51⟩, .pending, none, 0, none, none⟩, ⟨⟨52⟩, .pending, none, 0, none, none⟩,
        ⟨⟨53⟩, .pending, none, 0, none, none⟩], [], none, 0⟩
    let reached := Machine.run (@Operation.leave digests) started
      [.stageNode ⟨51⟩ "scheduler" ⟨7⟩, .cancelStagedNode ⟨51⟩ "scheduler" ⟨7⟩, .retryFailed ⟨51⟩]
    @GraphExecution.validate digests reached = .ok () := by
  intro digests started reached
  exact (@validation_preserved digests ⟨60⟩ branchesUnderJoin started (by decide) _).1

end Bastet.Core
