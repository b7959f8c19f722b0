import Bastet.Core.ExecutionTransitions

/-! What a public operation returns, and the execution it leaves behind when it fails. -/

set_option autoImplicit false

namespace Bastet.Core

open Fallible Lookup

namespace GraphExecution

/-- One round of `retry_failed`, with the nodes it leaves where a lookup fails. -/
def reopenEachLeaving : List GraphNodeId → List GraphNodeExecution →
    Except GraphError Unit × List GraphNodeExecution
  | [], nodes => (.ok (), nodes)
  | first :: rest, nodes =>
    match reopenNode nodes first with
    | .error error => (.error error, nodes)
    | .ok nodes => reopenEachLeaving rest nodes

def reopenLoopLeaving (graph : WorkflowGraph) : Nat → List GraphNodeExecution →
    Except GraphError Unit × List GraphNodeExecution
  | 0, nodes => (.ok (), nodes)
  | fuel + 1, nodes =>
    let reopened := reopenable graph (snapshot nodes)
    if reopened.isEmpty then (.ok (), nodes)
    else
      match reopenEachLeaving reopened nodes with
      | (.error error, nodes) => (.error error, nodes)
      | (.ok _, nodes) => reopenLoopLeaving graph fuel nodes

/-- `retry_failed` resets the failed node before its loop, and changes the revision after it. -/
def retryFailedLeaving (self : GraphExecution) (nodeId : GraphNodeId) : Except GraphError Unit × GraphExecution :=
  match self.node? nodeId with
  | none => (.error .invalidExecution, self)
  | some execution =>
    if execution.state ≠ .failed then (.error .invalidExecution, self)
    else
      match reopenLoopLeaving self.graph (self.nodes.length + 1) (modifyFirst (·.nodeId) nodeId reset self.nodes) with
      | (.error error, nodes) => (.error error, { self with nodes })
      | (.ok _, nodes) => (.ok (), { self with nodes, revision := bump self.revision })

variable {self next : GraphExecution} {nodes after : List GraphNodeExecution}

theorem reopenEachLeaving_ok {chosen : List GraphNodeId} (ran : foldEach reopenNode chosen nodes = .ok after) :
    reopenEachLeaving chosen nodes = (.ok (), after) := by
  induction chosen generalizing nodes with
  | nil =>
    obtain rfl := Except.ok.inj ran
    rfl
  | cons first rest ih =>
    simp only [foldEach, bind_ok] at ran
    obtain ⟨middle, stepped, remaining⟩ := ran
    simp only [reopenEachLeaving, stepped]
    exact ih remaining

theorem reopenLoopLeaving_ok {graph : WorkflowGraph} {fuel : Nat} (ran : reopenLoop graph fuel nodes = .ok after) :
    reopenLoopLeaving graph fuel nodes = (.ok (), after) := by
  induction fuel generalizing nodes with
  | zero =>
    obtain rfl := Except.ok.inj ran
    rfl
  | succ fuel ih =>
    simp only [reopenLoop] at ran
    simp only [reopenLoopLeaving]
    split at ran
    · rename_i finished
      obtain rfl := Except.ok.inj ran
      rw [if_pos finished]
    · rename_i more
      rw [bind_ok] at ran
      obtain ⟨middle, stepped, remaining⟩ := ran
      rw [if_neg more, reopenEachLeaving_ok stepped]
      exact ih remaining

/-- An operation that checks everything before it changes anything. -/
def settle (self : GraphExecution) : Except GraphError GraphExecution → Except GraphError Unit × GraphExecution
  | .ok next => (.ok (), next)
  | .error error => (.error error, self)

/-- Once the failed node is found, the loop of `retry_failed` does not fail. -/
theorem retryFailedLeaving_eq (aligned : self.Aligned) (nodeId : GraphNodeId) :
    self.retryFailedLeaving nodeId = settle self (self.retryFailed nodeId) := by
  unfold retryFailedLeaving retryFailed
  cases found : self.node? nodeId with
  | none => rfl
  | some node =>
    by_cases failed : node.state = .failed
    · obtain ⟨after, ran⟩ : ∃ after, reopenLoop self.graph (self.nodes.length + 1)
          (modifyFirst (·.nodeId) nodeId reset self.nodes) = .ok after := by
        obtain ⟨after, ran, -⟩ := reopenLoop_preserves aligned.defined (fun _ _ (_ : True) _ => trivial)
          (self.nodes.length + 1) trivial
        exact ⟨after, ran⟩
      simp only [reopenLoopLeaving_ok ran, ran, okOr, ok_bind, failed, ne_eq, not_true_eq_false, if_false, decide_false,
        rejectIf, Bool.false_eq_true]
      rfl
    · simp only [okOr, ok_bind, ne_eq, failed, not_false_eq_true, if_true, decide_true, rejectIf, error_bind]
      rfl

/-- Every node the claim loop meets is a node of the graph, so the loop does not fail. -/
theorem claimLoop_ok (aligned : self.Aligned) (owner : String) (limit : Nat) :
    ∃ claimed, (claimLoop self.graph (snapshot self.nodes) owner limit [] self.nodes).1 = .ok claimed := by
  obtain ⟨after, chosen, ran, -, outcome⟩ :=
    claimLoop_spec self.graph (snapshot self.nodes) owner limit aligned.distinct []
  rcases outcome with ended | ⟨-, node, member, unknown⟩
  · exact ⟨_, ended⟩
  · obtain ⟨definition, known⟩ := aligned.definition_of_node (find_of_mem aligned.distinct member)
    rw [definition?, unknown] at known
    cases known

theorem claimReady_fst {owner : String} {limit : Nat} (named : isBlank owner = false) (positive : 1 ≤ limit) :
    (self.claimReady owner limit).1 = (claimLoop self.graph (snapshot self.nodes) owner limit [] self.nodes).1 := by
  have passes : (isBlank owner || decide (limit = 0)) = false := by
    simp only [named, Bool.false_or, decide_eq_false_iff_not]
    omega
  rw [claimReady, passes]
  cases loop : claimLoop self.graph (snapshot self.nodes) owner limit [] self.nodes with
  | mk result nodes => cases result <;> rfl

/-- `claim_ready` fails before its loop only. -/
theorem claimReady_error (aligned : self.Aligned) {owner : String} {limit : Nat} {error : GraphError}
    (failed : (self.claimReady owner limit).1 = .error error) : (self.claimReady owner limit).2 = self := by
  by_cases blank : (isBlank owner || decide (limit = 0)) = true
  · rw [claimReady, if_pos blank]
  · simp only [Bool.or_eq_true, decide_eq_true_eq, not_or, Bool.not_eq_true] at blank
    obtain ⟨claimed, ran⟩ := claimLoop_ok aligned owner limit
    rw [claimReady_fst blank.1 (by omega), ran] at failed
    cases failed

end GraphExecution

open GraphExecution

/-- What a caller gets back from an operation, and what the operation leaves. -/
def Operation.perform [Sha256] (self : GraphExecution) : Operation → Except GraphError Unit × GraphExecution
  | .claimReady owner limit => ((self.claimReady owner limit).1.map fun _ => (), (self.claimReady owner limit).2)
  | .claimNode nodeId owner => settle self (self.claimNode nodeId owner)
  | .stageNode nodeId owner runId => settle self (self.stageNode nodeId owner runId)
  | .activateStagedNode nodeId owner runId => settle self (self.activateStagedNode nodeId owner runId)
  | .cancelStagedNode nodeId owner runId => settle self (self.cancelStagedNode nodeId owner runId)
  | .bindRun nodeId owner runId => settle self (self.bindRun nodeId owner runId)
  | .complete nodeId owner succeeded => settle self (self.complete nodeId owner succeeded)
  | .finishTerminal nodeId owner state failure => settle self (self.finishTerminal nodeId owner state failure)
  | .retryFailed nodeId => self.retryFailedLeaving nodeId
  | .recordOutput output => settle self (self.recordOutput output)
  | .reconcileAfterRestart => (.ok (), self.reconcileAfterRestart.2)

/-- The execution an operation leaves, whatever it returns. -/
def Operation.leave [Sha256] (self : GraphExecution) (operation : Operation) : GraphExecution :=
  (operation.perform self).2

namespace Operation

variable [Sha256] {self : GraphExecution}

omit [Sha256] in
theorem settle_snd (self : GraphExecution) (result : Except GraphError GraphExecution) :
    (settle self result).2 = orUnchanged self result := by
  cases result <;> rfl

omit [Sha256] in
theorem settle_error {result : Except GraphError GraphExecution} {error : GraphError}
    (failed : (settle self result).1 = .error error) : (settle self result).2 = self := by
  cases result with
  | error _ => rfl
  | ok _ => cases failed

theorem leave_eq (aligned : self.Aligned) (operation : Operation) : operation.leave self = operation.apply self := by
  cases operation with
  | retryFailed nodeId => exact (congrArg Prod.snd (retryFailedLeaving_eq aligned nodeId)).trans (settle_snd self _)
  | claimReady | reconcileAfterRestart => rfl
  | claimNode | stageNode | activateStagedNode | cancelStagedNode | bindRun | complete | finishTerminal
  | recordOutput => exact settle_snd self _

/-- An operation that fails on an execution over its graph leaves it as it was. -/
theorem perform_error (aligned : self.Aligned) {operation : Operation} {error : GraphError}
    (failed : (operation.perform self).1 = .error error) : (operation.perform self).2 = self := by
  cases operation with
  | claimReady owner limit =>
    obtain ⟨other, stopped⟩ : ∃ other, (self.claimReady owner limit).1 = .error other := by
      simp only [perform] at failed
      cases result : (self.claimReady owner limit).1 with
      | error other => exact ⟨other, rfl⟩
      | ok _ =>
        rw [result] at failed
        cases failed
    exact claimReady_error aligned stopped
  | retryFailed nodeId =>
    simp only [perform, retryFailedLeaving_eq aligned] at failed ⊢
    exact settle_error failed
  | reconcileAfterRestart => cases failed
  | claimNode | stageNode | activateStagedNode | cancelStagedNode | bindRun | complete | finishTerminal
  | recordOutput => exact settle_error failed

/-- Along a run from an execution over its graph, what the operations leave is what they return. -/
theorem run_leave {self : GraphExecution} (invariant : Invariant self) (operations : List Operation) :
    Machine.run leave self operations = Machine.run apply self operations := by
  induction operations generalizing self with
  | nil => rfl
  | cons first rest ih =>
    rw [Machine.run_cons, Machine.run_cons, leave_eq invariant.aligned]
    exact ih (apply_invariant self first invariant)

end Operation

end Bastet.Core
