import Bastet.Core.ExecutionHistory

/-! The runs that are attributed to nodes. Staging checks that a run id is new, binding and recording
do not: no two nodes share a run exactly as long as these two are given run ids of no other node. -/

set_option autoImplicit false

namespace Bastet.Core

open Fallible Lookup GraphExecution

namespace GraphExecution

variable {self next : GraphExecution} {nodeId : GraphNodeId} {runId : RunId} {node : GraphNodeExecution}

/-- A run belongs to one node: no other node carries its id, and no output of another node was recorded for it. -/
structure RunsApart (execution : GraphExecution) : Prop where
  nodes : ∀ first ∈ execution.nodes, ∀ second ∈ execution.nodes, ∀ runId, first.runId = some runId →
    second.runId = some runId → first.nodeId = second.nodeId
  outputs : ∀ node ∈ execution.nodes, ∀ output ∈ execution.outputs, node.runId = some output.runId →
    output.nodeId = node.nodeId

/-- No node but this one carries the run id. -/
def UnsharedBy (self : GraphExecution) (nodeId : GraphNodeId) (runId : RunId) : Prop :=
  ∀ other ∈ self.nodes, other.nodeId ≠ nodeId → other.runId ≠ some runId

/-- No output of a node but this one was recorded for the run. -/
def UnrecordedBy (self : GraphExecution) (nodeId : GraphNodeId) (runId : RunId) : Prop :=
  ∀ output ∈ self.outputs, output.nodeId ≠ nodeId → output.runId ≠ runId

/-- The node is running for the owner without a run. -/
def bindable (self : GraphExecution) (nodeId : GraphNodeId) (owner : String) : Bool :=
  (self.node? nodeId).any fun node => runningFor node owner && node.runId.isNone

/-- The output is well formed, of a run without an output, and of an ended node that has no other run. -/
def recordable [Sha256] (self : GraphExecution) (output : GraphNodeOutput) : Bool :=
  isOk output.validate && (self.outputs.all fun existing => existing.runId ≠ output.runId) &&
    (self.node? output.nodeId).any fun node =>
      (node.state = .succeeded || node.state = .failed) && node.runId.all fun runId => runId = output.runId

theorem bindable_iff {owner : String} : self.bindable nodeId owner = true ↔
    ∃ node, self.node? nodeId = some node ∧ runningFor node owner = true ∧ node.runId = none := by
  unfold bindable
  cases self.node? nodeId <;> simp

theorem recordable_iff [Sha256] {output : GraphNodeOutput} : self.recordable output = true ↔
    output.validate = .ok () ∧ (∀ existing ∈ self.outputs, existing.runId ≠ output.runId) ∧
      ∃ node, self.node? output.nodeId = some node ∧ (node.state = .succeeded ∨ node.state = .failed) ∧
        ∀ runId, node.runId = some runId → runId = output.runId := by
  simp only [recordable, Bool.and_eq_true, isOk_unit, List.all_eq_true, decide_eq_true_eq, and_assoc]
  refine and_congr_right fun _ => and_congr_right fun _ => ?_
  cases self.node? output.nodeId with
  | none => simp
  | some node => cases run : node.runId <;> simp [run]

theorem bindRun_iff {owner : String} :
    self.bindRun nodeId owner runId = .ok next ↔ self.bindable nodeId owner = true ∧
      next = { self with
        nodes := modifyFirst (·.nodeId) nodeId (fun node => { node with runId := some runId }) self.nodes } := by
  constructor
  · intro accepted
    obtain ⟨node, found, running, owned, unbound, rfl⟩ := bindRun_ok accepted
    exact ⟨bindable_iff.mpr ⟨node, found, runningFor_iff.mpr ⟨running, owned⟩, unbound⟩, rfl⟩
  · rintro ⟨free, rfl⟩
    obtain ⟨node, found, running, unbound⟩ := bindable_iff.mp free
    simp [bindRun, found, running, unbound, okOr, rejectIf, pure, Except.pure]

theorem recordOutput_iff [Sha256] {output : GraphNodeOutput} :
    self.recordOutput output = .ok next ↔
      self.recordable output = true ∧ next = { self with outputs := self.outputs ++ [output] } := by
  constructor
  · intro accepted
    obtain ⟨node, valid, fresh, found, ended, bound, rfl⟩ := recordOutput_ok accepted
    exact ⟨recordable_iff.mpr ⟨valid, fresh, node, found, ended, bound⟩, rfl⟩
  · rintro ⟨allowed, rfl⟩
    obtain ⟨valid, fresh, node, found, ended, bound⟩ := recordable_iff.mp allowed
    simp only [recordOutput, bind_ok, exists_unit, rejectIf_ok, pure_ok, and_true, Bool.or_eq_false_iff,
      List.any_eq_false, decide_eq_true_eq, found, Option.all_some, valid, true_and]
    refine ⟨fresh, ?_, ?_⟩
    · rcases ended with state | state <;> simp [state]
    cases run : node.runId with
    | none => rfl
    | some runId => simpa using bound runId run

section Sharing

/-- Nodes carry the runs they carried, or are granted runs that are new. -/
theorem RunsApart.follow (apart : RunsApart self) (outputs : next.outputs = self.outputs)
    (granted : GraphNodeId → RunId → Prop)
    (fresh : ∀ nodeId runId, granted nodeId runId → self.UnsharedBy nodeId runId ∧ self.UnrecordedBy nodeId runId)
    (once : ∀ first second runId, granted first runId → granted second runId → first = second)
    (each : ∀ later ∈ next.nodes, ∃ node ∈ self.nodes, later.nodeId = node.nodeId ∧
      ∀ runId, later.runId = some runId → node.runId = some runId ∨ granted node.nodeId runId) : RunsApart next := by
  constructor
  · intro first firstMember second secondMember runId firstRun secondRun
    obtain ⟨one, oneMember, oneNamed, oneRun⟩ := each first firstMember
    obtain ⟨two, twoMember, twoNamed, twoRun⟩ := each second secondMember
    rw [oneNamed, twoNamed]
    rcases oneRun runId firstRun with held | given
    · rcases twoRun runId secondRun with other | new
      · exact apart.nodes one oneMember two twoMember runId held other
      · by_contra differ
        exact (fresh _ _ new).1 one oneMember differ held
    · rcases twoRun runId secondRun with other | new
      · by_contra differ
        exact (fresh _ _ given).1 two twoMember (Ne.symm differ) other
      · exact once _ _ runId given new
  · intro later member output recorded same
    rw [outputs] at recorded
    obtain ⟨node, present, named, run⟩ := each later member
    rw [named]
    rcases run output.runId same with held | given
    · exact apart.outputs node present output recorded held
    · by_contra differ
      exact (fresh _ _ given).2 output recorded differ rfl

end Sharing

end GraphExecution

/-- The run an operation gives to a node, if it is accepted. -/
inductive Operation.Grants : Operation → GraphNodeId → RunId → Prop
  | staged {nodeId : GraphNodeId} {owner : String} {runId : RunId} : Grants (.stageNode nodeId owner runId) nodeId runId
  | bound {nodeId : GraphNodeId} {owner : String} {runId : RunId} : Grants (.bindRun nodeId owner runId) nodeId runId

/-- A node carries the run it carried, or is granted one. -/
theorem Transition.runId {operation : Operation} {node later : GraphNodeExecution} (moves : Transition operation node later)
    {runId : RunId} (carried : later.runId = some runId) :
    node.runId = some runId ∨ operation.Grants node.nodeId runId := by
  cases moves with
  | kept | claimedReady | claimed | activated | cancelled | completed | finished => exact .inl carried
  | staged =>
    obtain rfl := Option.some.inj carried
    exact .inr .staged
  | bound =>
    obtain rfl := Option.some.inj carried
    exact .inr .bound
  | retried | reopened => cases carried
  | blocked _ pending =>
    rw [block, if_pos pending] at carried
    exact .inl carried
  | reconciled running =>
    rw [reconcileNode, if_pos running] at carried
    cases carried

namespace Operation

variable [Sha256] {self : GraphExecution}

/-- The run ids an operation may be given: one that is bound is carried by no other node and recorded for
none, one that is recorded is carried by no other node. -/
def FreshRun (self : GraphExecution) : Operation → Prop
  | .bindRun nodeId owner runId =>
    self.bindable nodeId owner = true → self.UnsharedBy nodeId runId ∧ self.UnrecordedBy nodeId runId
  | .recordOutput output => self.recordable output = true → self.UnsharedBy output.nodeId output.runId
  | _ => True

omit [Sha256] in
theorem Grants.once {operation : Operation} {first second : GraphNodeId} {runId : RunId}
    (one : operation.Grants first runId) (two : operation.Grants second runId) : first = second := by
  cases one <;> cases two <;> rfl

/-- An operation that grants only new runs, and records nothing, keeps runs apart. -/
theorem granting_apart (aligned : self.Aligned) (apart : RunsApart self) (operation : Operation)
    (frame : Frame self (operation.apply self)) (outputs : (operation.apply self).outputs = self.outputs)
    (fresh : ∀ nodeId runId, operation.Grants nodeId runId →
      self.UnsharedBy nodeId runId ∧ self.UnrecordedBy nodeId runId) : RunsApart (operation.apply self) := by
  refine apart.follow outputs operation.Grants fresh (fun _ _ _ => Grants.once) fun later member => ?_
  have distinct := (aligned.frame frame).distinct
  have found : (operation.apply self).node? later.nodeId = some later := find_of_mem distinct member
  obtain ⟨node, recorded⟩ : ∃ node, self.node? later.nodeId = some node :=
    exists_of_mem_keys (frame.keys ▸ List.mem_map_of_mem member)
  obtain ⟨other, looked, moves⟩ := apply_transitions aligned operation later.nodeId node recorded
  obtain rfl := Option.some.inj (found.symm.trans looked)
  obtain ⟨inside, named⟩ := find_some recorded
  exact ⟨node, inside, named.symm, fun runId carried => moves.runId carried⟩

/-- A fresh operation keeps runs apart. -/
theorem apply_apart (invariant : Invariant self) (apart : RunsApart self) (operation : Operation)
    (fresh : operation.FreshRun self) : RunsApart (operation.apply self) := by
  have frame := (apply_safe operation invariant).1
  have granting := granting_apart invariant.aligned apart operation frame
  cases operation with
  | recordOutput output =>
    cases recorded : self.recordOutput output with
    | error _ =>
      rw [apply, recorded]
      exact apart
    | ok next =>
      obtain ⟨allowed, rfl⟩ := recordOutput_iff.mp recorded
      rw [apply, recorded]
      refine ⟨apart.nodes, fun node member other inside same => ?_⟩
      rcases List.mem_append.mp inside with old | new
      · exact apart.outputs node member other old same
      · obtain rfl := List.mem_singleton.mp new
        by_contra differ
        exact fresh allowed node member (Ne.symm differ) same
  | bindRun nodeId owner runId =>
    cases bound : self.bindRun nodeId owner runId with
    | error _ =>
      rw [apply, bound]
      exact apart
    | ok next =>
      obtain ⟨free, rfl⟩ := bindRun_iff.mp bound
      refine granting (by rw [apply, bound]; rfl) ?_
      rintro _ _ ⟨⟩
      exact fresh free
  | stageNode nodeId owner runId =>
    cases staged : self.stageNode nodeId owner runId with
    | error _ =>
      rw [apply, staged]
      exact apart
    | ok next =>
      obtain ⟨_, _, _, unused, _, _, _, _, _, _, rfl⟩ := stageNode_ok staged
      refine granting (by rw [apply, staged]; rfl) ?_
      rintro _ _ ⟨⟩
      simp only [runIdIsInUse, Bool.or_eq_false_iff, List.any_eq_false, decide_eq_true_eq] at unused
      exact ⟨fun other member _ => unused.1 other member, fun output member _ => unused.2 output member⟩
  | claimReady | claimNode | activateStagedNode | cancelStagedNode | complete | finishTerminal | retryFailed
  | reconcileAfterRestart =>
    refine granting ?_ fun _ _ granted => by cases granted
    rcases apply_outputs self _ with same | ⟨_, impossible, _⟩
    · exact same
    · cases impossible

/-- An operation that is not fresh is accepted, and makes two nodes share a run. -/
theorem apply_shares (aligned : self.Aligned) (operation : Operation) (stale : ¬operation.FreshRun self) :
    ¬RunsApart (operation.apply self) := by
  intro apart
  cases operation with
  | bindRun nodeId owner runId =>
    refine stale fun free => ?_
    obtain ⟨node, found, _⟩ := bindable_iff.mp free
    obtain ⟨inside, named⟩ := find_some found
    have bound : self.bindRun nodeId owner runId = .ok { self with
        nodes := modifyFirst (·.nodeId) nodeId (fun node => { node with runId := some runId }) self.nodes } :=
      bindRun_iff.mpr ⟨free, rfl⟩
    rw [apply, bound] at apart
    have holder : { node with runId := some runId } ∈ modifyFirst (·.nodeId) nodeId
        (fun node => { node with runId := some runId }) self.nodes :=
      (mem_modifyFirst_iff aligned.distinct).mpr (.inr ⟨node, inside, named, rfl⟩)
    constructor
    · intro other member differ same
      have kept : other ∈ modifyFirst (·.nodeId) nodeId (fun node => { node with runId := some runId }) self.nodes :=
        (mem_modifyFirst_iff aligned.distinct).mpr (.inl ⟨member, differ⟩)
      exact differ ((apart.nodes other kept _ holder runId same rfl).trans named)
    · intro output recorded differ same
      exact differ ((apart.outputs _ holder output recorded (congrArg some same.symm)).trans named)
  | recordOutput output =>
    refine stale fun allowed other member differ same => ?_
    have recorded := recordOutput_iff.mpr ⟨allowed, rfl⟩
    rw [apply, recorded] at apart
    exact differ (apart.outputs other member output (List.mem_append_right _ (List.mem_singleton_self _)) same).symm
  | claimReady | claimNode | stageNode | activateStagedNode | cancelStagedNode | complete | finishTerminal
  | retryFailed | reconcileAfterRestart => exact stale trivial

end Operation

/-- Run ids are not reused, in every state reached, exactly along the runs in which a run that is bound, or
recorded, belongs to no other node. -/
theorem runs_apart_iff [Sha256] (id : GraphRunId) (graph : WorkflowGraph) (started : GraphExecution)
    (accepted : GraphExecution.start id graph = .ok started) (operations : List Operation) :
    (∀ taken, taken <+: operations → RunsApart (Machine.run Operation.leave started taken)) ↔
      Machine.Allowed Operation.leave Operation.FreshRun started operations := by
  obtain ⟨aligned, safe⟩ := GraphExecution.start_aligned accepted
  have kept : ∀ execution operation, Operation.Invariant execution ∧ RunsApart execution →
      Operation.FreshRun execution operation →
      Operation.Invariant (Operation.leave execution operation) ∧ RunsApart (Operation.leave execution operation) := by
    rintro execution operation ⟨invariant, apart⟩ fresh
    rw [Operation.leave_eq invariant.aligned]
    exact ⟨Operation.apply_invariant execution operation invariant,
      Operation.apply_apart invariant apart operation fresh⟩
  have broken : ∀ execution operation, Operation.Invariant execution ∧ RunsApart execution →
      ¬Operation.FreshRun execution operation → ¬RunsApart (Operation.leave execution operation) := by
    rintro execution operation ⟨invariant, _⟩ stale
    rw [Operation.leave_eq invariant.aligned]
    exact Operation.apply_shares invariant.aligned operation stale
  have initial : RunsApart started := by
    simp only [GraphExecution.start, bind_ok, exists_unit, pure_ok] at accepted
    obtain ⟨_, rfl⟩ := accepted
    refine ⟨fun first member _ _ runId carried => ?_, fun _ _ _ recorded => by cases recorded⟩
    obtain ⟨_, _, rfl⟩ := List.mem_map.mp member
    cases carried
  exact Machine.holds_along_iff (fun _ => And.right) kept broken ⟨⟨aligned, safe⟩, initial⟩ operations

theorem runs_apart_iff_branches :
    let digests := Sha256.table []
    let started : GraphExecution := ⟨⟨60⟩, branchesUnderJoin,
      [⟨⟨51⟩, .pending, none, 0, none, none⟩, ⟨⟨52⟩, .pending, none, 0, none, none⟩,
        ⟨⟨53⟩, .pending, none, 0, none, none⟩], [], none, 0⟩
    let operations : List Operation := [.claimReady "scheduler" 2, .bindRun ⟨51⟩ "scheduler" ⟨7⟩,
      .bindRun ⟨52⟩ "scheduler" ⟨8⟩, .finishTerminal ⟨51⟩ "scheduler" .failed none, .retryFailed ⟨51⟩]
    (∀ taken, taken <+: operations → RunsApart (Machine.run (@Operation.leave digests) started taken)) ↔
      Machine.Allowed (@Operation.leave digests) (@Operation.FreshRun digests) started operations := by
  intro digests started operations
  exact @runs_apart_iff digests ⟨60⟩ branchesUnderJoin started (by decide) operations

/-- Two claimed nodes are bound to the same run. -/
theorem bound_runs_shared :
    let digests := Sha256.table []
    let started : GraphExecution := ⟨⟨60⟩, branchesUnderJoin,
      [⟨⟨51⟩, .pending, none, 0, none, none⟩, ⟨⟨52⟩, .pending, none, 0, none, none⟩,
        ⟨⟨53⟩, .pending, none, 0, none, none⟩], [], none, 0⟩
    let reached := Machine.run (@Operation.leave digests) started
      [.claimReady "scheduler" 2, .bindRun ⟨51⟩ "scheduler" ⟨7⟩, .bindRun ⟨52⟩ "scheduler" ⟨7⟩]
    GraphExecution.start ⟨60⟩ branchesUnderJoin = .ok started ∧ ¬RunsApart reached := by
  intro digests started reached
  refine ⟨by decide, fun apart => ?_⟩
  have first : (⟨⟨51⟩, .running, some "scheduler", 1, some ⟨7⟩, none⟩ : GraphNodeExecution) ∈ reached.nodes := by decide
  have second : (⟨⟨52⟩, .running, some "scheduler", 1, some ⟨7⟩, none⟩ : GraphNodeExecution) ∈ reached.nodes := by decide
  have same := apart.nodes _ first _ second ⟨7⟩ rfl rfl
  exact absurd same (by decide)

end Bastet.Core
