import Bastet.Core.ExecutionProgress

/-! The ways to take a node agree: nodes that are claimed together can be claimed one by one or
staged one by one, in any order, and a node can be claimed by itself exactly when claiming all that
is ready takes it. -/

set_option autoImplicit false

namespace Bastet.Core

open Fallible Lookup GraphExecution

namespace GraphExecution

variable {self next : GraphExecution} {nodeId id : GraphNodeId} {owner : String} {runId : RunId}
  {node other : GraphNodeExecution}

/-- The node is pending, and everything it needs has succeeded. -/
structure Takeable (execution : GraphExecution) (nodeId : GraphNodeId) (node : GraphNodeExecution) : Prop where
  found : execution.node? nodeId = some node
  pending : node.state = .pending
  ready : ∃ definition, execution.definition? nodeId = some definition ∧
    ready (snapshot execution.nodes) definition = true

section One

theorem claimNode_iff : (∃ next, self.claimNode nodeId owner = .ok next) ↔
    isBlank owner = false ∧ ∃ node, Takeable self nodeId node := by
  constructor
  · rintro ⟨next, accepted⟩
    have named : isBlank owner = false := by
      simp only [claimNode, bind_ok, exists_unit, rejectIf_ok] at accepted
      exact accepted.1
    obtain ⟨definition, node, known, met, found, pending, _⟩ := claimNode_ok accepted
    exact ⟨named, node, found, pending, definition, known, met⟩
  · rintro ⟨named, node, found, pending, definition, known, met⟩
    exact ⟨self.updateNode nodeId (engage owner),
      by simp [claimNode, named, known, met, found, pending, okOr, rejectIf, pure, Except.pure]⟩

theorem Takeable.claim (takeable : Takeable self nodeId node) (named : isBlank owner = false) :
    self.claimNode nodeId owner = .ok (self.updateNode nodeId (engage owner)) := by
  obtain ⟨next, accepted⟩ := claimNode_iff.mpr ⟨named, node, takeable⟩
  obtain ⟨_, _, _, _, _, _, rfl⟩ := claimNode_ok accepted
  exact accepted

/-- The scan for the dependencies of a node and the snapshot of all states agree. -/
theorem Takeable.dependenciesSucceeded (distinct : (self.nodes.map (·.nodeId)).Nodup)
    (takeable : Takeable self nodeId node) : self.dependenciesSucceeded nodeId = .ok true := by
  obtain ⟨definition, known, met⟩ := takeable.ready
  have scanned : (definition.needs.all fun dependency =>
      self.nodes.any fun execution => execution.nodeId = dependency && execution.state = .succeeded) = true := by
    refine List.all_eq_true.mpr fun dependency needed => ?_
    have succeeded := List.all_eq_true.mp met dependency needed
    rw [decide_eq_true_eq, snapshot_eq distinct] at succeeded
    obtain ⟨record, present, state⟩ := Option.map_eq_some_iff.mp succeeded
    obtain ⟨inside, named⟩ := find_some present
    refine List.any_eq_true.mpr ⟨record, inside, ?_⟩
    simp [named, state]
  simp [GraphExecution.dependenciesSucceeded, known, okOr, pure, Except.pure, scanned]

theorem Takeable.stage (distinct : (self.nodes.map (·.nodeId)).Nodup) (takeable : Takeable self nodeId node)
    (named : isBlank owner = false) (unowned : node.owner = none) (unbound : node.runId = none)
    (fresh : self.runIdIsInUse runId = false) :
    self.stageNode nodeId owner runId = .ok (self.updateNode nodeId (GraphExecution.stage owner runId)) := by
  simp [stageNode, named, fresh, takeable.dependenciesSucceeded distinct, takeable.found, takeable.pending, unowned,
    unbound, okOr, rejectIf, pure, Except.pure]

/-- Taking one node leaves every other one that can be taken. -/
theorem Takeable.update {change : GraphNodeExecution → GraphNodeExecution}
    (kept : ∀ node, (change node).nodeId = node.nodeId) (distinct : (self.nodes.map (·.nodeId)).Nodup)
    (taken : Takeable self nodeId other) (takeable : Takeable self id node) (apart : id ≠ nodeId) :
    Takeable (self.updateNode nodeId change) id node := by
  refine ⟨?_, takeable.pending, ?_⟩
  · rw [node?_updateNode kept, if_neg apart]
    exact takeable.found
  · obtain ⟨definition, known, met⟩ := takeable.ready
    refine ⟨definition, known, List.all_eq_true.mpr fun dependency needed => ?_⟩
    have succeeded := List.all_eq_true.mp met dependency needed
    rw [decide_eq_true_eq, snapshot_eq distinct] at succeeded
    -- the node that was taken was pending, so nothing that succeeded
    have other : dependency ≠ nodeId := by
      rintro rfl
      have found := taken.found
      unfold node? at found
      rw [found, Option.map_some, taken.pending] at succeeded
      cases succeeded
    have still : (self.updateNode nodeId change).node? dependency = self.node? dependency := by
      rw [node?_updateNode kept, if_neg other]
    rw [decide_eq_true_eq, snapshot_eq (distinct_updateNode kept distinct)]
    exact (congrArg (Option.map (·.state)) still).trans succeeded

end One

section Each

theorem engage_nodeId (owner : String) (node : GraphNodeExecution) : (engage owner node).nodeId = node.nodeId := rfl

theorem stage_nodeId (owner : String) (runId : RunId) (node : GraphNodeExecution) :
    (GraphExecution.stage owner runId node).nodeId = node.nodeId := rfl

/-- Claiming nodes one by one gives each of them to the owner, whatever the order. -/
theorem claimEach_ok (named : isBlank owner = false) {order : List GraphNodeId} (once : order.Nodup)
    (distinct : (self.nodes.map (·.nodeId)).Nodup) (takeable : ∀ id ∈ order, ∃ node, Takeable self id node) :
    ∃ next, foldEach (fun execution id => execution.claimNode id owner) order self = .ok next ∧ Frame self next ∧
      next.outputs = self.outputs ∧ ∀ id, next.node? id =
        if id ∈ order then (self.node? id).map (engage owner) else self.node? id := by
  induction order generalizing self with
  | nil => exact ⟨self, rfl, .refl self, rfl, fun _ => rfl⟩
  | cons first rest ih =>
    obtain ⟨fresh, others⟩ := List.nodup_cons.mp once
    obtain ⟨node, taken⟩ := takeable first (List.mem_cons_self ..)
    have frame : Frame self (self.updateNode first (engage owner)) := frame_updateNode (engage_nodeId owner)
    have left : ∀ id ∈ rest, ∃ node, Takeable (self.updateNode first (engage owner)) id node := by
      intro id member
      obtain ⟨other, free⟩ := takeable id (List.mem_cons_of_mem _ member)
      exact ⟨other, taken.update (engage_nodeId owner) distinct free fun same => fresh (same ▸ member)⟩
    obtain ⟨next, ran, rested, outputs, lookup⟩ := ih others (frame.keys ▸ distinct) left
    refine ⟨next, ?_, frame.trans rested, outputs, fun id => ?_⟩
    · rw [foldEach, taken.claim named, ok_bind]
      exact ran
    · rw [lookup, node?_updateNode (engage_nodeId owner)]
      by_cases same : id = first
      · subst same
        simp [fresh]
      · simp [same]

/-- A run id that is not in use and is not the one just staged is still not in use. -/
theorem runIdIsInUse_stage {other : RunId} (unused : self.runIdIsInUse runId = false) (apart : runId ≠ other) :
    (self.updateNode nodeId (GraphExecution.stage owner other)).runIdIsInUse runId = false := by
  simp only [runIdIsInUse, Bool.or_eq_false_iff, List.any_eq_false, decide_eq_true_eq] at unused ⊢
  refine ⟨fun node member => ?_, unused.2⟩
  rcases mem_modifyFirst member with before | ⟨_, _, _, rfl⟩
  · exact unused.1 node before
  · exact fun same => apart (Option.some.inj same).symm

/-- Staging nodes one by one, each with a run id of its own, succeeds whatever the order. -/
theorem stageEach_ok (named : isBlank owner = false) {order : List (GraphNodeId × RunId)}
    (once : (order.map (·.1)).Nodup) (runs : (order.map (·.2)).Nodup) (distinct : (self.nodes.map (·.nodeId)).Nodup)
    (fresh : ∀ pair ∈ order, self.runIdIsInUse pair.2 = false)
    (takeable : ∀ pair ∈ order, ∃ node, Takeable self pair.1 node ∧ node.owner = none ∧ node.runId = none) :
    ∃ next, foldEach (fun execution pair => execution.stageNode pair.1 owner pair.2) order self = .ok next := by
  induction order generalizing self with
  | nil => exact ⟨self, rfl⟩
  | cons first rest ih =>
    obtain ⟨unseen, others⟩ := List.nodup_cons.mp once
    obtain ⟨unshared, otherRuns⟩ := List.nodup_cons.mp runs
    obtain ⟨node, taken, unowned, unbound⟩ := takeable first (List.mem_cons_self ..)
    have staged := taken.stage distinct named unowned unbound (fresh first (List.mem_cons_self ..))
    have kept := stage_nodeId owner first.2
    have keys : ((self.updateNode first.1 (GraphExecution.stage owner first.2)).nodes.map (·.nodeId)).Nodup :=
      distinct_updateNode kept distinct
    have stillFresh : ∀ pair ∈ rest,
        (self.updateNode first.1 (GraphExecution.stage owner first.2)).runIdIsInUse pair.2 = false := by
      intro pair member
      refine runIdIsInUse_stage (fresh pair (List.mem_cons_of_mem _ member)) fun same => unshared ?_
      exact List.mem_map.mpr ⟨pair, member, same⟩
    have left : ∀ pair ∈ rest, ∃ node, Takeable (self.updateNode first.1 (GraphExecution.stage owner first.2)) pair.1 node ∧
        node.owner = none ∧ node.runId = none := by
      intro pair member
      obtain ⟨other, free, empty⟩ := takeable pair (List.mem_cons_of_mem _ member)
      have apart : pair.1 ≠ first.1 := fun same => unseen (List.mem_map.mpr ⟨pair, member, same⟩)
      exact ⟨other, taken.update kept distinct free apart, empty⟩
    obtain ⟨next, ran⟩ := ih others otherRuns keys stillFresh left
    refine ⟨next, ?_⟩
    rw [foldEach, staged, ok_bind]
    exact ran

end Each

section Together

variable {graph : WorkflowGraph} {states : GraphNodeId → Option GraphNodeState} {limit : Nat}

/-- The claim loop goes through the nodes once. -/
theorem claimLoop_once {nodes : List GraphNodeExecution} {claimed result : List GraphNodeId}
    (ran : (claimLoop graph states owner limit claimed nodes).1 = .ok result) :
    ∃ chosen, result = claimed ++ chosen ∧ chosen.Sublist (nodes.map (·.nodeId)) := by
  induction nodes generalizing claimed with
  | nil => exact ⟨[], by simpa using (Except.ok.inj ran).symm, List.Sublist.refl _⟩
  | cons first rest ih =>
    simp only [claimLoop] at ran
    split at ran
    · obtain ⟨chosen, same, sub⟩ := ih ran
      exact ⟨chosen, same, sub.cons _⟩
    · split at ran
      · cases ran
      · split at ran
        · obtain ⟨chosen, same, sub⟩ := ih ran
          exact ⟨first.nodeId :: chosen, by simpa using same, sub.cons_cons _⟩
        · obtain ⟨chosen, same, sub⟩ := ih ran
          exact ⟨chosen, same, sub.cons _⟩

/-- A loop that may claim as many nodes as there are claims every one that is ready. -/
theorem claimLoop_all {nodes : List GraphNodeExecution} {claimed result : List GraphNodeId}
    (room : claimed.length + nodes.length ≤ limit)
    (ran : (claimLoop graph states owner limit claimed nodes).1 = .ok result) (member : node ∈ nodes)
    (pending : node.state = .pending) {definition : GraphNode}
    (known : graph.nodes.find? (fun definition => definition.id = node.nodeId) = some definition)
    (met : ready states definition = true) : node.nodeId ∈ result := by
  induction nodes generalizing claimed with
  | nil => cases member
  | cons first rest ih =>
    simp only [claimLoop] at ran
    have shorter : claimed.length + rest.length ≤ limit := by
      rw [List.length_cons] at room
      omega
    split at ran
    · rename_i passed
      -- there is room for one more, so the loop passed a node that is not pending
      have busy : first.state ≠ .pending := by
        rcases passed with full | busy
        · rw [List.length_cons] at room
          omega
        · exact busy
      rcases List.mem_cons.mp member with rfl | inside
      · exact absurd pending busy
      · exact ih shorter ran inside
    · split at ran
      · cases ran
      · rename_i task found
        split at ran
        · rcases List.mem_cons.mp member with rfl | inside
          · obtain ⟨chosen, rfl, _⟩ := claimLoop_once ran
            simp
          · refine ih ?_ ran inside
            rw [List.length_append, List.length_singleton]
            rw [List.length_cons] at room
            omega
        · rename_i unmet
          rcases List.mem_cons.mp member with rfl | inside
          · obtain rfl := Option.some.inj (known.symm.trans found)
            exact absurd met unmet
          · exact ih shorter ran inside

/-- What a claim up to a limit returns and leaves. -/
structure TakenTogether (before : GraphExecution) (owner : String) (limit : Nat) (claimed : List GraphNodeId)
    (after : GraphExecution) : Prop where
  once : claimed.Nodup
  frame : Frame before after
  outputs : after.outputs = before.outputs
  takeable : ∀ id ∈ claimed, ∃ node, Takeable before id node
  lookup : ∀ id, after.node? id = if id ∈ claimed then (before.node? id).map (engage owner) else before.node? id
  all : before.nodes.length ≤ limit → ∀ id node, Takeable before id node → id ∈ claimed

theorem claimReady_spec (aligned : self.Aligned) (named : isBlank owner = false) (positive : 1 ≤ limit) :
    ∃ claimed after, self.claimReady owner limit = (.ok claimed, after) ∧
      TakenTogether self owner limit claimed after := by
  obtain ⟨nodes, claimed, left, spec, outcome⟩ :=
    claimLoop_spec self.graph (snapshot self.nodes) owner limit aligned.distinct []
  have ended : (claimLoop self.graph (snapshot self.nodes) owner limit [] self.nodes).1 = .ok claimed := by
    rcases outcome with ended | ⟨failed, _⟩
    · exact ended
    · obtain ⟨_, ended⟩ := claimLoop_ok aligned owner limit
      rw [ended] at failed
      cases failed
  have whole : claimLoop self.graph (snapshot self.nodes) owner limit [] self.nodes = (.ok claimed, nodes) :=
    Prod.ext ended left
  have passes : (isBlank owner || decide (limit = 0)) = false := by
    simp only [named, Bool.false_or, decide_eq_false_iff_not]
    omega
  have returned : self.claimReady owner limit = (.ok claimed,
      { self with nodes, revision := if claimed.isEmpty then self.revision else bump self.revision }) := by
    rw [claimReady, passes, if_neg Bool.false_ne_true, whole]
  refine ⟨claimed, _, returned, ?_, ⟨rfl, rfl, rfl, spec.keys⟩, rfl, ?_, spec.lookup, ?_⟩
  · obtain ⟨_, rfl, sub⟩ := claimLoop_once ended
    exact aligned.distinct.sublist sub
  · intro id member
    obtain ⟨node, found, pending⟩ := spec.pending id member
    exact ⟨node, found, pending, spec.ready id member⟩
  · rintro room id node ⟨found, pending, definition, known, met⟩
    obtain ⟨inside, rfl⟩ := find_some found
    refine claimLoop_all ?_ ended inside pending known met
    rw [List.length_nil]
    omega

end Together

end GraphExecution

/-- The three ways to take a node agree, in every state reached. -/
theorem claims_agree [Sha256] (id : GraphRunId) (graph : WorkflowGraph) (started : GraphExecution)
    (accepted : GraphExecution.start id graph = .ok started) (operations : List Operation) :
    let reached := Machine.run Operation.leave started operations
    ∀ owner, isBlank owner = false →
      (∀ limit, 1 ≤ limit → ∃ claimed after, reached.claimReady owner limit = (.ok claimed, after) ∧
        (∀ order : List GraphNodeId, order.Perm claimed →
          ∃ next, foldEach (fun execution nodeId => execution.claimNode nodeId owner) order reached = .ok next ∧
            next.nodes = after.nodes) ∧
        ((∀ nodeId ∈ claimed, ∀ node, reached.node? nodeId = some node → node.runId = none) →
          ∀ order : List (GraphNodeId × RunId), (order.map (·.1)).Perm claimed → (order.map (·.2)).Nodup →
            (∀ pair ∈ order, reached.runIdIsInUse pair.2 = false) →
            ∃ next, foldEach (fun execution pair => execution.stageNode pair.1 owner pair.2) order reached = .ok next)) ∧
      ∀ nodeId, (∃ next, reached.claimNode nodeId owner = .ok next) ↔
        ∃ claimed after, reached.claimReady owner reached.nodes.length = (.ok claimed, after) ∧ nodeId ∈ claimed := by
  obtain ⟨aligned, safe⟩ := GraphExecution.start_aligned accepted
  have begun : Operation.Invariant started := ⟨aligned, safe⟩
  rw [Operation.run_leave begun]
  intro reached owner named
  obtain ⟨_, valid⟩ := Operation.run_valid begun (start_valid accepted) operations
  refine ⟨fun limit positive => ?_, fun nodeId => ?_⟩
  · obtain ⟨claimed, after, ran, taken⟩ := claimReady_spec valid.aligned named positive
    refine ⟨claimed, after, ran, fun order perm => ?_, fun unbound order perm runs fresh => ?_⟩
    · have distinct := valid.aligned.distinct
      obtain ⟨next, claims, frame, _, lookup⟩ := claimEach_ok named (perm.nodup_iff.mpr taken.once) distinct
        fun id member => taken.takeable id (perm.mem_iff.mp member)
      refine ⟨next, claims, ?_⟩
      refine ext_find (taken.frame.keys ▸ distinct) (frame.keys.trans taken.frame.keys.symm) fun id => ?_
      have each := lookup id
      simp only [perm.mem_iff] at each
      exact each.trans (taken.lookup id).symm
    · refine stageEach_ok named (perm.nodup_iff.mpr taken.once) runs valid.aligned.distinct fresh fun pair member => ?_
      have chosen : pair.1 ∈ claimed := perm.mem_iff.mp (List.mem_map_of_mem member)
      obtain ⟨node, takeable⟩ := taken.takeable pair.1 chosen
      -- a pending node of a valid execution has no owner
      have unowned : node.owner = none := by
        have checked := valid.states node (find_some takeable.found).1
        simpa [executionStateIsValid, takeable.pending] using checked
      exact ⟨node, takeable, unowned, unbound pair.1 chosen node takeable.found⟩
  · rw [claimNode_iff]
    constructor
    · rintro ⟨_, node, takeable⟩
      have positive : 1 ≤ reached.nodes.length := List.length_pos_of_mem (find_some takeable.found).1
      obtain ⟨claimed, after, ran, taken⟩ := claimReady_spec valid.aligned named positive
      exact ⟨claimed, after, ran, taken.all (Nat.le_refl _) nodeId node takeable⟩
    · rintro ⟨claimed, after, ran, member⟩
      have positive : 1 ≤ reached.nodes.length := by
        by_contra none
        have zero : reached.nodes.length = 0 := by omega
        simp [GraphExecution.claimReady, zero] at ran
      obtain ⟨others, later, again, taken⟩ := claimReady_spec valid.aligned named positive
      have same := ran.symm.trans again
      simp only [Prod.mk.injEq, Except.ok.injEq] at same
      exact ⟨named, taken.takeable nodeId (same.1 ▸ member)⟩

theorem claims_agree_branches :
    let digests := Sha256.table []
    let started : GraphExecution := ⟨⟨60⟩, branchesUnderJoin,
      [⟨⟨51⟩, .pending, none, 0, none, none⟩, ⟨⟨52⟩, .pending, none, 0, none, none⟩,
        ⟨⟨53⟩, .pending, none, 0, none, none⟩], [], none, 0⟩
    let reached := Machine.run (@Operation.leave digests) started
      [.claimReady "scheduler" 2, .complete ⟨51⟩ "scheduler" false, .complete ⟨52⟩ "scheduler" true, .retryFailed ⟨51⟩]
    (∃ next, reached.claimNode ⟨51⟩ "scheduler" = .ok next) ↔
      ∃ claimed after, reached.claimReady "scheduler" reached.nodes.length = (.ok claimed, after) ∧ ⟨51⟩ ∈ claimed := by
  intro digests started reached
  exact (@claims_agree digests ⟨60⟩ branchesUnderJoin started (by decide)
    [.claimReady "scheduler" 2, .complete ⟨51⟩ "scheduler" false, .complete ⟨52⟩ "scheduler" true, .retryFailed ⟨51⟩]
    "scheduler" (by decide)).2 ⟨51⟩

end Bastet.Core
