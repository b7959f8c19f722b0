import Bastet.Core.ExecutionSteps
import Bastet.Library.Gating

/-! The board of an execution: every accepted operation is a move of a scheduler on a
board of dependent tasks, so it keeps the board sound. -/

set_option autoImplicit false

namespace Bastet.Core

open Fallible Lookup Gating

/-- The place of a node state on a board of dependent tasks. -/
def GraphNodeState.stage : GraphNodeState → Stage
  | .pending => .idle
  | .awaitingApproval | .running | .uncertain => .engaged
  | .succeeded => .done
  | .failed | .cancelled => .broken
  | .blocked => .barred

@[simp] theorem GraphNodeState.stage_idle {state : GraphNodeState} : state.stage = .idle ↔ state = .pending := by
  cases state <;> simp [stage]

@[simp] theorem GraphNodeState.stage_done {state : GraphNodeState} : state.stage = .done ↔ state = .succeeded := by
  cases state <;> simp [stage]

@[simp] theorem GraphNodeState.stage_barred {state : GraphNodeState} : state.stage = .barred ↔ state = .blocked := by
  cases state <;> simp [stage]

theorem GraphNodeState.blocks_iff {state : GraphNodeState} : state.blocks = true ↔ state.stage.impedes := by
  cases state <;> simp [stage, blocks, Stage.impedes]

namespace GraphExecution

variable {self next : GraphExecution} {nodeId : GraphNodeId} {owner : String} {runId : RunId}

/-- The nodes of an execution are the nodes of its graph, each once. -/
structure Aligned (execution : GraphExecution) : Prop where
  defined : (execution.graph.nodes.map (·.id)).Nodup
  distinct : (execution.nodes.map (·.nodeId)).Nodup
  same : ∀ id, id ∈ execution.nodes.map (·.nodeId) ↔ id ∈ execution.graph.nodes.map (·.id)

theorem Aligned.frame (aligned : self.Aligned) (frame : Frame self next) : next.Aligned where
  defined := frame.graph ▸ aligned.defined
  distinct := frame.keys ▸ aligned.distinct
  same id := by
    rw [frame.keys, frame.graph]
    exact aligned.same id

theorem Aligned.node_of_known (aligned : self.Aligned) {id : GraphNodeId}
    (known : id ∈ self.graph.nodes.map (·.id)) : ∃ node, self.node? id = some node :=
  exists_of_mem_keys ((aligned.same id).mpr known)

theorem Aligned.definition_of_node (aligned : self.Aligned) {id : GraphNodeId} {node : GraphNodeExecution}
    (found : self.node? id = some node) : ∃ definition, self.definition? id = some definition := by
  obtain ⟨member, rfl⟩ := find_some found
  exact exists_of_mem_keys ((aligned.same _).mp (List.mem_map_of_mem member))

theorem Aligned.needs_iff (aligned : self.Aligned) {task dependency : GraphNodeId} {definition : GraphNode}
    (found : self.definition? task = some definition) :
    Needs self.graph task dependency ↔ dependency ∈ definition.needs := by
  obtain ⟨member, same⟩ := find_some found
  constructor
  · rintro ⟨other, inside, named, needed⟩
    have equal := List.inj_on_of_nodup_map aligned.defined inside member (named.trans same.symm)
    exact equal ▸ needed
  · exact fun needed => ⟨definition, member, same, needed⟩

/-- The board of an execution. -/
def stageOf (self : GraphExecution) (id : GraphNodeId) : Stage :=
  match self.node? id with
  | some node => node.state.stage
  | none => .idle

theorem stageOf_some {id : GraphNodeId} {node : GraphNodeExecution} (found : self.node? id = some node) :
    self.stageOf id = node.state.stage := by
  simp [stageOf, found]

theorem stageOf_congr {id : GraphNodeId} (same : next.node? id = self.node? id) :
    next.stageOf id = self.stageOf id := by
  simp [stageOf, same]

theorem succeeded_iff_done {id : GraphNodeId} :
    (∃ node, self.node? id = some node ∧ node.state = .succeeded) ↔ self.stageOf id = .done := by
  unfold stageOf
  cases found : self.node? id with
  | none => simp
  | some node => simp

/-- Everything a node taken on needs has succeeded, and what needs a failed, cancelled or
blocked node is blocked. -/
abbrev Safe (self : GraphExecution) : Prop :=
  Sound (Needs self.graph) self.stageOf

theorem start_aligned {id : GraphRunId} {graph : WorkflowGraph} (started : start id graph = .ok self) :
    self.Aligned ∧ self.Safe := by
  simp only [start, bind_ok, exists_unit, pure_ok] at started
  obtain ⟨accepted, rfl⟩ := started
  have valid := WorkflowGraph.validate_valid accepted
  refine ⟨⟨valid.distinct, ?_, ?_⟩, Sound.idle fun id => ?_⟩
  · simpa only [List.map_map, Function.comp_def] using valid.distinct
  · intro id
    simp only [List.map_map, Function.comp_def]
  · unfold stageOf
    split
    case h_1 node found =>
      obtain ⟨member, -⟩ := find_some found
      obtain ⟨_, _, rfl⟩ := List.mem_map.mp member
      rfl
    case h_2 => rfl

section Moves

variable {node : GraphNodeExecution} {change : GraphNodeExecution → GraphNodeExecution}

theorem stageOf_updateNode (kept : ∀ node, (change node).nodeId = node.nodeId)
    (found : self.node? nodeId = some node) :
    (self.updateNode nodeId change).stageOf nodeId = (change node).state.stage := by
  apply stageOf_some
  rw [node?_updateNode kept, if_pos rfl, found, Option.map_some]

theorem stageOf_updateNode_ne (kept : ∀ node, (change node).nodeId = node.nodeId) {other : GraphNodeId}
    (apart : other ≠ nodeId) : (self.updateNode nodeId change).stageOf other = self.stageOf other := by
  apply stageOf_congr
  rw [node?_updateNode kept, if_neg apart]

theorem Safe.update_engage (safe : self.Safe) (kept : ∀ node, (change node).nodeId = node.nodeId)
    (found : self.node? nodeId = some node) (pending : node.state = .pending)
    (engaged : (change node).state.stage = .engaged)
    (ready : ∀ dependency, Needs self.graph nodeId dependency → self.stageOf dependency = .done) :
    (self.updateNode nodeId change).Safe := by
  refine Sound.engage safe {nodeId} ?_ ?_ ?_ ?_
  · rintro _ rfl
    simp [stageOf_some found, pending]
  · rintro _ rfl
    exact ready
  · rintro _ rfl
    rw [stageOf_updateNode kept found, engaged]
  · exact fun other apart => stageOf_updateNode_ne kept apart

theorem Safe.update_settle (safe : self.Safe) (kept : ∀ node, (change node).nodeId = node.nodeId)
    (found : self.node? nodeId = some node) (engaged : node.state.stage = .engaged)
    (done : (change node).state = .succeeded) : (self.updateNode nodeId change).Safe :=
  Sound.settle safe ((stageOf_some found).trans engaged)
    ((stageOf_updateNode kept found).trans (by simp [done]))
    (fun _ apart => stageOf_updateNode_ne kept apart)

theorem Safe.update_same (safe : self.Safe) (kept : ∀ node, (change node).nodeId = node.nodeId)
    (found : self.node? nodeId = some node) (same : (change node).state.stage = node.state.stage) :
    (self.updateNode nodeId change).Safe := by
  refine Sound.relabel safe fun other => ?_
  by_cases equal : other = nodeId
  · subst equal
    rw [stageOf_updateNode kept found, same, stageOf_some found]
  · exact stageOf_updateNode_ne kept equal

theorem block_state {node : GraphNodeExecution} :
    (block node).state = if node.state = .pending then .blocked else node.state := by
  unfold block
  split <;> simp_all

theorem Safe.update_fail (aligned : self.Aligned) (safe : self.Safe)
    (kept : ∀ node, (change node).nodeId = node.nodeId) (found : self.node? nodeId = some node)
    (engaged : node.state.stage = .engaged) (impedes : (change node).state.blocks = true) :
    ((self.updateNode nodeId change).blockDependents nodeId).Safe := by
  obtain ⟨affected, inside, closed, depends, lookup⟩ := blockDependents_spec (self.updateNode nodeId change) nodeId
  have apart_lookup : ∀ other, other ≠ nodeId →
      ((self.updateNode nodeId change).blockDependents nodeId).node? other =
        if other ∈ affected then (self.node? other).map block else self.node? other := by
    intro other apart
    rw [lookup other, node?_updateNode kept, if_neg apart]
    simp [apart]
  refine Sound.fail safe { id | id ∈ affected } ((stageOf_some found).trans engaged) ?_ inside closed
    ?_ ?_
  · have same : ((self.updateNode nodeId change).blockDependents nodeId).node? nodeId = some (change node) := by
      rw [lookup nodeId, if_neg (fun both => both.2 rfl), node?_updateNode kept, if_pos rfl, found, Option.map_some]
    rw [stageOf_some same]
    exact GraphNodeState.blocks_iff.mp impedes
  · intro task (member : task ∈ affected) apart idle
    -- a node reached by the passes is a node of the graph, so it has a record
    have known : task ∈ self.graph.nodes.map (·.id) := by
      rcases Relation.ReflTransGen.cases_head (depends task member) with same | ⟨_, ⟨definition, present, named, _⟩, _⟩
      · exact absurd same apart
      · exact named ▸ List.mem_map_of_mem present
    obtain ⟨record, recorded⟩ := aligned.node_of_known known
    have pending : record.state = .pending := by
      simpa [stageOf_some recorded] using idle
    have blocked : ((self.updateNode nodeId change).blockDependents nodeId).node? task = some (block record) := by
      rw [apart_lookup task apart, if_pos member, recorded, Option.map_some]
    rw [stageOf_some blocked, block_state, if_pos pending]
    rfl
  · intro task apart unaffected
    by_cases member : task ∈ affected
    · cases recorded : self.node? task with
      | none =>
        apply stageOf_congr
        rw [apart_lookup task apart, if_pos member, recorded, Option.map_none]
      | some record =>
        have busy : record.state ≠ .pending := by
          intro pending
          exact unaffected ⟨member, by simp [stageOf_some recorded, pending]⟩
        have blocked : ((self.updateNode nodeId change).blockDependents nodeId).node? task = some (block record) := by
          rw [apart_lookup task apart, if_pos member, recorded, Option.map_some]
        rw [stageOf_some blocked, block_state, if_neg busy, stageOf_some recorded]
    · apply stageOf_congr
      rw [apart_lookup task apart, if_neg member]

theorem snapshot_succeeded (aligned : self.Aligned) {id : GraphNodeId}
    (succeeded : snapshot self.nodes id = some .succeeded) : self.stageOf id = .done := by
  rw [snapshot_eq aligned.distinct] at succeeded
  obtain ⟨node, found, done⟩ := Option.map_eq_some_iff.mp succeeded
  exact succeeded_iff_done.mp ⟨node, found, done⟩

theorem ready_done (aligned : self.Aligned) {definition : GraphNode} {id : GraphNodeId}
    (known : self.definition? id = some definition) (met : ready (snapshot self.nodes) definition = true)
    (dependency : GraphNodeId) (needed : Needs self.graph id dependency) : self.stageOf dependency = .done := by
  have succeeded := List.all_eq_true.mp met dependency ((aligned.needs_iff known).mp needed)
  exact snapshot_succeeded aligned (by simpa using succeeded)

theorem Safe.reset (safe : self.Safe) {chosen : List GraphNodeId}
    (spec : Reset self.nodes next.nodes chosen) (same : next.graph = self.graph)
    (stopped : ∀ id ∈ chosen, (self.stageOf id).impedes)
    (free : ∀ id ∈ chosen, ∀ dependency, Needs self.graph id dependency → ¬(self.stageOf dependency).impedes) :
    next.Safe := by
  unfold Safe
  rw [same]
  refine Sound.reopen safe { id | id ∈ chosen } stopped free ?_ ?_
  · intro id (member : id ∈ chosen)
    have found := spec.lookup id
    rw [if_pos member] at found
    unfold stageOf node?
    rw [found]
    cases self.nodes.find? fun node => node.nodeId = id with
    | none => rfl
    | some node => rfl
  · intro id (absent : id ∉ chosen)
    have found := spec.lookup id
    rw [if_neg absent] at found
    exact stageOf_congr found

end Moves

theorem claimReady_safe (aligned : self.Aligned) (safe : self.Safe) (owner : String) (limit : Nat) :
    Frame self (self.claimReady owner limit).2 ∧ (self.claimReady owner limit).2.Safe := by
  unfold claimReady
  split
  case isTrue => exact ⟨.refl self, safe⟩
  case isFalse =>
    obtain ⟨after, chosen, ran, spec, -⟩ :=
      claimLoop_spec self.graph (snapshot self.nodes) owner limit aligned.distinct []
    have moved : ∀ revision, ({ self with nodes := after, revision } : GraphExecution).Safe := by
      intro revision
      refine Sound.engage safe { id | id ∈ chosen } ?_ ?_ ?_ ?_
      · intro id member
        obtain ⟨node, found, pending⟩ := spec.pending id member
        simp [stageOf_some found, pending]
      · intro id member
        obtain ⟨definition, known, met⟩ := spec.ready id member
        exact ready_done aligned known met
      · intro id (member : id ∈ chosen)
        obtain ⟨node, found, -⟩ := spec.pending id member
        have engaged : ({ self with nodes := after, revision } : GraphExecution).node? id = some (engage owner node) := by
          have looked := spec.lookup id
          rw [if_pos member, found] at looked
          exact looked
        rw [stageOf_some engaged]
        rfl
      · intro id (absent : id ∉ chosen)
        apply stageOf_congr
        have looked := spec.lookup id
        rw [if_neg absent] at looked
        exact looked
    cases loop : claimLoop self.graph (snapshot self.nodes) owner limit [] self.nodes with
    | mk result nodes =>
      rw [loop] at ran
      obtain rfl : nodes = after := ran
      cases result with
      | error error => exact ⟨⟨rfl, rfl, rfl, spec.keys⟩, moved self.revision⟩
      | ok claimed => exact ⟨⟨rfl, rfl, rfl, spec.keys⟩, moved _⟩

theorem claimNode_safe (aligned : self.Aligned) (safe : self.Safe)
    (accepted : self.claimNode nodeId owner = .ok next) : Frame self next ∧ next.Safe := by
  obtain ⟨definition, node, known, met, found, pending, rfl⟩ := claimNode_ok accepted
  have kept : ∀ node, (engage owner node).nodeId = node.nodeId := fun _ => rfl
  exact ⟨frame_updateNode kept, safe.update_engage kept found pending rfl (ready_done aligned known met)⟩

theorem stageNode_safe (aligned : self.Aligned) (safe : self.Safe)
    (accepted : self.stageNode nodeId owner runId = .ok next) : Frame self next ∧ next.Safe := by
  obtain ⟨definition, node, -, -, known, met, found, pending, -, -, rfl⟩ := stageNode_ok accepted
  have kept : ∀ node, (GraphExecution.stage owner runId node).nodeId = node.nodeId := fun _ => rfl
  refine ⟨frame_updateNode kept, safe.update_engage kept found pending rfl fun dependency needed => ?_⟩
  obtain ⟨execution, member, rfl, succeeded⟩ := met dependency ((aligned.needs_iff known).mp needed)
  exact succeeded_iff_done.mp ⟨execution, find_of_mem aligned.distinct member, succeeded⟩

theorem activateStagedNode_safe (safe : self.Safe)
    (accepted : self.activateStagedNode nodeId owner runId = .ok next) : Frame self next ∧ next.Safe := by
  obtain ⟨node, found, staged, -, -, rfl⟩ := activateStagedNode_ok accepted
  have kept : ∀ node, (activate node).nodeId = node.nodeId := fun _ => rfl
  exact ⟨frame_updateNode kept, safe.update_same kept found (by rw [staged]; rfl)⟩

theorem cancelStagedNode_safe (aligned : self.Aligned) (safe : self.Safe)
    (accepted : self.cancelStagedNode nodeId owner runId = .ok next) : Frame self next ∧ next.Safe := by
  obtain ⟨node, found, staged, -, -, rfl⟩ := cancelStagedNode_ok accepted
  have kept : ∀ node, (cancel node).nodeId = node.nodeId := fun _ => rfl
  exact ⟨(frame_updateNode kept).trans (frame_blockDependents _ _),
    safe.update_fail aligned kept found (by rw [staged]; rfl) rfl⟩

theorem bindRun_safe (safe : self.Safe) (accepted : self.bindRun nodeId owner runId = .ok next) :
    Frame self next ∧ next.Safe := by
  obtain ⟨node, found, -, -, -, rfl⟩ := bindRun_ok accepted
  have kept : ∀ node : GraphNodeExecution, { node with runId := some runId }.nodeId = node.nodeId := fun _ => rfl
  refine ⟨⟨rfl, rfl, rfl, map_modifyFirst kept self.nodes⟩, Sound.relabel safe fun other => ?_⟩
  unfold stageOf node?
  rw [find_modifyFirst kept]
  by_cases same : other = nodeId
  · cases self.nodes.find? fun node => node.nodeId = other <;> simp [same]
  · rw [if_neg same]

theorem complete_safe (aligned : self.Aligned) (safe : self.Safe) {succeeded : Bool}
    (accepted : self.complete nodeId owner succeeded = .ok next) : Frame self next ∧ next.Safe := by
  obtain ⟨node, found, running, -, rfl⟩ := complete_ok accepted
  have engaged : node.state.stage = .engaged := by
    rw [running]
    rfl
  have kept : ∀ state node, (conclude state node).nodeId = node.nodeId := fun _ _ => rfl
  cases succeeded with
  | true => exact ⟨frame_updateNode (kept _), safe.update_settle (kept _) found engaged rfl⟩
  | false =>
    exact ⟨(frame_updateNode (kept _)).trans (frame_blockDependents _ nodeId),
      safe.update_fail aligned (kept _) found engaged rfl⟩

theorem finishTerminal_safe (aligned : self.Aligned) (safe : self.Safe) {state : GraphNodeState}
    {failure : Option AdapterFailure} (accepted : self.finishTerminal nodeId owner state failure = .ok next) :
    Frame self next ∧ next.Safe := by
  obtain ⟨node, terminal, found, running, -, rfl⟩ := finishTerminal_ok accepted
  have kept : ∀ node, (finish owner state failure node).nodeId = node.nodeId := fun _ => rfl
  have engaged : node.state.stage = .engaged := by
    rw [running]
    rfl
  by_cases blocks : state.blocks = true
  · rw [if_pos blocks]
    exact ⟨(frame_updateNode kept).trans (frame_blockDependents _ _),
      safe.update_fail aligned kept found engaged blocks⟩
  · rw [if_neg blocks]
    refine ⟨frame_updateNode kept, ?_⟩
    -- a terminal state that does not block is a success or leaves the outcome open
    by_cases succeeded : state = .succeeded
    · exact safe.update_settle kept found engaged succeeded
    · refine safe.update_same kept found ?_
      rw [engaged]
      cases state <;> simp_all [finish, GraphNodeState.isTerminal, GraphNodeState.blocks, GraphNodeState.stage]

theorem retryFailed_safe (aligned : self.Aligned) (safe : self.Safe)
    (accepted : self.retryFailed nodeId = .ok next) : Frame self next ∧ next.Safe := by
  obtain ⟨node, nodes, found, failed, ran, rfl⟩ := retryFailed_ok accepted
  have broken : self.stageOf nodeId = .broken := by
    rw [stageOf_some found, failed]
    rfl
  have first : Reset self.nodes (modifyFirst (·.nodeId) nodeId reset self.nodes) [nodeId] :=
    modifyFirst_reset self.nodes nodeId
  -- the loop works on node lists: an execution around each list says what it keeps
  let around (nodes : List GraphNodeExecution) : GraphExecution := { self with nodes }
  have opened : (around (modifyFirst (·.nodeId) nodeId reset self.nodes)).Safe := by
    refine safe.reset first rfl ?_ ?_
    · intro id member
      rw [List.mem_singleton.mp member, broken]
      trivial
    · intro id member
      rw [List.mem_singleton.mp member]
      exact safe.broken_free broken
  have rounds : ∀ middle after,
      (middle.map (·.nodeId) = self.nodes.map (·.nodeId) ∧ (around middle).Safe) →
      Reset middle after (reopenable self.graph (snapshot middle)) →
      (after.map (·.nodeId) = self.nodes.map (·.nodeId) ∧ (around after).Safe) := by
    rintro middle after ⟨keys, sound⟩ spec
    have distinct : (middle.map (·.nodeId)).Nodup := keys ▸ aligned.distinct
    have frame : Frame self (around middle) := ⟨rfl, rfl, rfl, keys⟩
    have middleAligned := aligned.frame frame
    refine ⟨spec.keys.trans keys, sound.reset spec rfl ?_ ?_⟩
    · intro id member
      obtain ⟨_, _, _, blocked, -⟩ := reopenable_iff.mp member
      rw [snapshot_eq distinct] at blocked
      obtain ⟨record, recorded, state⟩ := Option.map_eq_some_iff.mp blocked
      have found : (around middle).node? id = some record := recorded
      rw [stageOf_some found, state]
      trivial
    · intro id member dependency needed impeded
      obtain ⟨definition, inside, rfl, -, free⟩ := reopenable_iff.mp member
      have known : (around middle).definition? definition.id = some definition :=
        find_of_mem aligned.defined inside
      have need := (middleAligned.needs_iff known).mp needed
      unfold stageOf at impeded
      cases recorded : (around middle).node? dependency with
      | none =>
        rw [recorded] at impeded
        exact impeded
      | some record =>
        rw [recorded] at impeded
        have snapped : snapshot middle dependency = some record.state := by
          rw [snapshot_eq distinct]
          exact congrArg (Option.map _) recorded
        have unblocked := free dependency need record.state snapped
        rw [GraphNodeState.blocks_iff.mpr impeded] at unblocked
        cases unblocked
  obtain ⟨after, again, ⟨keys, reached⟩, -⟩ :=
    reopenLoop_preserves aligned.defined rounds (self.nodes.length + 1) ⟨first.keys, opened⟩
  obtain rfl : nodes = after := Except.ok.inj (ran.symm.trans again)
  exact ⟨⟨rfl, rfl, rfl, keys⟩, reached⟩

theorem reconcile_lookup (self : GraphExecution) (id : GraphNodeId) :
    self.reconcileAfterRestart.2.node? id = (self.node? id).map reconcileNode := by
  have kept : ∀ node, (reconcileNode node).nodeId = node.nodeId := by
    intro node
    unfold reconcileNode
    split <;> rfl
  simp only [reconcileAfterRestart, node?, List.find?_map, Function.comp_def, kept]

theorem reconcileAfterRestart_safe (safe : self.Safe) :
    Frame self self.reconcileAfterRestart.2 ∧ self.reconcileAfterRestart.2.Safe := by
  refine ⟨⟨rfl, rfl, rfl, ?_⟩, Sound.relabel safe fun id => ?_⟩
  · simp only [reconcileAfterRestart, List.map_map]
    refine List.map_congr_left fun node _ => ?_
    simp only [Function.comp_apply, reconcileNode]
    split <;> rfl
  · unfold stageOf
    rw [reconcile_lookup]
    cases self.node? id with
    | none => rfl
    | some node =>
      simp only [Option.map_some, reconcileNode]
      split
      case isTrue running => simp [running, GraphNodeState.stage]
      case isFalse => rfl

end GraphExecution

end Bastet.Core
