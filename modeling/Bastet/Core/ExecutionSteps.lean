import Bastet.Core.Execution

/-! What each operation on a graph execution checks and changes, read off its record of
every node. The loops that block dependents and reopen them are given by the set of
nodes they reach. -/

set_option autoImplicit false

namespace Bastet.Core

open Fallible Lookup

namespace GraphExecution

variable {self next : GraphExecution} {nodeId other : GraphNodeId} {owner : String} {runId : RunId}

/-- The identity of an execution, its graph and the list of its nodes are never changed. -/
structure Frame (before after : GraphExecution) : Prop where
  id : after.id = before.id
  graph : after.graph = before.graph
  source : after.restartedFromExecutionId = before.restartedFromExecutionId
  keys : after.nodes.map (·.nodeId) = before.nodes.map (·.nodeId)

theorem Frame.refl (self : GraphExecution) : Frame self self := ⟨rfl, rfl, rfl, rfl⟩

theorem Frame.trans {last : GraphExecution} (first : Frame self next) (second : Frame next last) :
    Frame self last :=
  ⟨second.id.trans first.id, second.graph.trans first.graph, second.source.trans first.source,
    second.keys.trans first.keys⟩

theorem Frame.node?_none (frame : Frame self next) (absent : self.node? nodeId = none) : next.node? nodeId = none := by
  unfold node? at absent ⊢
  refine find_none.mpr fun node member same => ?_
  have listed : nodeId ∈ self.nodes.map (·.nodeId) := frame.keys ▸ List.mem_map.mpr ⟨node, member, same⟩
  obtain ⟨old, present, named⟩ := List.mem_map.mp listed
  exact find_none.mp absent old present named

section Update

variable {change : GraphNodeExecution → GraphNodeExecution}

theorem node?_updateNode (kept : ∀ node, (change node).nodeId = node.nodeId) (other : GraphNodeId) :
    (self.updateNode nodeId change).node? other =
      if other = nodeId then (self.node? other).map change else self.node? other :=
  find_modifyFirst kept self.nodes other

theorem frame_updateNode (kept : ∀ node, (change node).nodeId = node.nodeId) :
    Frame self (self.updateNode nodeId change) :=
  ⟨rfl, rfl, rfl, map_modifyFirst kept self.nodes⟩

theorem distinct_updateNode (kept : ∀ node, (change node).nodeId = node.nodeId)
    (distinct : (self.nodes.map (·.nodeId)).Nodup) :
    ((self.updateNode nodeId change).nodes.map (·.nodeId)).Nodup := by
  rw [(frame_updateNode kept).keys]
  exact distinct

end Update

section Block

variable {graph : WorkflowGraph} {failed : GraphNodeId}

/-- A node of the graph needs a node directly. -/
def Needs (graph : WorkflowGraph) (task dependency : GraphNodeId) : Prop :=
  ∃ definition ∈ graph.nodes, definition.id = task ∧ dependency ∈ definition.needs

/-- What the passes of `block_dependents` keep: the blocked set holds the failed node and nodes
that depend on it, and exactly the pending ones among these were changed. -/
structure Spread.Reached (graph : WorkflowGraph) (failed : GraphNodeId) (nodes : List GraphNodeExecution)
    (state : Spread) : Prop where
  root : failed ∈ state.blocked
  distinct : state.blocked.Nodup
  depends : ∀ id ∈ state.blocked, Relation.ReflTransGen (Needs graph) id failed
  known : ∀ id ∈ state.blocked, id ≠ failed → id ∈ graph.nodes.map (·.id)
  lookup : ∀ id, state.nodes.find? (fun node => node.nodeId = id) =
    if id ∈ state.blocked ∧ id ≠ failed then (nodes.find? fun node => node.nodeId = id).map block
    else nodes.find? fun node => node.nodeId = id
  keys : state.nodes.map (·.nodeId) = nodes.map (·.nodeId)

@[simp] theorem block_nodeId (node : GraphNodeExecution) : (block node).nodeId = node.nodeId := by
  unfold block
  split <;> rfl

variable {nodes : List GraphNodeExecution} {state : Spread}

theorem Spread.Reached.initial (graph : WorkflowGraph) (failed : GraphNodeId) (nodes : List GraphNodeExecution)
    (changed : Bool) : Spread.Reached graph failed nodes ⟨[failed], nodes, changed⟩ where
  root := List.mem_singleton_self failed
  distinct := List.nodup_singleton failed
  depends id member := by
    rw [List.mem_singleton.mp member]
  known id member apart := absurd (List.mem_singleton.mp member) apart
  lookup id := by
    have never : ¬(id ∈ [failed] ∧ id ≠ failed) := fun both => both.2 (List.mem_singleton.mp both.1)
    rw [if_neg never]
  keys := rfl

theorem Spread.Reached.spread (reached : Spread.Reached graph failed nodes state) {definition : GraphNode}
    (member : definition ∈ graph.nodes) : Spread.Reached graph failed nodes (spread state definition) := by
  unfold GraphExecution.spread
  split
  case isFalse => exact reached
  case isTrue enters =>
    obtain ⟨needed, fresh⟩ := enters
    simp only [List.any_eq_true, decide_eq_true_eq] at needed
    obtain ⟨dependency, need, inside⟩ := needed
    have apart : definition.id ≠ failed := fun same => fresh (same ▸ reached.root)
    refine ⟨List.mem_cons_of_mem _ reached.root, List.nodup_cons.mpr ⟨fresh, reached.distinct⟩, ?_, ?_, ?_, ?_⟩
    · intro id found
      rcases List.mem_cons.mp found with rfl | found
      · exact .head ⟨definition, member, rfl, need⟩ (reached.depends dependency inside)
      · exact reached.depends id found
    · intro id found distinct
      rcases List.mem_cons.mp found with rfl | found
      · exact List.mem_map_of_mem member
      · exact reached.known id found distinct
    · intro id
      rw [find_modifyFirst block_nodeId, reached.lookup id]
      by_cases same : id = definition.id
      · subst same
        simp [fresh, apart]
      · simp [same]
    · exact (map_modifyFirst block_nodeId state.nodes).trans reached.keys

theorem Spread.Reached.pass (definitions : List GraphNode) (inside : ∀ definition ∈ definitions, definition ∈ graph.nodes)
    (reached : Spread.Reached graph failed nodes state) :
    Spread.Reached graph failed nodes (definitions.foldl GraphExecution.spread state) := by
  induction definitions generalizing state with
  | nil => exact reached
  | cons first rest ih =>
    exact ih (fun definition member => inside definition (List.mem_cons_of_mem _ member))
      (reached.spread (inside first (List.mem_cons_self ..)))

theorem blocked_length_le (definitions : List GraphNode) (state : Spread) :
    state.blocked.length ≤ (definitions.foldl spread state).blocked.length := by
  induction definitions generalizing state with
  | nil => exact Nat.le_refl _
  | cons first rest ih =>
    refine Nat.le_trans ?_ (ih (spread state first))
    unfold spread
    split
    · exact Nat.le_succ _
    · exact Nat.le_refl _

/-- A pass only extends the blocked set, and says so when it does. -/
theorem pass_grows (definitions : List GraphNode) (state : Spread) :
    (definitions.foldl spread state).changed = true ∧
        (state.changed = true ∨ state.blocked.length < (definitions.foldl spread state).blocked.length) ∨
      definitions.foldl spread state = state ∧ ∀ definition ∈ definitions,
        (∃ dependency ∈ definition.needs, dependency ∈ state.blocked) → definition.id ∈ state.blocked := by
  induction definitions generalizing state with
  | nil => exact .inr ⟨rfl, fun _ member => nomatch member⟩
  | cons first rest ih =>
    simp only [List.foldl_cons]
    by_cases enters : (first.needs.any fun dependency => dependency ∈ state.blocked) ∧ first.id ∉ state.blocked
    · have stepped : spread state first =
          ⟨first.id :: state.blocked, modifyFirst (·.nodeId) first.id block state.nodes, true⟩ := if_pos enters
      rw [stepped]
      rcases ih ⟨first.id :: state.blocked, modifyFirst (·.nodeId) first.id block state.nodes, true⟩ with
        ⟨changed, -⟩ | ⟨stopped, -⟩
      · refine .inl ⟨changed, .inr ?_⟩
        exact Nat.lt_of_lt_of_le (Nat.lt_succ_self state.blocked.length)
          (blocked_length_le rest ⟨first.id :: state.blocked, _, true⟩)
      · rw [stopped]
        exact .inl ⟨rfl, .inr (Nat.lt_succ_self _)⟩
    · have stepped : spread state first = state := if_neg enters
      rw [stepped]
      rcases ih state with grown | ⟨stopped, closed⟩
      · exact .inl grown
      · refine .inr ⟨stopped, fun definition member needed => ?_⟩
        rcases List.mem_cons.mp member with rfl | member
        · by_contra fresh
          refine enters ⟨?_, fresh⟩
          simpa using needed
        · exact closed definition member needed

theorem Spread.Reached.length_le (reached : Spread.Reached graph failed nodes state) :
    state.blocked.length ≤ graph.nodes.length + 1 := by
  have subset : state.blocked ⊆ failed :: graph.nodes.map (·.id) := by
    intro id member
    by_cases same : id = failed
    · exact same ▸ List.mem_cons_self ..
    · exact List.mem_cons_of_mem _ (reached.known id member same)
  have bounded := (List.subperm_of_subset reached.distinct subset).length_le
  simpa using bounded

/-- With fuel for one more pass than nodes remain, the blocked set is closed under needing. -/
theorem blockLoop_closed (fuel : Nat) (state : Spread) (reached : Spread.Reached graph failed nodes state)
    (enough : graph.nodes.length + 1 < fuel + state.blocked.length) :
    Spread.Reached graph failed nodes (blockLoop graph fuel state) ∧
      ∀ task dependency, Needs graph task dependency → dependency ∈ (blockLoop graph fuel state).blocked →
        task ∈ (blockLoop graph fuel state).blocked := by
  induction fuel generalizing state with
  | zero => exact absurd reached.length_le (by omega)
  | succ fuel ih =>
    have restarted : Spread.Reached graph failed nodes { state with changed := false } :=
      ⟨reached.root, reached.distinct, reached.depends, reached.known, reached.lookup, reached.keys⟩
    have passed := restarted.pass graph.nodes (fun _ member => member)
    simp only [blockLoop]
    rcases pass_grows graph.nodes { state with changed := false } with ⟨changed, grown⟩ | ⟨stopped, closed⟩
    · rw [if_pos changed]
      have longer : state.blocked.length <
          (graph.nodes.foldl spread { state with changed := false }).blocked.length := by
        rcases grown with impossible | longer
        · cases impossible
        · exact longer
      exact ih _ passed (by omega)
    · rw [stopped]
      simp only [Bool.false_eq_true, if_false]
      refine ⟨restarted, ?_⟩
      rintro task dependency ⟨definition, member, rfl, need⟩ inside
      exact closed definition member ⟨dependency, need, inside⟩

/-- `block_dependents` reaches a set of nodes that is closed under needing and holds only nodes
that depend on the failed one, and blocks the pending nodes of it. -/
theorem blockDependents_spec (self : GraphExecution) (failed : GraphNodeId) :
    ∃ affected : List GraphNodeId, failed ∈ affected ∧
      (∀ task dependency, Needs self.graph task dependency → dependency ∈ affected → task ∈ affected) ∧
      (∀ id ∈ affected, Relation.ReflTransGen (Needs self.graph) id failed) ∧
      ∀ id, (self.blockDependents failed).node? id =
        if id ∈ affected ∧ id ≠ failed then (self.node? id).map block else self.node? id := by
  have initial := Spread.Reached.initial self.graph failed self.nodes false
  obtain ⟨reached, closed⟩ := blockLoop_closed (self.graph.nodes.length + 1) _ initial
    (by simp only [List.length_singleton]; omega)
  exact ⟨_, reached.root, closed, reached.depends, reached.lookup⟩

theorem frame_blockDependents (self : GraphExecution) (failed : GraphNodeId) :
    Frame self (self.blockDependents failed) := by
  have initial := Spread.Reached.initial self.graph failed self.nodes false
  obtain ⟨reached, -⟩ := blockLoop_closed (self.graph.nodes.length + 1) _ initial
    (by simp only [List.length_singleton]; omega)
  exact ⟨rfl, rfl, rfl, reached.keys⟩

end Block

section Claim

variable {graph : WorkflowGraph} {states : GraphNodeId → Option GraphNodeState} {limit : Nat}

/-- What the claim loop did to the nodes it went through: the ones it chose were pending and
ready, and were given to the owner; every other node is as it was. -/
structure Claimed (graph : WorkflowGraph) (states : GraphNodeId → Option GraphNodeState) (owner : String)
    (nodes after : List GraphNodeExecution) (chosen : List GraphNodeId) : Prop where
  keys : after.map (·.nodeId) = nodes.map (·.nodeId)
  pending : ∀ id ∈ chosen, ∃ node, nodes.find? (fun node => node.nodeId = id) = some node ∧ node.state = .pending
  ready : ∀ id ∈ chosen, ∃ definition, graph.nodes.find? (fun node => node.id = id) = some definition ∧
    ready states definition = true
  lookup : ∀ id, after.find? (fun node => node.nodeId = id) =
    if id ∈ chosen then (nodes.find? fun node => node.nodeId = id).map (engage owner)
    else nodes.find? fun node => node.nodeId = id

variable {nodes rest after : List GraphNodeExecution} {chosen : List GraphNodeId} {first : GraphNodeExecution}

theorem Claimed.skip (fresh : first.nodeId ∉ rest.map (·.nodeId))
    (claimed : Claimed graph states owner rest after chosen) :
    Claimed graph states owner (first :: rest) (first :: after) chosen := by
  have unchosen : first.nodeId ∉ chosen := by
    intro member
    obtain ⟨node, found, -⟩ := claimed.pending _ member
    obtain ⟨inside, same⟩ := find_some found
    exact fresh (same ▸ List.mem_map_of_mem inside)
  refine ⟨by simp [claimed.keys], fun id member => ?_, claimed.ready, fun id => ?_⟩
  · have apart : first.nodeId ≠ id := fun same => unchosen (same ▸ member)
    simpa [List.find?_cons, apart] using claimed.pending id member
  · by_cases same : first.nodeId = id
    · subst same
      simp [unchosen]
    · simp [same, claimed.lookup id]

theorem Claimed.take (fresh : first.nodeId ∉ rest.map (·.nodeId)) (pending : first.state = .pending)
    {definition : GraphNode} (known : graph.nodes.find? (fun node => node.id = first.nodeId) = some definition)
    (met : GraphExecution.ready states definition = true) (claimed : Claimed graph states owner rest after chosen) :
    Claimed graph states owner (first :: rest) (engage owner first :: after) (first.nodeId :: chosen) := by
  have named : (engage owner first).nodeId = first.nodeId := rfl
  refine ⟨by simp [claimed.keys, named], fun id member => ?_, fun id member => ?_, fun id => ?_⟩
  · rcases List.mem_cons.mp member with rfl | member
    · exact ⟨first, by simp, pending⟩
    · have apart : first.nodeId ≠ id := by
        rintro rfl
        obtain ⟨node, found, -⟩ := claimed.pending _ member
        obtain ⟨inside, same⟩ := find_some found
        exact fresh (same ▸ List.mem_map_of_mem inside)
      simpa [List.find?_cons, apart] using claimed.pending id member
  · rcases List.mem_cons.mp member with rfl | member
    · exact ⟨definition, known, met⟩
    · exact claimed.ready id member
  · by_cases same : first.nodeId = id
    · subst same
      simp [named]
    · simp [named, same, Ne.symm same, claimed.lookup id]

theorem claimLoop_spec (graph : WorkflowGraph) (states : GraphNodeId → Option GraphNodeState) (owner : String)
    (limit : Nat) (distinct : (nodes.map (·.nodeId)).Nodup) (claimed : List GraphNodeId) :
    ∃ after chosen, (claimLoop graph states owner limit claimed nodes).2 = after ∧
      Claimed graph states owner nodes after chosen ∧
      ((claimLoop graph states owner limit claimed nodes).1 = .ok (claimed ++ chosen) ∨
        (claimLoop graph states owner limit claimed nodes).1 = .error .invalidExecution ∧
          ∃ node ∈ nodes, graph.nodes.find? (fun definition => definition.id = node.nodeId) = none) := by
  induction nodes generalizing claimed with
  | nil => exact ⟨[], [], rfl, ⟨rfl, nofun, nofun, by simp⟩, .inl (by simp [claimLoop])⟩
  | cons first rest ih =>
    obtain ⟨fresh, others⟩ := List.nodup_cons.mp distinct
    simp only [claimLoop]
    by_cases passed : claimed.length = limit ∨ first.state ≠ .pending
    · obtain ⟨after, chosen, ran, spec, outcome⟩ := ih others claimed
      simp only [if_pos passed]
      refine ⟨first :: after, chosen, by rw [ran], spec.skip fresh, ?_⟩
      rcases outcome with ended | ⟨stopped, node, member, unknown⟩
      · exact .inl ended
      · exact .inr ⟨stopped, node, List.mem_cons_of_mem _ member, unknown⟩
    · simp only [if_neg passed]
      have pending : first.state = .pending := by
        by_contra apart
        exact passed (.inr apart)
      cases known : graph.nodes.find? (fun definition => definition.id = first.nodeId) with
      | none =>
        refine ⟨first :: rest, [], rfl, ⟨rfl, nofun, nofun, by simp⟩, .inr ⟨rfl, first, ?_, known⟩⟩
        exact List.mem_cons_self ..
      | some definition =>
        by_cases met : GraphExecution.ready states definition = true
        · obtain ⟨after, chosen, ran, spec, outcome⟩ := ih others (claimed ++ [first.nodeId])
          simp only [if_pos met]
          refine ⟨engage owner first :: after, first.nodeId :: chosen, by rw [ran],
            spec.take fresh pending known met, ?_⟩
          rcases outcome with ended | ⟨stopped, node, member, unknown⟩
          · exact .inl (by rw [ended]; simp)
          · exact .inr ⟨stopped, node, List.mem_cons_of_mem _ member, unknown⟩
        · obtain ⟨after, chosen, ran, spec, outcome⟩ := ih others claimed
          simp only [if_neg met]
          refine ⟨first :: after, chosen, by rw [ran], spec.skip fresh, ?_⟩
          rcases outcome with ended | ⟨stopped, node, member, unknown⟩
          · exact .inl ended
          · exact .inr ⟨stopped, node, List.mem_cons_of_mem _ member, unknown⟩

end Claim

section Accepted

/-! Each accepted operation, with everything it checked and the execution it returns. -/

theorem claimNode_ok (accepted : self.claimNode nodeId owner = .ok next) :
    ∃ definition node, self.definition? nodeId = some definition ∧ ready (snapshot self.nodes) definition = true ∧
      self.node? nodeId = some node ∧ node.state = .pending ∧ next = self.updateNode nodeId (engage owner) := by
  simp only [claimNode, bind_ok, exists_unit, rejectIf_ok, okOr_ok, pure_ok, Bool.not_eq_false',
    decide_eq_false_iff_not, ne_eq, not_not] at accepted
  obtain ⟨-, definition, known, met, node, found, pending, rfl⟩ := accepted
  exact ⟨definition, node, known, met, found, pending, rfl⟩

theorem stageNode_ok (accepted : self.stageNode nodeId owner runId = .ok next) :
    ∃ definition node, isBlank owner = false ∧ self.runIdIsInUse runId = false ∧
      self.definition? nodeId = some definition ∧
      (∀ dependency ∈ definition.needs, ∃ execution ∈ self.nodes,
        execution.nodeId = dependency ∧ execution.state = .succeeded) ∧
      self.node? nodeId = some node ∧ node.state = .pending ∧ node.owner = none ∧ node.runId = none ∧
      next = self.updateNode nodeId (stage owner runId) := by
  simp only [stageNode, dependenciesSucceeded, bind_ok, exists_unit, rejectIf_ok, okOr_ok, pure_ok,
    Bool.or_eq_false_iff, Bool.not_eq_false', decide_eq_false_iff_not, ne_eq, not_not,
    Option.isSome_eq_false_iff, Option.isNone_iff_eq_none] at accepted
  obtain ⟨⟨named, unused⟩, _, ⟨definition, known, rfl⟩, met, node, found, ⟨⟨pending, unowned⟩, unbound⟩, rfl⟩ :=
    accepted
  refine ⟨definition, node, named, unused, known, fun dependency needed => ?_, found, pending, unowned, unbound, rfl⟩
  have settled := List.all_eq_true.mp met dependency needed
  simpa [List.any_eq_true] using settled

theorem stagedAs_iff {execution : GraphNodeExecution} :
    stagedAs execution owner runId = true ↔
      execution.state = .awaitingApproval ∧ execution.owner = some owner ∧ execution.runId = some runId := by
  simp [stagedAs, and_assoc]

theorem runningFor_iff {execution : GraphNodeExecution} :
    runningFor execution owner = true ↔ execution.state = .running ∧ execution.owner = some owner := by
  simp [runningFor]

/-- The change activation makes to a staged node. -/
def activate (node : GraphNodeExecution) : GraphNodeExecution :=
  { node with state := .running, revision := bump node.revision }

/-- The change cancelling makes to a staged node. -/
def cancel (node : GraphNodeExecution) : GraphNodeExecution :=
  { node with state := .cancelled, failure := none, revision := bump node.revision }

/-- The change finishing makes to a running node. -/
def finish (owner : String) (state : GraphNodeState) (failure : Option AdapterFailure)
    (node : GraphNodeExecution) : GraphNodeExecution :=
  { node with
    state
    owner := if state.keepsOwner then some owner else none
    failure
    revision := bump node.revision }

theorem activateStagedNode_ok (accepted : self.activateStagedNode nodeId owner runId = .ok next) :
    ∃ node, self.node? nodeId = some node ∧ node.state = .awaitingApproval ∧ node.owner = some owner ∧
      node.runId = some runId ∧ next = self.updateNode nodeId activate := by
  simp only [activateStagedNode, bind_ok, exists_unit, rejectIf_ok, okOr_ok, pure_ok, Bool.not_eq_false',
    stagedAs_iff] at accepted
  obtain ⟨node, found, ⟨staged, owned, bound⟩, rfl⟩ := accepted
  exact ⟨node, found, staged, owned, bound, rfl⟩

theorem cancelStagedNode_ok (accepted : self.cancelStagedNode nodeId owner runId = .ok next) :
    ∃ node, self.node? nodeId = some node ∧ node.state = .awaitingApproval ∧ node.owner = some owner ∧
      node.runId = some runId ∧ next = (self.updateNode nodeId cancel).blockDependents nodeId := by
  simp only [cancelStagedNode, bind_ok, exists_unit, rejectIf_ok, okOr_ok, pure_ok, Bool.not_eq_false',
    stagedAs_iff] at accepted
  obtain ⟨node, found, ⟨staged, owned, bound⟩, rfl⟩ := accepted
  exact ⟨node, found, staged, owned, bound, rfl⟩

theorem bindRun_ok (accepted : self.bindRun nodeId owner runId = .ok next) :
    ∃ node, self.node? nodeId = some node ∧ node.state = .running ∧ node.owner = some owner ∧ node.runId = none ∧
      next = { self with
        nodes := modifyFirst (·.nodeId) nodeId (fun node => { node with runId := some runId }) self.nodes } := by
  simp only [bindRun, bind_ok, exists_unit, rejectIf_ok, okOr_ok, pure_ok, Bool.or_eq_false_iff,
    Bool.not_eq_false', runningFor_iff, Option.isSome_eq_false_iff, Option.isNone_iff_eq_none] at accepted
  obtain ⟨node, found, ⟨⟨running, owned⟩, unbound⟩, rfl⟩ := accepted
  exact ⟨node, found, running, owned, unbound, rfl⟩

/-- The change a manual completion makes to a running node. -/
def conclude (state : GraphNodeState) (node : GraphNodeExecution) : GraphNodeExecution :=
  { node with state, failure := none, revision := bump node.revision }

theorem complete_ok {succeeded : Bool} (accepted : self.complete nodeId owner succeeded = .ok next) :
    ∃ node, self.node? nodeId = some node ∧ node.state = .running ∧ node.owner = some owner ∧
      next = if succeeded then self.updateNode nodeId (conclude .succeeded)
        else (self.updateNode nodeId (conclude .failed)).blockDependents nodeId := by
  simp only [complete, bind_ok, exists_unit, rejectIf_ok, okOr_ok, pure_ok, Bool.not_eq_false',
    runningFor_iff] at accepted
  obtain ⟨node, found, ⟨running, owned⟩, rfl⟩ := accepted
  refine ⟨node, found, running, owned, ?_⟩
  cases succeeded <;> rfl

theorem finishTerminal_ok {state : GraphNodeState} {failure : Option AdapterFailure}
    (accepted : self.finishTerminal nodeId owner state failure = .ok next) :
    ∃ node, state.isTerminal = true ∧ self.node? nodeId = some node ∧ node.state = .running ∧
      node.owner = some owner ∧
      next = if state.blocks then (self.updateNode nodeId (finish owner state failure)).blockDependents nodeId
        else self.updateNode nodeId (finish owner state failure) := by
  simp only [finishTerminal, bind_ok, exists_unit, rejectIf_ok, okOr_ok, pure_ok, Bool.not_eq_false',
    runningFor_iff] at accepted
  obtain ⟨terminal, node, found, ⟨running, owned⟩, rfl⟩ := accepted
  exact ⟨node, terminal, found, running, owned, rfl⟩

theorem retryFailed_ok (accepted : self.retryFailed nodeId = .ok next) :
    ∃ node nodes, self.node? nodeId = some node ∧ node.state = .failed ∧
      reopenLoop self.graph (self.nodes.length + 1) (modifyFirst (·.nodeId) nodeId reset self.nodes) = .ok nodes ∧
      next = { self with nodes, revision := bump self.revision } := by
  simp only [retryFailed, bind_ok, exists_unit, rejectIf_ok, okOr_ok, pure_ok, decide_eq_false_iff_not, ne_eq,
    not_not] at accepted
  obtain ⟨node, found, failed, nodes, ran, rfl⟩ := accepted
  exact ⟨node, nodes, found, failed, ran, rfl⟩

theorem recordOutput_ok [Sha256] {output : GraphNodeOutput} (accepted : self.recordOutput output = .ok next) :
    ∃ node, output.validate = .ok () ∧ (∀ existing ∈ self.outputs, existing.runId ≠ output.runId) ∧
      self.node? output.nodeId = some node ∧ (node.state = .succeeded ∨ node.state = .failed) ∧
      (∀ runId, node.runId = some runId → runId = output.runId) ∧
      next = { self with outputs := self.outputs ++ [output] } := by
  simp only [recordOutput, bind_ok, exists_unit, rejectIf_ok, pure_ok, Bool.or_eq_false_iff,
    List.any_eq_false, decide_eq_true_eq] at accepted
  obtain ⟨valid, ⟨fresh, allowed⟩, rfl⟩ := accepted
  cases found : self.node? output.nodeId with
  | none => simp [found] at allowed
  | some node =>
    simp only [found, Option.all_some, Bool.or_eq_false_iff, Bool.not_eq_false', Bool.or_eq_true,
      decide_eq_true_eq] at allowed
    refine ⟨node, valid, fresh, rfl, allowed.1, fun runId bound => ?_, rfl⟩
    simpa [bound] using allowed.2

end Accepted

section Reopen

variable {graph : WorkflowGraph} {nodes after : List GraphNodeExecution}

/-- The effect of one round of reopening on the node list. -/
structure Reset (nodes after : List GraphNodeExecution) (chosen : List GraphNodeId) : Prop where
  keys : after.map (·.nodeId) = nodes.map (·.nodeId)
  lookup : ∀ id, after.find? (fun node => node.nodeId = id) =
    if id ∈ chosen then (nodes.find? fun node => node.nodeId = id).map reset
    else nodes.find? fun node => node.nodeId = id

@[simp] theorem reset_nodeId (node : GraphNodeExecution) : (reset node).nodeId = node.nodeId := rfl

theorem modifyFirst_reset (nodes : List GraphNodeExecution) (id : GraphNodeId) :
    Reset nodes (modifyFirst (·.nodeId) id reset nodes) [id] where
  keys := map_modifyFirst reset_nodeId nodes
  lookup other := by
    simpa using find_modifyFirst reset_nodeId nodes other

theorem reopenEach_spec {chosen : List GraphNodeId} (distinct : chosen.Nodup)
    (known : ∀ id ∈ chosen, id ∈ nodes.map (·.nodeId)) :
    ∃ after, foldEach reopenNode chosen nodes = .ok after ∧ Reset nodes after chosen := by
  induction chosen generalizing nodes with
  | nil => exact ⟨nodes, rfl, rfl, by simp⟩
  | cons first rest ih =>
    obtain ⟨fresh, others⟩ := List.nodup_cons.mp distinct
    obtain ⟨node, found⟩ := exists_of_mem_keys (known first (List.mem_cons_self ..))
    have stepped : reopenNode nodes first = .ok (modifyFirst (·.nodeId) first reset nodes) := by
      simp [reopenNode, found, okOr, pure, Except.pure]
    have changed := modifyFirst_reset nodes first
    have still : ∀ id ∈ rest, id ∈ (modifyFirst (·.nodeId) first reset nodes).map (·.nodeId) :=
      fun id member => changed.keys ▸ known id (List.mem_cons_of_mem _ member)
    obtain ⟨after, ran, spec⟩ := ih others still
    refine ⟨after, by rw [foldEach, stepped, ok_bind, ran], spec.keys.trans changed.keys, fun id => ?_⟩
    rw [spec.lookup, changed.lookup]
    by_cases same : id = first
    · subst same
      simp [fresh]
    · simp [same]

theorem reopenable_iff {states : GraphNodeId → Option GraphNodeState} {id : GraphNodeId} :
    id ∈ reopenable graph states ↔ ∃ definition ∈ graph.nodes, definition.id = id ∧
      states id = some .blocked ∧
      ∀ dependency ∈ definition.needs, ∀ state, states dependency = some state → state.blocks = false := by
  simp only [reopenable, List.mem_map, List.mem_filter, Bool.and_eq_true, decide_eq_true_eq, Bool.not_eq_true',
    List.any_eq_false, Bool.not_eq_true]
  constructor
  · rintro ⟨definition, ⟨member, blocked, free⟩, rfl⟩
    refine ⟨definition, member, rfl, blocked, fun dependency needed state found => ?_⟩
    simpa [found] using free dependency needed
  · rintro ⟨definition, member, rfl, blocked, free⟩
    refine ⟨definition, ⟨member, blocked, fun dependency needed => ?_⟩, rfl⟩
    cases found : states dependency with
    | none => rfl
    | some state => exact free dependency needed state found

theorem snapshot_eq (distinct : (nodes.map (·.nodeId)).Nodup) (id : GraphNodeId) :
    snapshot nodes id = (nodes.find? fun node => node.nodeId = id).map (·.state) :=
  lastOf_eq_find distinct id

theorem reopenable_known {id : GraphNodeId} (member : id ∈ reopenable graph (snapshot nodes)) :
    id ∈ nodes.map (·.nodeId) := by
  obtain ⟨_, _, _, blocked, -⟩ := reopenable_iff.mp member
  unfold snapshot lastOf at blocked
  obtain ⟨node, found, -⟩ := Option.map_eq_some_iff.mp blocked
  obtain ⟨inside, rfl⟩ := find_some found
  exact List.mem_map_of_mem (List.mem_reverse.mp inside)

theorem reopenable_distinct (valid : (graph.nodes.map (·.id)).Nodup)
    (states : GraphNodeId → Option GraphNodeState) : (reopenable graph states).Nodup :=
  valid.sublist (List.Sublist.map _ List.filter_sublist)

/-- What every round of reopening keeps, the loop keeps, and the loop never fails. -/
theorem reopenLoop_preserves {holds : List GraphNodeExecution → Prop} (valid : (graph.nodes.map (·.id)).Nodup)
    (preserved : ∀ nodes after, holds nodes → Reset nodes after (reopenable graph (snapshot nodes)) → holds after)
    (fuel : Nat) (initial : holds nodes) :
    ∃ after, reopenLoop graph fuel nodes = .ok after ∧ holds after ∧
      after.map (·.nodeId) = nodes.map (·.nodeId) := by
  induction fuel generalizing nodes with
  | zero => exact ⟨nodes, rfl, initial, rfl⟩
  | succ fuel ih =>
    simp only [reopenLoop]
    by_cases finished : (reopenable graph (snapshot nodes)).isEmpty = true
    · exact ⟨nodes, if_pos finished, initial, rfl⟩
    · obtain ⟨middle, ran, spec⟩ := reopenEach_spec (reopenable_distinct valid (snapshot nodes))
        (fun id member => reopenable_known member)
      obtain ⟨after, rest, reached, keys⟩ := ih (preserved nodes middle initial spec)
      refine ⟨after, ?_, reached, keys.trans spec.keys⟩
      rw [if_neg finished, ran, ok_bind, rest]

/-- A round that reopens something leaves fewer blocked nodes. -/
theorem reopenEach_blocked_lt {chosen : List GraphNodeId} (accepted : foldEach reopenNode chosen nodes = .ok after) :
    after.countP (fun node => node.state = .blocked) ≤ nodes.countP (fun node => node.state = .blocked) ∧
      ∀ first rest, chosen = first :: rest →
        (nodes.find? fun node => node.nodeId = first).map (·.state) = some .blocked →
        after.countP (fun node => node.state = .blocked) < nodes.countP (fun node => node.state = .blocked) := by
  induction chosen generalizing nodes with
  | nil =>
    simp only [foldEach, Except.ok.injEq] at accepted
    subst accepted
    exact ⟨Nat.le_refl _, by simp⟩
  | cons first rest ih =>
    simp only [foldEach, reopenNode, bind_ok, okOr_ok, pure_ok] at accepted
    obtain ⟨_, ⟨node, found, rfl⟩, remaining⟩ := accepted
    have fewer := (ih remaining).1
    have unblocked : ∀ node, decide ((reset node).state = .blocked) = false := fun _ => rfl
    have taken : (modifyFirst (·.nodeId) first reset nodes).countP (fun node => decide (node.state = .blocked)) +
        (if (nodes.find? fun node => node.nodeId = first).any (fun node => decide (node.state = .blocked)) then 1
          else 0) = nodes.countP (fun node => decide (node.state = .blocked)) :=
      countP_modifyFirst unblocked nodes
    refine ⟨by omega, ?_⟩
    rintro _ _ ⟨⟩ blocked
    have counted : (nodes.find? fun node => node.nodeId = first).any
        (fun node => decide (node.state = .blocked)) = true := by
      rw [found] at blocked ⊢
      simpa using blocked
    rw [if_pos counted] at taken
    omega

/-- With fuel for one more round than blocked nodes remain, nothing is left to reopen. -/
theorem reopenLoop_settled (valid : (graph.nodes.map (·.id)).Nodup) (distinct : (nodes.map (·.nodeId)).Nodup)
    {fuel : Nat} (enough : nodes.countP (fun node => node.state = .blocked) < fuel)
    (accepted : reopenLoop graph fuel nodes = .ok after) :
    reopenable graph (snapshot after) = [] := by
  induction fuel generalizing nodes with
  | zero => omega
  | succ fuel ih =>
    simp only [reopenLoop] at accepted
    by_cases finished : (reopenable graph (snapshot nodes)).isEmpty = true
    · rw [if_pos finished, Except.ok.injEq] at accepted
      subst accepted
      exact List.isEmpty_iff.mp finished
    · rw [if_neg finished, bind_ok] at accepted
      obtain ⟨middle, ran, rest⟩ := accepted
      obtain ⟨other, again, spec⟩ := reopenEach_spec (reopenable_distinct valid (snapshot nodes))
        (fun id member => reopenable_known member)
      obtain rfl : middle = other := Except.ok.inj (ran.symm.trans again)
      refine ih (spec.keys ▸ distinct) ?_ rest
      cases chosen : reopenable graph (snapshot nodes) with
      | nil => simp [chosen] at finished
      | cons first others =>
        have member : first ∈ reopenable graph (snapshot nodes) := chosen ▸ List.mem_cons_self ..
        obtain ⟨_, _, _, blocked, -⟩ := reopenable_iff.mp member
        rw [snapshot_eq distinct] at blocked
        have fewer := (reopenEach_blocked_lt ran).2 first others chosen blocked
        omega

end Reopen

end GraphExecution

end Bastet.Core
