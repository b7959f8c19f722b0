import Bastet.Core.ExecutionProgress
import Bastet.Core.ExecutionRetry

/-! What a failure blocks and what a retry reopens, as the sets of nodes they reach: the two
loops end by themselves, and the order in which the graph lists its nodes makes no difference. -/

set_option autoImplicit false

namespace Bastet.Core

open Fallible Lookup Gating GraphExecution

namespace GraphExecution

variable {self next : GraphExecution} {nodeId id : GraphNodeId} {owner : String} {runId : RunId}

/-- The execution over the same graph with its nodes listed otherwise. -/
def relist (self : GraphExecution) (nodes : List GraphNode) : GraphExecution :=
  { self with graph := { self.graph with nodes } }

section Relist

variable {nodes : List GraphNode}

theorem needs_relist (perm : nodes.Perm self.graph.nodes) : Needs (self.relist nodes).graph = Needs self.graph := by
  funext task dependency
  apply propext
  constructor
  · rintro ⟨definition, member, found⟩
    exact ⟨definition, perm.mem_iff.mp member, found⟩
  · rintro ⟨definition, member, found⟩
    exact ⟨definition, perm.mem_iff.mpr member, found⟩

theorem Aligned.relist (aligned : self.Aligned) (perm : nodes.Perm self.graph.nodes) : (self.relist nodes).Aligned where
  defined := (perm.map _).nodup_iff.mpr aligned.defined
  distinct := aligned.distinct
  same id := (aligned.same id).trans (perm.map _).mem_iff.symm

end Relist

section Passes

variable {graph : WorkflowGraph} {failed : GraphNodeId}

/-- One pass of `block_dependents` over the nodes of the graph. -/
def blockPass (graph : WorkflowGraph) (state : Spread) : Spread :=
  graph.nodes.foldl spread { state with changed := false }

/-- The passes of `block_dependents`, as many as it takes. -/
inductive BlockPasses (graph : WorkflowGraph) : Spread → Spread → Prop where
  | last {state : Spread} (idle : (blockPass graph state).changed = false) :
      BlockPasses graph state (blockPass graph state)
  | again {state final : Spread} (changed : (blockPass graph state).changed = true)
      (rest : BlockPasses graph (blockPass graph state) final) : BlockPasses graph state final

theorem blockLoop_passes {nodes : List GraphNodeExecution} (fuel : Nat) (state : Spread)
    (reached : Spread.Reached graph failed nodes state) (enough : graph.nodes.length + 1 < fuel + state.blocked.length) :
    BlockPasses graph state (blockLoop graph fuel state) := by
  induction fuel generalizing state with
  | zero => exact absurd reached.length_le (by omega)
  | succ fuel ih =>
    have restarted : Spread.Reached graph failed nodes { state with changed := false } :=
      ⟨reached.root, reached.distinct, reached.depends, reached.known, reached.lookup, reached.keys⟩
    have passed : Spread.Reached graph failed nodes (blockPass graph state) :=
      restarted.pass graph.nodes (fun _ member => member)
    rw [blockLoop]
    change BlockPasses graph state
      (if (blockPass graph state).changed then blockLoop graph fuel (blockPass graph state) else blockPass graph state)
    cases changed : (blockPass graph state).changed with
    | false => exact .last changed
    | true =>
      refine .again changed ?_
      rcases pass_grows graph.nodes { state with changed := false } with ⟨_, impossible | longer⟩ | ⟨stopped, _⟩
      · cases impossible
      · have grown : state.blocked.length < (blockPass graph state).blocked.length := longer
        exact ih _ passed (by omega)
      · rw [blockPass, stopped] at changed
        cases changed

theorem blockDependents_passes (self : GraphExecution) (failed : GraphNodeId) :
    ∃ last, BlockPasses self.graph ⟨[failed], self.nodes, false⟩ last ∧
      self.blockDependents failed = { self with nodes := last.nodes } := by
  have initial := Spread.Reached.initial self.graph failed self.nodes false
  refine ⟨_, blockLoop_passes (self.graph.nodes.length + 1) _ initial ?_, rfl⟩
  rw [List.length_singleton]
  omega

/-- The blocked nodes are the pending ones among all that depend on the failed node, whatever the
states of the nodes between. -/
theorem blockDependents_reach (self : GraphExecution) (failed : GraphNodeId) :
    ∃ affected : List GraphNodeId, (∀ id, id ∈ affected ↔ Downstream self.graph failed id) ∧
      ∀ id, (self.blockDependents failed).node? id =
        if id ∈ affected ∧ id ≠ failed then (self.node? id).map block else self.node? id := by
  obtain ⟨affected, root, closed, depends, lookup⟩ := blockDependents_spec self failed
  refine ⟨affected, fun id => ⟨depends id, fun below => ?_⟩, lookup⟩
  induction below using Relation.ReflTransGen.head_induction_on with
  | refl => exact root
  | head needed _ ih => exact closed _ _ needed ih

theorem blockDependents_relist {nodes : List GraphNode} (distinct : (self.nodes.map (·.nodeId)).Nodup)
    (perm : nodes.Perm self.graph.nodes) (failed : GraphNodeId) :
    (self.relist nodes).blockDependents failed = (self.blockDependents failed).relist nodes := by
  obtain ⟨affected, below, lookup⟩ := blockDependents_reach self failed
  obtain ⟨others, belowOthers, looked⟩ := blockDependents_reach (self.relist nodes) failed
  have same : ((self.relist nodes).blockDependents failed).nodes = (self.blockDependents failed).nodes := by
    have keys := (frame_blockDependents self failed).keys
    have otherKeys : ((self.relist nodes).blockDependents failed).nodes.map (·.nodeId) = self.nodes.map (·.nodeId) :=
      (frame_blockDependents (self.relist nodes) failed).keys
    refine ext_find (keys ▸ distinct) (otherKeys.trans keys.symm) fun id => ?_
    have members : id ∈ others ↔ id ∈ affected := by
      rw [belowOthers, below, Downstream, Downstream, needs_relist perm]
    have first := looked id
    have second := lookup id
    simp only [members] at first
    exact first.trans second.symm
  show { self.relist nodes with nodes := ((self.relist nodes).blockDependents failed).nodes } = _
  rw [same]
  rfl

end Passes

section Failures

variable {change : GraphNodeExecution → GraphNodeExecution}

/-- What a failure does: the node is changed, the pending nodes that depend on it, directly or through
others, are blocked, and nothing else is touched. -/
structure FailedExactly (before : GraphExecution) (nodeId : GraphNodeId)
    (change : GraphNodeExecution → GraphNodeExecution) (next : GraphExecution) : Prop where
  frame : Frame before next
  outputs : next.outputs = before.outputs
  failed : next.node? nodeId = (before.node? nodeId).map change
  touched : ∀ id node, before.node? id = some node → ∃ later, next.node? id = some later ∧
    (later ≠ node ↔ id = nodeId ∨ node.state = .pending ∧ Relation.TransGen (Needs before.graph) id nodeId)
  blocked : ∀ id node later, before.node? id = some node → next.node? id = some later → id ≠ nodeId → later ≠ node →
    later = { node with state := .blocked, revision := bump node.revision }
  ends : ∃ last, BlockPasses before.graph ⟨[nodeId], (before.updateNode nodeId change).nodes, false⟩ last ∧
    next = { before.updateNode nodeId change with nodes := last.nodes }

theorem block_eq {node : GraphNodeExecution} (pending : node.state = .pending) :
    block node = { node with state := .blocked, revision := bump node.revision } :=
  if_pos pending

theorem block_ne_iff {node : GraphNodeExecution} : block node ≠ node ↔ node.state = .pending := by
  constructor
  · intro changed
    by_contra busy
    exact changed (if_neg busy)
  · intro pending same
    have state := congrArg GraphNodeExecution.state same
    rw [block_eq pending, pending] at state
    cases state

theorem failedExactly (kept : ∀ node, (change node).nodeId = node.nodeId) {node : GraphNodeExecution}
    (found : self.node? nodeId = some node) (changed : change node ≠ node) :
    FailedExactly self nodeId change ((self.updateNode nodeId change).blockDependents nodeId) := by
  obtain ⟨affected, below, lookup⟩ := blockDependents_reach (self.updateNode nodeId change) nodeId
  have away : ∀ id, id ≠ nodeId → ((self.updateNode nodeId change).blockDependents nodeId).node? id =
      if id ∈ affected then (self.node? id).map block else self.node? id := by
    intro id apart
    rw [lookup, node?_updateNode kept, if_neg apart]
    simp only [apart, ne_eq, not_false_eq_true, and_true]
  have center : ((self.updateNode nodeId change).blockDependents nodeId).node? nodeId =
      (self.node? nodeId).map change := by
    rw [lookup, if_neg fun both => both.2 rfl, node?_updateNode kept, if_pos rfl]
  refine ⟨(frame_updateNode kept).trans (frame_blockDependents _ nodeId), rfl, center, ?_, ?_, ?_⟩
  · intro id other recorded
    by_cases same : id = nodeId
    · subst same
      obtain rfl := Option.some.inj (found.symm.trans recorded)
      refine ⟨change node, by rw [center, found, Option.map_some], ?_⟩
      simp [changed]
    · have depends : id ∈ affected ↔ Relation.TransGen (Needs self.graph) id nodeId := by
        rw [below, Downstream, Relation.reflTransGen_iff_eq_or_transGen]
        simp [Ne.symm same, updateNode]
      rw [away id same, recorded, Option.map_some]
      by_cases inside : id ∈ affected
      · refine ⟨block other, if_pos inside, ?_⟩
        rw [block_ne_iff]
        simp [same, depends.mp inside]
      · have outside : ¬Relation.TransGen (Needs self.graph) id nodeId := fun needs => inside (depends.mpr needs)
        refine ⟨other, if_neg inside, ?_⟩
        simp [same, outside]
  · intro id other later recorded looked apart moved
    rw [away id apart, recorded, Option.map_some] at looked
    split at looked
    · obtain rfl := Option.some.inj looked
      exact block_eq (block_ne_iff.mp moved)
    · exact absurd (Option.some.inj looked).symm moved
  · exact blockDependents_passes (self.updateNode nodeId change) nodeId

/-- The order in which the graph lists its nodes makes no difference to an operation that fails a node. -/
def AnyOrder (self next : GraphExecution) (operation : GraphExecution → Except GraphError GraphExecution) : Prop :=
  ∀ nodes : List GraphNode, nodes.Perm self.graph.nodes → operation (self.relist nodes) = .ok (next.relist nodes)

theorem conclude_nodeId (state : GraphNodeState) (node : GraphNodeExecution) :
    (conclude state node).nodeId = node.nodeId := rfl

theorem finish_nodeId (owner : String) (state : GraphNodeState) (failure : Option AdapterFailure)
    (node : GraphNodeExecution) : (finish owner state failure node).nodeId = node.nodeId := rfl

theorem cancel_nodeId (node : GraphNodeExecution) : (cancel node).nodeId = node.nodeId := rfl

theorem updated_relist (nodeId : GraphNodeId) (kept : ∀ node, (change node).nodeId = node.nodeId) (aligned : self.Aligned)
    {nodes : List GraphNode} (perm : nodes.Perm self.graph.nodes) :
    ((self.relist nodes).updateNode nodeId change).blockDependents nodeId =
      ((self.updateNode nodeId change).blockDependents nodeId).relist nodes := by
  exact blockDependents_relist (distinct_updateNode kept aligned.distinct) perm nodeId

theorem complete_exact (aligned : self.Aligned) (accepted : self.complete nodeId owner false = .ok next) :
    FailedExactly self nodeId (conclude .failed) next ∧
      AnyOrder self next fun execution => execution.complete nodeId owner false := by
  obtain ⟨node, found, running, owned, rfl⟩ := complete_ok accepted
  have changed : conclude .failed node ≠ node := by
    intro same
    have state := (congrArg GraphNodeExecution.state same).trans running
    cases state
  refine ⟨failedExactly (conclude_nodeId .failed) found changed, fun nodes perm => ?_⟩
  have held : (self.relist nodes).node? nodeId = some node := found
  have mine := runningFor_iff.mpr ⟨running, owned⟩
  have same := updated_relist nodeId (conclude_nodeId .failed) aligned perm
  simp only [complete, held, okOr, mine, rejectIf, ok_bind]
  exact congrArg Except.ok same

theorem finishTerminal_exact (aligned : self.Aligned) {state : GraphNodeState} {failure : Option AdapterFailure}
    (blocks : state.blocks = true) (accepted : self.finishTerminal nodeId owner state failure = .ok next) :
    FailedExactly self nodeId (finish owner state failure) next ∧
      AnyOrder self next fun execution => execution.finishTerminal nodeId owner state failure := by
  obtain ⟨node, terminal, found, running, owned, rfl⟩ := finishTerminal_ok accepted
  have changed : finish owner state failure node ≠ node := by
    intro same
    have still : state = .running := (congrArg GraphNodeExecution.state same).trans running
    rw [still] at terminal
    cases terminal
  rw [if_pos blocks]
  refine ⟨failedExactly (fun _ => rfl) found changed, fun nodes perm => ?_⟩
  have held : (self.relist nodes).node? nodeId = some node := found
  have mine := runningFor_iff.mpr ⟨running, owned⟩
  have same := updated_relist nodeId (finish_nodeId owner state failure) aligned perm
  simp only [finishTerminal, terminal, held, okOr, mine, rejectIf, ok_bind, blocks]
  exact congrArg Except.ok same

theorem cancelStagedNode_exact (aligned : self.Aligned) (accepted : self.cancelStagedNode nodeId owner runId = .ok next) :
    FailedExactly self nodeId cancel next ∧
      AnyOrder self next fun execution => execution.cancelStagedNode nodeId owner runId := by
  obtain ⟨node, found, awaiting, owned, bound, rfl⟩ := cancelStagedNode_ok accepted
  have changed : cancel node ≠ node := by
    intro same
    have state := (congrArg GraphNodeExecution.state same).trans awaiting
    cases state
  refine ⟨failedExactly (fun _ => rfl) found changed, fun nodes perm => ?_⟩
  have held : (self.relist nodes).node? nodeId = some node := found
  have mine := stagedAs_iff.mpr ⟨awaiting, owned, bound⟩
  have same := updated_relist nodeId cancel_nodeId aligned perm
  simp only [cancelStagedNode, held, okOr, mine, rejectIf, ok_bind]
  exact congrArg Except.ok same

end Failures

section Rounds

/-- The rounds of `retry_failed`, as many as it takes. -/
inductive ReopenRounds (graph : WorkflowGraph) : List GraphNodeExecution → List GraphNodeExecution → Prop where
  | last {nodes : List GraphNodeExecution} (settled : reopenable graph (snapshot nodes) = []) :
      ReopenRounds graph nodes nodes
  | again {nodes middle after : List GraphNodeExecution} (unsettled : reopenable graph (snapshot nodes) ≠ [])
      (ran : foldEach reopenNode (reopenable graph (snapshot nodes)) nodes = .ok middle)
      (rest : ReopenRounds graph middle after) : ReopenRounds graph nodes after

theorem reopenLoop_rounds {graph : WorkflowGraph} {nodes after : List GraphNodeExecution}
    (valid : (graph.nodes.map (·.id)).Nodup) (distinct : (nodes.map (·.nodeId)).Nodup) {fuel : Nat}
    (enough : nodes.countP (fun node => node.state = .blocked) < fuel) (ran : reopenLoop graph fuel nodes = .ok after) :
    ReopenRounds graph nodes after := by
  induction fuel generalizing nodes with
  | zero => omega
  | succ fuel ih =>
    simp only [reopenLoop] at ran
    by_cases finished : (reopenable graph (snapshot nodes)).isEmpty = true
    · rw [if_pos finished, Except.ok.injEq] at ran
      subst ran
      exact .last (List.isEmpty_iff.mp finished)
    · rw [if_neg finished, bind_ok] at ran
      obtain ⟨middle, round, rest⟩ := ran
      have unsettled : reopenable graph (snapshot nodes) ≠ [] := fun none => finished (List.isEmpty_iff.mpr none)
      obtain ⟨other, again, spec⟩ := reopenEach_spec (reopenable_distinct valid (snapshot nodes))
        (fun id member => reopenable_known member)
      obtain rfl : middle = other := Except.ok.inj (round.symm.trans again)
      refine .again unsettled round (ih (spec.keys ▸ distinct) ?_ rest)
      -- the round reopened at least one blocked node
      obtain ⟨first, others, chosen⟩ := List.exists_cons_of_ne_nil unsettled
      have member : first ∈ reopenable graph (snapshot nodes) := chosen ▸ List.mem_cons_self ..
      obtain ⟨_, _, _, blocked, -⟩ := reopenable_iff.mp member
      rw [snapshot_eq distinct] at blocked
      have fewer := (reopenEach_blocked_lt round).2 first others chosen blocked
      omega

/-- What a retry does: the failed node starts over, a blocked node stays blocked exactly while something
it needs failed, was cancelled or is blocked, and starts over otherwise. -/
structure RetriedExactly (before : GraphExecution) (nodeId : GraphNodeId) (next : GraphExecution) : Prop where
  frame : Frame before next
  outputs : next.outputs = before.outputs
  retried : next.node? nodeId = (before.node? nodeId).map reset
  reopened : ∀ id node, before.node? id = some node → node.state = .blocked →
    next.node? id = some node ∨ next.node? id = some (reset node)
  blocked : ∀ id, (next.node? id).map (·.state) = some .blocked ↔
    (before.node? id).map (·.state) = some .blocked ∧
      ∃ dependency other, Needs before.graph id dependency ∧ next.node? dependency = some other ∧
        other.state.blocks = true
  kept : ∀ id node, before.node? id = some node → id ≠ nodeId → node.state ≠ .blocked → next.node? id = some node
  ends : ReopenRounds before.graph (modifyFirst (·.nodeId) nodeId reset before.nodes) next.nodes

/-- What the rounds keep: records are as they were or start over, and what a reopened node needs no
longer keeps it from starting. -/
structure Reopening (before : GraphExecution) (nodeId : GraphNodeId) (nodes : List GraphNodeExecution) : Prop where
  keys : nodes.map (·.nodeId) = before.nodes.map (·.nodeId)
  retried : nodes.find? (fun node => node.nodeId = nodeId) = (before.node? nodeId).map reset
  kept : ∀ id node, before.node? id = some node → id ≠ nodeId → node.state ≠ .blocked →
    nodes.find? (fun node => node.nodeId = id) = some node
  reopened : ∀ id node, before.node? id = some node → node.state = .blocked →
    nodes.find? (fun node => node.nodeId = id) = some node ∨
      nodes.find? (fun node => node.nodeId = id) = some (reset node) ∧
        ∀ dependency other, Needs before.graph id dependency →
          nodes.find? (fun node => node.nodeId = dependency) = some other → other.state.blocks = false

variable {node : GraphNodeExecution}

theorem Reopening.initial (found : self.node? nodeId = some node) (failed : node.state = .failed) :
    Reopening self nodeId (modifyFirst (·.nodeId) nodeId reset self.nodes) := by
  have first := modifyFirst_reset self.nodes nodeId
  have apart : ∀ id, id ≠ nodeId → (modifyFirst (·.nodeId) nodeId reset self.nodes).find?
      (fun node => node.nodeId = id) = self.node? id := by
    intro id other
    have looked := first.lookup id
    rwa [if_neg fun member => other (List.mem_singleton.mp member)] at looked
  refine ⟨first.keys, ?_, fun id other recorded away _ => (apart id away).trans recorded, ?_⟩
  · have looked := first.lookup nodeId
    rwa [if_pos (List.mem_singleton_self nodeId)] at looked
  · intro id other recorded blocked
    have away : id ≠ nodeId := by
      rintro rfl
      obtain rfl := Option.some.inj (found.symm.trans recorded)
      rw [failed] at blocked
      cases blocked
    exact .inl ((apart id away).trans recorded)

/-- A record that does not keep its dependents from starting never does again. -/
theorem Reset.unblocked {nodes after : List GraphNodeExecution} {chosen : List GraphNodeId} (spec : Reset nodes after chosen)
    {id : GraphNodeId} (free : ∀ other, nodes.find? (fun node => node.nodeId = id) = some other → other.state.blocks = false)
    {other : GraphNodeExecution} (found : after.find? (fun node => node.nodeId = id) = some other) :
    other.state.blocks = false := by
  rw [spec.lookup] at found
  split at found
  · obtain ⟨_, _, rfl⟩ := Option.map_eq_some_iff.mp found
    rfl
  · exact free other found

theorem Reopening.round (aligned : self.Aligned) {nodes after : List GraphNodeExecution}
    (reopening : Reopening self nodeId nodes)
    (spec : Reset nodes after (reopenable self.graph (snapshot nodes))) : Reopening self nodeId after := by
  have distinct : (nodes.map (·.nodeId)).Nodup := reopening.keys ▸ aligned.distinct
  -- the round chooses only nodes that are blocked
  have chosen : ∀ id other, id ∈ reopenable self.graph (snapshot nodes) →
      nodes.find? (fun node => node.nodeId = id) = some other → other.state = .blocked := by
    intro id other member found
    obtain ⟨_, _, _, snapped, -⟩ := reopenable_iff.mp member
    rw [snapshot_eq distinct, found] at snapped
    exact Option.some.inj snapped
  have passed : ∀ id other, nodes.find? (fun node => node.nodeId = id) = some other → other.state ≠ .blocked →
      after.find? (fun node => node.nodeId = id) = some other := by
    intro id other found busy
    rw [spec.lookup, if_neg fun member => busy (chosen id other member found), found]
  refine ⟨spec.keys.trans reopening.keys, ?_, ?_, ?_⟩
  · cases recorded : self.node? nodeId with
    | none =>
      have absent := reopening.retried
      rw [recorded, Option.map_none] at absent
      rw [spec.lookup, absent]
      simp
    | some other =>
      have present := reopening.retried
      rw [recorded, Option.map_some] at present
      exact passed nodeId (reset other) present (by simp [reset])
  · intro id other recorded away busy
    exact passed id other (reopening.kept id other recorded away busy) busy
  · intro id other recorded blocked
    rcases reopening.reopened id other recorded blocked with still | ⟨already, free⟩
    · by_cases member : id ∈ reopenable self.graph (snapshot nodes)
      · obtain ⟨definition, inside, named, _, clear⟩ := reopenable_iff.mp member
        refine .inr ⟨by rw [spec.lookup, if_pos member, still, Option.map_some], ?_⟩
        rintro dependency record ⟨task, listed, same, needed⟩ found
        have equal := List.inj_on_of_nodup_map aligned.defined listed inside (same.trans named.symm)
        refine spec.unblocked (fun before looked => ?_) found
        refine clear dependency (equal ▸ needed) before.state ?_
        rw [snapshot_eq distinct, looked, Option.map_some]
      · left
        rw [spec.lookup, if_neg member, still]
    · refine .inr ⟨passed id (reset other) already (by simp [reset]), fun dependency record needed found => ?_⟩
      exact spec.unblocked (fun before looked => free dependency before needed looked) found

/-- When nothing is left to reopen, the blocked nodes are those that were blocked and that something they
need still keeps from starting. -/
theorem Reopening.blocked_iff (aligned : self.Aligned) {nodes : List GraphNodeExecution}
    (reopening : Reopening self nodeId nodes)
    (settled : reopenable self.graph (snapshot nodes) = []) (id : GraphNodeId) :
    (nodes.find? fun node => node.nodeId = id).map (·.state) = some .blocked ↔
      (self.node? id).map (·.state) = some .blocked ∧
        ∃ dependency other, Needs self.graph id dependency ∧
          nodes.find? (fun node => node.nodeId = dependency) = some other ∧ other.state.blocks = true := by
  have distinct : (nodes.map (·.nodeId)).Nodup := reopening.keys ▸ aligned.distinct
  constructor
  · intro blocked
    obtain ⟨later, looked, state⟩ := Option.map_eq_some_iff.mp blocked
    obtain ⟨inside, named⟩ := find_some looked
    have listed : id ∈ self.nodes.map (·.nodeId) := reopening.keys ▸ named ▸ List.mem_map_of_mem inside
    obtain ⟨before, recorded⟩ : ∃ before, self.node? id = some before := exists_of_mem_keys listed
    have was : before.state = .blocked := by
      by_cases same : id = nodeId
      · subst same
        rw [reopening.retried, recorded, Option.map_some, Option.some.injEq] at looked
        rw [← looked] at state
        cases state
      · by_contra busy
        obtain rfl := Option.some.inj ((reopening.kept id before recorded same busy).symm.trans looked)
        exact busy state
    refine ⟨by rw [recorded, Option.map_some, was], ?_⟩
    by_contra free
    obtain ⟨definition, known⟩ := aligned.definition_of_node recorded
    obtain ⟨member, called⟩ := find_some known
    have chosen : id ∈ reopenable self.graph (snapshot nodes) := by
      refine reopenable_iff.mpr ⟨definition, member, called, ?_, fun dependency needed state snapped => ?_⟩
      · rw [snapshot_eq distinct, blocked]
      · rw [snapshot_eq distinct] at snapped
        obtain ⟨other, present, rfl⟩ := Option.map_eq_some_iff.mp snapped
        by_contra stops
        exact free ⟨dependency, other, ⟨definition, member, called, needed⟩, present, by simpa using stops⟩
    rw [settled] at chosen
    cases chosen
  · rintro ⟨blocked, dependency, other, needed, present, stops⟩
    obtain ⟨before, recorded, state⟩ := Option.map_eq_some_iff.mp blocked
    rcases reopening.reopened id before recorded state with still | ⟨_, free⟩
    · rw [still, Option.map_some, state]
    · rw [free dependency other needed present] at stops
      cases stops

theorem retryFailed_exact (aligned : self.Aligned) (found : self.node? nodeId = some node)
    (failed : node.state = .failed) : ∃ next, self.retryFailed nodeId = .ok next ∧ RetriedExactly self nodeId next := by
  have first := modifyFirst_reset self.nodes nodeId
  obtain ⟨nodes, ran, reopening, -⟩ := reopenLoop_preserves aligned.defined
    (fun _ _ held spec => Reopening.round aligned held spec) (self.nodes.length + 1) (.initial found failed)
  have retried : self.retryFailed nodeId = .ok { self with nodes, revision := bump self.revision } := by
    simp [retryFailed, found, failed, ran, okOr, rejectIf, pure, Except.pure]
  have frame : Frame self { self with nodes, revision := bump self.revision } := ⟨rfl, rfl, rfl, reopening.keys⟩
  have distinct : ((modifyFirst (·.nodeId) nodeId reset self.nodes).map (·.nodeId)).Nodup :=
    first.keys ▸ aligned.distinct
  have enough : (modifyFirst (·.nodeId) nodeId reset self.nodes).countP (fun node => decide (node.state = .blocked)) <
      self.nodes.length + 1 := by
    have counted := @List.countP_le_length _ (fun node : GraphNodeExecution => decide (node.state = .blocked))
      (modifyFirst (·.nodeId) nodeId reset self.nodes)
    rw [length_modifyFirst] at counted
    omega
  have settled := reopenLoop_settled aligned.defined distinct enough ran
  refine ⟨_, retried, frame, rfl, reopening.retried, ?_, ?_, reopening.kept, ?_⟩
  · intro id other recorded blocked
    exact (reopening.reopened id other recorded blocked).imp_right And.left
  · exact reopening.blocked_iff aligned settled
  · exact reopenLoop_rounds aligned.defined distinct enough ran

/-- Two retries over the same needs end the same, the second in whatever order the graph lists its nodes. -/
theorem RetriedExactly.unique {order : List GraphNodeId} (ordered : Ordered (Needs self.graph) order)
    {nodes : List GraphNode} (perm : nodes.Perm self.graph.nodes) {other : GraphExecution}
    (first : RetriedExactly self nodeId next) (second : RetriedExactly (self.relist nodes) nodeId other)
    (listed : id ∈ order) : other.node? id = next.node? id := by
  -- along the order of the graph: what the node needs ends the same in both
  have founded := ordered.acc listed
  clear listed
  induction founded with
  | intro id _ ih =>
    cases recorded : self.node? id with
    | none => exact (second.frame.node?_none recorded).trans (first.frame.node?_none recorded).symm
    | some node =>
      by_cases same : id = nodeId
      · subst same
        exact second.retried.trans first.retried.symm
      · by_cases blocked : node.state = .blocked
        · have agree : (other.node? id).map (·.state) = some .blocked ↔ (next.node? id).map (·.state) = some .blocked := by
            rw [second.blocked, first.blocked, needs_relist perm]
            refine and_congr_right fun _ => ?_
            constructor
            · rintro ⟨dependency, record, needed, present, stops⟩
              exact ⟨dependency, record, needed, (ih dependency needed).symm.trans present, stops⟩
            · rintro ⟨dependency, record, needed, present, stops⟩
              exact ⟨dependency, record, needed, (ih dependency needed).trans present, stops⟩
          rcases first.reopened id node recorded blocked with still | renewed <;>
            rcases second.reopened id node recorded blocked with kept | again
          · exact kept.trans still.symm
          · rw [again, still] at agree
            simp [reset, blocked] at agree
          · rw [kept, renewed] at agree
            simp [reset, blocked] at agree
          · exact again.trans renewed.symm
        · exact (second.kept id node recorded same blocked).trans (first.kept id node recorded same blocked).symm

theorem retryFailed_anyOrder (aligned : self.Aligned) (accepted : self.graph.validate = .ok ())
    (found : self.node? nodeId = some node) (failed : node.state = .failed)
    (retried : self.retryFailed nodeId = .ok next) (first : RetriedExactly self nodeId next) :
    AnyOrder self next fun execution => execution.retryFailed nodeId := by
  intro nodes perm
  obtain ⟨order, ordered, covers⟩ := WorkflowGraph.validate_ordered accepted
  have known : (self.relist nodes).node? nodeId = some node := found
  obtain ⟨other, again, second⟩ := retryFailed_exact (aligned.relist perm) known failed
  have same : other.nodes = next.nodes := by
    have keys : other.nodes.map (·.nodeId) = self.nodes.map (·.nodeId) := second.frame.keys
    refine ext_find (first.frame.keys ▸ aligned.distinct) (keys.trans first.frame.keys.symm) fun id => ?_
    by_cases listed : id ∈ order
    · exact first.unique ordered perm second listed
    · have absent : self.node? id = none := by
        refine find_none.mpr fun node member named => listed ?_
        exact (covers id).mpr ((aligned.same id).mp (named ▸ List.mem_map_of_mem member))
      exact (second.frame.node?_none absent).trans (first.frame.node?_none absent).symm
  obtain ⟨_, _, _, _, _, rfl⟩ := retryFailed_ok retried
  obtain ⟨_, _, _, _, _, rfl⟩ := retryFailed_ok again
  dsimp only at same
  subst same
  exact again

end Rounds

end GraphExecution

/-- A retry reopens the right nodes, in every stored execution with a failed node. -/
theorem retry_fixpoint [Sha256] (self : GraphExecution) (valid : self.validate = .ok ()) (nodeId : GraphNodeId)
    (node : GraphNodeExecution) (found : self.node? nodeId = some node) (failed : node.state = .failed) :
    ∃ next, self.retryFailed nodeId = .ok next ∧ RetriedExactly self nodeId next ∧
      AnyOrder self next fun execution => execution.retryFailed nodeId := by
  obtain ⟨accepted, aligned, _⟩ := validate_iff.mp valid
  obtain ⟨next, retried, exact⟩ := retryFailed_exact aligned found failed
  exact ⟨next, retried, exact, retryFailed_anyOrder aligned accepted found failed retried exact⟩

theorem retry_fixpoint_branches :
    let self : GraphExecution := ⟨⟨60⟩, branchesUnderJoin,
      [⟨⟨51⟩, .failed, some "scheduler", 2, none, none⟩, ⟨⟨52⟩, .cancelled, some "scheduler", 2, some ⟨8⟩, none⟩,
        ⟨⟨53⟩, .blocked, none, 1, none, none⟩], [], none, 3⟩
    ∃ next, self.retryFailed ⟨51⟩ = .ok next ∧ RetriedExactly self ⟨51⟩ next ∧
      AnyOrder self next fun execution => execution.retryFailed ⟨51⟩ := by
  intro self
  exact @retry_fixpoint (.table []) self (by decide) ⟨51⟩ _ rfl rfl

/-- A failure touches exactly the right nodes. -/
theorem failure_exact [Sha256] (self : GraphExecution) (valid : self.validate = .ok ()) (nodeId : GraphNodeId)
    (owner : String) :
    (∀ next, self.complete nodeId owner false = .ok next →
      FailedExactly self nodeId (conclude .failed) next ∧
        AnyOrder self next fun execution => execution.complete nodeId owner false) ∧
    (∀ state failure next, state.blocks = true → self.finishTerminal nodeId owner state failure = .ok next →
      FailedExactly self nodeId (finish owner state failure) next ∧
        AnyOrder self next fun execution => execution.finishTerminal nodeId owner state failure) ∧
    ∀ runId next, self.cancelStagedNode nodeId owner runId = .ok next →
      FailedExactly self nodeId cancel next ∧
        AnyOrder self next fun execution => execution.cancelStagedNode nodeId owner runId := by
  have aligned := (validate_iff.mp valid).aligned
  refine ⟨fun next accepted => ?_, fun state failure next blocks accepted => ?_, fun runId next accepted => ?_⟩
  · exact complete_exact aligned accepted
  · exact finishTerminal_exact aligned blocks accepted
  · exact cancelStagedNode_exact aligned accepted

theorem failure_exact_branches :
    let self : GraphExecution := ⟨⟨60⟩, branchesUnderJoin,
      [⟨⟨51⟩, .running, some "scheduler", 1, none, none⟩, ⟨⟨52⟩, .pending, none, 0, none, none⟩,
        ⟨⟨53⟩, .pending, none, 0, none, none⟩], [], none, 1⟩
    let next : GraphExecution := ⟨⟨60⟩, branchesUnderJoin,
      [⟨⟨51⟩, .failed, some "scheduler", 2, none, none⟩, ⟨⟨52⟩, .pending, none, 0, none, none⟩,
        ⟨⟨53⟩, .blocked, none, 1, none, none⟩], [], none, 2⟩
    FailedExactly self ⟨51⟩ (conclude .failed) next ∧
      AnyOrder self next fun execution => execution.complete ⟨51⟩ "scheduler" false := by
  intro self next
  exact (@failure_exact (.table []) self (by decide) ⟨51⟩ "scheduler").1 next (by decide)

end Bastet.Core
