import Bastet.Core.ExecutionHistory

/-! The scheduler never waits for nothing: an accepted graph can be ordered, so a pending
node with nothing at work leads to one that is ready, and a claim takes it. -/

set_option autoImplicit false

namespace Bastet.Core

open Fallible Lookup Gating GraphExecution

namespace WorkflowGraph

variable {graph : WorkflowGraph} {marks after : Marks}

/-- What the search keeps of the nodes it has left: each needs only nodes left before it. -/
structure Searched (graph : WorkflowGraph) (wanted : List GraphNodeId) (marks after : Marks) : Prop where
  ordered : Ordered (Needs graph) after.visited
  reached : ∀ id ∈ wanted, id ∈ after.visited
  kept : marks.visited ⊆ after.visited
  known : ∀ id ∈ after.visited, id ∈ marks.visited ∨ id ∈ graph.nodes.map (·.id)

theorem foldEach_searched {step : Marks → GraphNodeId → Except GraphError Marks} {wanted : List GraphNodeId}
    (each : ∀ marks id after, step marks id = .ok after → Ordered (Needs graph) marks.visited →
      Searched graph [id] marks after)
    (ran : foldEach step wanted marks = .ok after) (ordered : Ordered (Needs graph) marks.visited) :
    Searched graph wanted marks after := by
  induction wanted generalizing marks with
  | nil =>
    obtain rfl := Except.ok.inj ran
    exact ⟨ordered, by simp, List.Subset.refl _, fun _ => .inl⟩
  | cons first rest ih =>
    simp only [foldEach, bind_ok] at ran
    obtain ⟨middle, stepped, remaining⟩ := ran
    have head := each marks first middle stepped ordered
    have tail := ih remaining head.ordered
    refine ⟨tail.ordered, fun id member => ?_, List.Subset.trans head.kept tail.kept, fun id member => ?_⟩
    · rcases List.mem_cons.mp member with rfl | member
      · exact tail.kept (head.reached id (List.mem_singleton_self id))
      · exact tail.reached id member
    · rcases tail.known id member with before | inside
      · exact head.known id before
      · exact .inr inside

theorem visit_searched (distinct : (graph.nodes.map (·.id)).Nodup) (fuel : Nat) (marks : Marks) (id : GraphNodeId)
    (after : Marks) (ran : visit graph fuel marks id = .ok after) (ordered : Ordered (Needs graph) marks.visited) :
    Searched graph [id] marks after := by
  induction fuel generalizing marks id after with
  | zero => cases ran
  | succ fuel ih =>
    simp only [visit] at ran
    split at ran
    · rename_i visited
      obtain rfl := Except.ok.inj ran
      refine ⟨ordered, fun other member => ?_, List.Subset.refl _, fun _ => .inl⟩
      rw [List.mem_singleton.mp member]
      exact visited
    · split at ran
      · cases ran
      · split at ran
        · cases ran
        · rename_i definition found
          simp only [bind_ok, pure_ok] at ran
          obtain ⟨left, searched, rfl⟩ := ran
          have needs := foldEach_searched ih searched ordered
          obtain ⟨member, same⟩ := find_some found
          refine ⟨⟨fun dependency needed => ?_, needs.ordered⟩, fun other inside => ?_, ?_, ?_⟩
          · obtain ⟨other, inside, named, need⟩ := needed
            have equal := List.inj_on_of_nodup_map distinct inside member (named.trans same.symm)
            exact needs.reached dependency (equal ▸ need)
          · rw [List.mem_singleton.mp inside]
            exact List.mem_cons_self ..
          · exact fun other inside => List.mem_cons_of_mem _ (needs.kept inside)
          · intro other inside
            rcases List.mem_cons.mp inside with rfl | inside
            · exact .inr (same ▸ List.mem_map_of_mem member)
            · exact needs.known other inside

/-- The nodes of an accepted graph can be ordered, each before everything it needs. -/
theorem validate_ordered (accepted : graph.validate = .ok ()) :
    ∃ order, Ordered (Needs graph) order ∧ ∀ id, id ∈ order ↔ id ∈ graph.nodes.map (·.id) := by
  have distinct := (validate_valid accepted).distinct
  simp only [validate, bind_ok, exists_unit] at accepted
  obtain ⟨_, _, marks, searched, _⟩ := accepted
  have found : Searched graph (graph.nodes.map (·.id)) ⟨[], []⟩ marks :=
    foldEach_searched (visit_searched distinct _) searched trivial
  refine ⟨marks.visited, found.ordered, fun id => ⟨fun member => ?_, found.reached id⟩⟩
  exact (found.known id member).resolve_left List.not_mem_nil

end WorkflowGraph

namespace GraphExecution

variable {self : GraphExecution}

/-- The claim loop has claimed something, or meets a pending node that is ready. -/
theorem claimLoop_progress {graph : WorkflowGraph} {states : GraphNodeId → Option GraphNodeState} {owner : String}
    {limit : Nat} (positive : 0 < limit) {nodes : List GraphNodeExecution} {claimed result : List GraphNodeId}
    (promising : claimed ≠ [] ∨ ∃ node ∈ nodes, node.state = .pending ∧ ∃ definition,
      graph.nodes.find? (fun definition => definition.id = node.nodeId) = some definition ∧
        ready states definition = true)
    (ran : (claimLoop graph states owner limit claimed nodes).1 = .ok result) : result ≠ [] := by
  induction nodes generalizing claimed with
  | nil =>
    obtain rfl := Except.ok.inj ran
    exact promising.resolve_right (by simp)
  | cons first rest ih =>
    simp only [claimLoop] at ran
    split at ran
    · rename_i passed
      refine ih ?_ ran
      rcases promising with some | ⟨node, member, pending, found⟩
      · exact .inl some
      · by_cases none : claimed = []
        · -- below its limit the loop only passes a node that is not pending
          have apart : first.state ≠ .pending := by
            rcases passed with full | apart
            · rw [none, List.length_nil] at full
              omega
            · exact apart
          rcases List.mem_cons.mp member with rfl | inside
          · exact absurd pending apart
          · exact .inr ⟨node, inside, pending, found⟩
        · exact .inl none
    · cases known : graph.nodes.find? (fun definition => definition.id = first.nodeId) with
      | none =>
        rw [known] at ran
        cases ran
      | some definition =>
        rw [known] at ran
        dsimp only at ran
        split at ran
        · exact ih (.inl (by simp)) ran
        · rename_i unmet
          refine ih ?_ ran
          rcases promising with some | ⟨node, member, pending, other, found, met⟩
          · exact .inl some
          · rcases List.mem_cons.mp member with rfl | inside
            · rw [known, Option.some.injEq] at found
              exact absurd (found ▸ met) unmet
            · exact .inr ⟨node, inside, pending, other, found, met⟩

theorem ready_of_done (aligned : self.Aligned) {id : GraphNodeId} {definition : GraphNode}
    (known : self.definition? id = some definition)
    (done : ∀ dependency, Needs self.graph id dependency → self.stageOf dependency = .done) :
    ready (snapshot self.nodes) definition = true := by
  refine List.all_eq_true.mpr fun dependency needed => ?_
  have settled := done dependency ((aligned.needs_iff known).mpr needed)
  obtain ⟨node, found, succeeded⟩ := succeeded_iff_done.mpr settled
  have snapped : snapshot self.nodes dependency = some .succeeded := by
    rw [snapshot_eq aligned.distinct]
    exact (congrArg (Option.map (·.state)) found).trans (congrArg some succeeded)
  simpa using snapped

theorem claimReady_progress (aligned : self.Aligned) (safe : self.Safe) (accepted : self.graph.validate = .ok ())
    {pending : GraphNodeExecution} (member : pending ∈ self.nodes) (waiting : pending.state = .pending)
    (calm : ∀ node ∈ self.nodes, node.state ≠ .running ∧ node.state ≠ .awaitingApproval ∧ node.state ≠ .uncertain)
    {owner : String} (named : isBlank owner = false) {limit : Nat} (positive : 1 ≤ limit) :
    ∃ claimed, (self.claimReady owner limit).1 = .ok claimed ∧ claimed ≠ [] := by
  obtain ⟨order, ordered, covers⟩ := WorkflowGraph.validate_ordered accepted
  have found : self.node? pending.nodeId = some pending := find_of_mem aligned.distinct member
  have listed : pending.nodeId ∈ order := (covers _).mpr ((aligned.same _).mp (List.mem_map_of_mem member))
  have quiet : ∀ task ∈ order, self.stageOf task ≠ .engaged := by
    intro task _
    unfold stageOf
    split
    · rename_i node recorded
      have apart := calm node (find_some recorded).1
      cases state : node.state <;> simp_all [GraphNodeState.stage]
    · simp
  have idle : self.stageOf pending.nodeId = .idle := by
    rw [stageOf_some found, waiting]
    rfl
  obtain ⟨id, inside, unclaimed, done⟩ := safe.progress ordered quiet listed idle
  obtain ⟨node, recorded⟩ := aligned.node_of_known ((covers id).mp inside)
  obtain ⟨definition, known⟩ := aligned.definition_of_node recorded
  obtain ⟨present, rfl⟩ := find_some recorded
  have open_ : node.state = .pending := by
    simpa [stageOf_some recorded] using unclaimed
  have met := ready_of_done aligned known done
  obtain ⟨claimed, ran⟩ := claimLoop_ok aligned owner limit
  refine ⟨claimed, (claimReady_fst named positive).trans ran, ?_⟩
  exact claimLoop_progress positive (.inr ⟨node, present, open_, definition, known, met⟩) ran

end GraphExecution

/-- The scheduler never deadlocks: in every state reached with a pending node and nothing at
work, a claim takes at least one node. -/
theorem scheduler_progress [Sha256] (id : GraphRunId) (graph : WorkflowGraph) (started : GraphExecution)
    (accepted : GraphExecution.start id graph = .ok started) (operations : List Operation) :
    let reached := Machine.run Operation.leave started operations
    (∃ node ∈ reached.nodes, node.state = .pending) →
    (∀ node ∈ reached.nodes, node.state ≠ .running ∧ node.state ≠ .awaitingApproval ∧ node.state ≠ .uncertain) →
    ∀ owner limit, isBlank owner = false → 1 ≤ limit →
      ∃ claimed, (reached.claimReady owner limit).1 = .ok claimed ∧ claimed ≠ [] := by
  obtain ⟨aligned, safe⟩ := GraphExecution.start_aligned accepted
  have begun : Operation.Invariant started := ⟨aligned, safe⟩
  rw [Operation.run_leave begun]
  intro reached waiting calm owner limit named positive
  obtain ⟨sound, valid⟩ := Operation.run_valid begun (start_valid accepted) operations
  obtain ⟨node, member, pending⟩ := waiting
  exact claimReady_progress sound.aligned sound.safe valid.graph member pending calm named positive

theorem scheduler_progress_branches :
    let digests := Sha256.table []
    let started : GraphExecution := ⟨⟨60⟩, branchesUnderJoin,
      [⟨⟨51⟩, .pending, none, 0, none, none⟩, ⟨⟨52⟩, .pending, none, 0, none, none⟩,
        ⟨⟨53⟩, .pending, none, 0, none, none⟩], [], none, 0⟩
    let reached := Machine.run (@Operation.leave digests) started
      [.claimReady "scheduler" 2, .complete ⟨51⟩ "scheduler" false, .complete ⟨52⟩ "scheduler" true, .retryFailed ⟨51⟩]
    ∃ claimed, (reached.claimReady "scheduler" 1).1 = .ok claimed ∧ claimed ≠ [] := by
  intro digests started reached
  exact @scheduler_progress digests ⟨60⟩ branchesUnderJoin started (by decide)
    [.claimReady "scheduler" 2, .complete ⟨51⟩ "scheduler" false, .complete ⟨52⟩ "scheduler" true, .retryFailed ⟨51⟩]
    (by decide) (by decide) "scheduler" 1 (by decide) (Nat.le_refl 1)

end Bastet.Core
