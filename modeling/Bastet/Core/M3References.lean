import Bastet.Core.ExecutionLapse
import Bastet.Core.M3Lookups

/-! What the M3 state refers to: of an execution its id, its graph, its outputs and the runs of its nodes, of a run
its id. A state stays valid when everything else about them changes. -/

set_option autoImplicit false

namespace Bastet.Core

open Fallible Lookup

namespace GraphExecution

/-- The run each node is bound to. -/
def boundRuns (self : GraphExecution) : List (GraphNodeId × Option RunId) :=
  self.nodes.map fun node => (node.nodeId, node.runId)

/-- What the M3 state can refer to in an execution. -/
def cited (self : GraphExecution) : GraphRunId × WorkflowGraph × List GraphNodeOutput × List (GraphNodeId × Option RunId) :=
  (self.id, self.graph, self.outputs, self.boundRuns)

variable {first second : GraphExecution}

/-- The current run of a node is read from the bindings alone. -/
theorem boundRuns_lookup (self : GraphExecution) (id : GraphNodeId) :
    (self.node? id).bind (·.runId) = (self.boundRuns.find? fun bound => bound.1 = id).bind (·.2) := by
  simp only [boundRuns, List.find?_map, Function.comp_def, node?, Option.bind_map]

theorem output_of_cited (outputs : first.outputs = second.outputs) (bound : first.boundRuns = second.boundRuns) :
    first.output = second.output := by
  funext id
  simp only [output, outputs]
  rw [boundRuns_lookup, boundRuns_lookup, bound]

/-- Where the nodes are distinct, their bindings are what lookups by id say. -/
theorem boundRuns_nodes (distinct : (first.nodes.map (·.nodeId)).Nodup) :
    first.boundRuns = (first.nodes.map (·.nodeId)).map fun id => (id, (first.node? id).bind (·.runId)) := by
  unfold boundRuns
  rw [List.map_map]
  refine List.map_congr_left fun node member => ?_
  have found : first.node? node.nodeId = some node := find_of_mem distinct member
  rw [Function.comp_apply, found, Option.bind_some]

theorem Frame.boundRuns (frame : Frame first second) (distinct : (first.nodes.map (·.nodeId)).Nodup)
    (same : ∀ id, (second.node? id).bind (·.runId) = (first.node? id).bind (·.runId)) :
    second.boundRuns = first.boundRuns := by
  rw [boundRuns_nodes distinct, boundRuns_nodes (frame.keys ▸ distinct), frame.keys]
  exact List.map_congr_left fun id _ => by rw [same]

theorem block_runId (node : GraphNodeExecution) : (block node).runId = node.runId := by
  unfold block
  split <;> rfl

/-- The end of a node leaves what is cited. -/
theorem finishTerminal_cited {nodeId : GraphNodeId} {owner : String} {state : GraphNodeState}
    {failure : Option AdapterFailure} (distinct : (first.nodes.map (·.nodeId)).Nodup)
    (ended : first.finishTerminal nodeId owner state failure = .ok second) : second.cited = first.cited := by
  obtain ⟨_, _, _, _, _, rfl⟩ := finishTerminal_ok ended
  have kept : ∀ node, (finish owner state failure node).nodeId = node.nodeId := fun _ => rfl
  have updated : ∀ id, ((first.updateNode nodeId (finish owner state failure)).node? id).bind (·.runId) =
      (first.node? id).bind (·.runId) := by
    intro id
    rw [node?_updateNode kept]
    split
    · rw [Option.bind_map]
      rfl
    · rfl
  have bound : (first.updateNode nodeId (finish owner state failure)).boundRuns = first.boundRuns :=
    (frame_updateNode kept).boundRuns distinct updated
  cases state.blocks
  · rw [if_neg Bool.false_ne_true, cited, bound]
    rfl
  · obtain ⟨_, _, _, _, lookup⟩ := blockDependents_spec (first.updateNode nodeId (finish owner state failure)) nodeId
    have blocked := (frame_blockDependents _ nodeId).boundRuns (distinct_updateNode kept distinct) fun id => by
      rw [lookup]
      split
      · rw [Option.bind_map]
        exact congrArg _ (funext block_runId)
      · rfl
    rw [if_pos rfl, cited, blocked, bound]
    rfl

end GraphExecution

/-- The cancellation of nodes leaves what is cited. -/
theorem LapsesExactly.cited {doomed : GraphNodeId → Prop} {before after : GraphExecution}
    (lapses : LapsesExactly doomed before after) : after.cited = before.cited := by
  have bound : after.boundRuns = before.boundRuns := by
    unfold GraphExecution.boundRuns
    rw [lapses.nodes, List.map_map]
    refine List.map_congr_left fun node _ => ?_
    obtain ⟨named, same⟩ := lapseNode_kept before.graph doomed node
    simp only [Function.comp_apply, named, same]
  unfold GraphExecution.cited
  rw [bound, lapses]

namespace M3State

variable {catalog : M3Catalog} {before after : List GraphExecution}

/-- The executions are cited with the same contents, in any order. -/
def SameCited (before after : List GraphExecution) : Prop :=
  (after.map (·.cited)).Perm (before.map (·.cited))

namespace SameCited

theorem ids (same : SameCited before after) : (after.map (·.id)).Perm (before.map (·.id)) := by
  have firsts := same.map Prod.fst
  rw [List.map_map, List.map_map] at firsts
  exact firsts

/-- An execution has one that is cited in the same way. -/
theorem counterpart (same : SameCited before after) {execution : GraphExecution} (member : execution ∈ after) :
    ∃ other ∈ before, other.id = execution.id ∧ other.graph = execution.graph ∧ other.outputs = execution.outputs ∧
      other.boundRuns = execution.boundRuns := by
  have listed : execution.cited ∈ before.map (·.cited) := same.mem_iff.mp (List.mem_map_of_mem member)
  obtain ⟨other, inside, equal⟩ := List.mem_map.mp listed
  simp only [GraphExecution.cited, Prod.mk.injEq] at equal
  exact ⟨other, inside, equal⟩

theorem symm (same : SameCited before after) : SameCited after before :=
  List.Perm.symm same

/-- A lookup by id finds executions that are cited in the same way. -/
theorem find (same : SameCited before after) (distinct : (before.map (·.id)).Nodup) {id : GraphRunId}
    {execution : GraphExecution} (found : before.find? (fun execution => execution.id = id) = some execution) :
    ∃ other, after.find? (fun execution => execution.id = id) = some other ∧ other.graph = execution.graph ∧
      other.output = execution.output := by
  obtain ⟨member, rfl⟩ := find_some found
  obtain ⟨other, inside, named, graph, outputs, bound⟩ := same.symm.counterpart member
  have once : (after.map (·.id)).Nodup := same.ids.nodup_iff.mpr distinct
  exact ⟨other, named ▸ find_of_mem once inside, graph, GraphExecution.output_of_cited outputs bound⟩

/-- A receipt that matched still matches. -/
theorem receipt (same : SameCited before after) (distinct : (before.map (·.id)).Nodup) {version : DocumentVersion}
    (matched : M3State.receiptInvalid ⟨catalog, before⟩ version = false) :
    M3State.receiptInvalid ⟨catalog, after⟩ version = false := by
  simp only [receiptInvalid] at matched ⊢
  split
  · rename_i executionId joinNodeId joinHash source join hash
    rw [source, join, hash] at matched
    dsimp only at matched
    cases found : before.find? (fun execution => execution.id = executionId) with
    | none =>
      rw [found] at matched
      cases matched
    | some execution =>
      obtain ⟨other, reached, graph, outputs⟩ := same.find distinct found
      rw [found] at matched
      rw [reached]
      dsimp only at matched ⊢
      simp only [GraphExecution.definition?, graph, outputs] at matched ⊢
      exact matched
  · rename_i other
    split at matched
    · rename_i source join hash
      exact absurd hash (other _ _ _ source join)
    · exact matched

/-- The nodes of all executions are the same. -/
theorem nodes (same : SameCited before after) (id : GraphNodeId) :
    id ∈ (after.flatMap fun execution => execution.graph.nodes.map (·.id)) ↔
      id ∈ before.flatMap fun execution => execution.graph.nodes.map (·.id) := by
  have one : ∀ {first second : List GraphExecution}, SameCited first second →
      id ∈ (second.flatMap fun execution => execution.graph.nodes.map (·.id)) →
      id ∈ first.flatMap fun execution => execution.graph.nodes.map (·.id) := by
    intro first second alike listed
    obtain ⟨execution, member, inside⟩ := List.mem_flatMap.mp listed
    obtain ⟨other, known, _, graph, _⟩ := alike.counterpart member
    exact List.mem_flatMap.mpr ⟨other, known, graph ▸ inside⟩
  exact ⟨one same, one same.symm⟩

end SameCited

/-- The executions have the same graphs and outputs, in any order. -/
structure SameOutlines (before after : List GraphExecution) : Prop where
  ids : (after.map (·.id)).Perm (before.map (·.id))
  each : ∀ execution ∈ after, ∃ other ∈ before, other.id = execution.id ∧ other.graph = execution.graph ∧
    other.outputs = execution.outputs

theorem SameCited.outlines (same : SameCited before after) : SameOutlines before after where
  ids := same.ids
  each execution member := by
    obtain ⟨other, inside, named, graph, outputs, _⟩ := same.counterpart member
    exact ⟨other, inside, named, graph, outputs⟩

/-- An execution goes on in the one of its id. -/
theorem SameOutlines.later (same : SameOutlines before after) (distinct : (before.map (·.id)).Nodup)
    {execution : GraphExecution} (member : execution ∈ before) :
    ∃ later ∈ after, later.id = execution.id ∧ execution.graph = later.graph := by
  have listed : execution.id ∈ after.map (·.id) := same.ids.mem_iff.mpr (List.mem_map_of_mem member)
  obtain ⟨later, inside, named⟩ := List.mem_map.mp listed
  obtain ⟨other, known, alike, graph, _⟩ := same.each later inside
  have found := find_of_mem distinct member
  have again := find_of_mem distinct known
  rw [alike, named, found] at again
  obtain rfl := Option.some.inj again
  exact ⟨later, inside, named, graph⟩

variable [Sha256] {identity : IdentityCatalog} {sessions : List Session} {runs : List Run}

/-- A state stays valid when its executions and the sessions and runs of the identity catalog move on, as long as
graphs and outputs stay, no run is lost and the receipts of the documents match. -/
theorem validate_of_receipts (validated : M3State.validate ⟨catalog, before⟩ identity = .ok ())
    (same : SameOutlines before after) (checked : ∀ execution ∈ after, execution.validate = .ok ())
    (known : identity.runs.map (·.metadata.id) ⊆ runs.map (·.metadata.id))
    (valid : { identity with sessions, runs }.validate = .ok ())
    (receipts : ∀ version ∈ catalog.deliverables.documents.flatMap (·.versions),
      receiptInvalid ⟨catalog, after⟩ version = false) :
    M3State.validate ⟨catalog, after⟩ { identity with sessions, runs } = .ok () := by
  simp only [validate, bind_ok, exists_unit, mapError_ok, rejectIf_ok, forEach_ok, decide_eq_false_iff_not, not_not,
    ne_eq, List.any_eq_false, decide_eq_true_eq] at validated ⊢
  obtain ⟨_, office, meetings, deliverables, counted, executions, outputs, referred⟩ := validated
  have distinct : (before.map (·.id)).Nodup := card_toFinset_iff.mp (counted.trans (List.length_map ..).symm)
  refine ⟨valid, office, meetings, deliverables, ?_, fun execution member => ?_, fun output member => ?_, ?_⟩
  · have once : (after.map (·.id)).Nodup := same.ids.nodup_iff.mpr distinct
    exact (card_toFinset_iff.mpr once).trans (List.length_map ..)
  · obtain ⟨other, inside, _, graph, _⟩ := same.each execution member
    have before := executions other inside
    simp only [validateExecution, bind_ok, exists_unit, mapError_ok, graph] at before ⊢
    exact ⟨checked execution member, before.2⟩
  · obtain ⟨execution, inside, listed⟩ := List.mem_flatMap.mp member
    obtain ⟨other, present, _, _, same⟩ := same.each execution inside
    exact known (outputs output (List.mem_flatMap.mpr ⟨other, present, same ▸ listed⟩))
  · have nodes : ∀ id, (id ∈ before.flatMap fun execution => execution.graph.nodes.map (·.id)) →
        id ∈ after.flatMap fun execution => execution.graph.nodes.map (·.id) := by
      intro id listed
      obtain ⟨execution, inside, defined⟩ := List.mem_flatMap.mp listed
      obtain ⟨later, present, _, graph⟩ := same.later distinct inside
      exact List.mem_flatMap.mpr ⟨later, present, graph ▸ defined⟩
    simp only [referenceMissing, Bool.or_eq_false_iff, List.any_eq_false, Bool.or_eq_true, decide_eq_true_eq,
      not_or, List.any_eq_true, not_exists, not_and, not_not, Bool.not_eq_true] at referred ⊢
    obtain ⟨⟨⟨documents, _⟩, costs⟩, deliveries⟩ := referred
    refine ⟨⟨⟨fun document member => ?_, receipts⟩, fun cost member => ?_⟩, deliveries⟩
    · obtain ⟨project, cited⟩ := documents document member
      exact ⟨project, fun id inside => nodes id (cited id inside)⟩
    · obtain ⟨⟨project, ran⟩, node⟩ := costs cost member
      exact ⟨⟨project, known ran⟩, nodes _ node⟩

/-- The receipts of a valid state match. -/
theorem validate_receipts (validated : M3State.validate ⟨catalog, before⟩ identity = .ok ()) :
    ∀ version ∈ catalog.deliverables.documents.flatMap (·.versions), receiptInvalid ⟨catalog, before⟩ version = false := by
  simp only [validate, bind_ok, exists_unit, rejectIf_ok, referenceMissing, Bool.or_eq_false_iff, List.any_eq_false,
    Bool.not_eq_true] at validated
  exact validated.2.2.2.2.2.2.2.1.1.2

theorem validate_ids (validated : M3State.validate ⟨catalog, before⟩ identity = .ok ()) :
    (before.map (·.id)).Nodup := by
  simp only [validate, bind_ok, exists_unit, rejectIf_ok, decide_eq_false_iff_not, not_not, ne_eq] at validated
  exact card_toFinset_iff.mp (validated.2.2.2.2.1.trans (List.length_map ..).symm)

/-- A state stays valid as long as what is cited of its executions stays. -/
theorem validate_of_cited (validated : M3State.validate ⟨catalog, before⟩ identity = .ok ())
    (same : SameCited before after) (checked : ∀ execution ∈ after, execution.validate = .ok ())
    (ids : runs.map (·.metadata.id) = identity.runs.map (·.metadata.id))
    (valid : { identity with sessions, runs }.validate = .ok ()) :
    M3State.validate ⟨catalog, after⟩ { identity with sessions, runs } = .ok () := by
  refine validate_of_receipts validated same.outlines checked (ids ▸ List.Subset.refl _) valid fun version member => ?_
  exact same.receipt (validate_ids validated) (validate_receipts validated version member)

end M3State

end Bastet.Core
