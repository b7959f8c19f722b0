import Bastet.Core.ExecutionWrites
import Bastet.Core.M3References

/-! A receipt of a document cites a join and the research it joins. While these nodes have succeeded, no later step of
their execution can take their outputs away, and the receipt goes on matching. -/

set_option autoImplicit false

namespace Bastet.Core

open Fallible Lookup

namespace GraphExecution

variable {before after : GraphExecution} {nodeId : GraphNodeId}

/-- The execution moves on without a new output. -/
structure Proceeds (before after : GraphExecution) : Prop where
  id : after.id = before.id
  graph : after.graph = before.graph
  outputs : after.outputs = before.outputs
  settled : ∀ nodeId node, before.node? nodeId = some node → node.state.isSettled = true →
    after.node? nodeId = some node

def HasSucceeded (self : GraphExecution) (nodeId : GraphNodeId) : Prop :=
  ∃ node ∈ self.node? nodeId, node.state = .succeeded

instance (self : GraphExecution) (nodeId : GraphNodeId) : Decidable (self.HasSucceeded nodeId) :=
  inferInstanceAs (Decidable (∃ node ∈ self.node? nodeId, node.state = .succeeded))

theorem Proceeds.output (proceeds : Proceeds before after) (succeeded : before.HasSucceeded nodeId) :
    after.output nodeId = before.output nodeId := by
  obtain ⟨node, found, state⟩ := succeeded
  have kept := proceeds.settled nodeId node found (by rw [state]; rfl)
  have found : before.node? nodeId = some node := found
  simp only [GraphExecution.output, kept, found, proceeds.outputs]

theorem Proceeds.of_remembers (frame : Frame before after) (remembers : Remembers before after)
    (outputs : after.outputs = before.outputs) : Proceeds before after :=
  ⟨frame.id, frame.graph, outputs, remembers.settled⟩

theorem restartAs_outline [Sha256] {id : GraphRunId} (restarted : before.restartAs id = .ok after) :
    after.graph = before.graph ∧ after.outputs = [] := by
  simp only [restartAs, start, bind_ok, exists_unit, pure_ok] at restarted
  obtain ⟨_, _, _, ⟨_, rfl⟩, rfl⟩ := restarted
  exact ⟨rfl, rfl⟩

end GraphExecution

theorem Remembers.hasSucceeded {before after : GraphExecution} {nodeId : GraphNodeId}
    (remembers : Remembers before after) (succeeded : before.HasSucceeded nodeId) : after.HasSucceeded nodeId := by
  obtain ⟨node, found, state⟩ := succeeded
  exact ⟨node, remembers.settled nodeId node found (by rw [state]; rfl), state⟩

/-- The join that a version cites has succeeded, and everything it needs. -/
def GraphExecution.JoinSucceeded (self : GraphExecution) (joinNodeId : GraphNodeId) : Prop :=
  ∀ join ∈ self.graph.nodes, join.id = joinNodeId → ∀ nodeId ∈ join.id :: join.needs, self.HasSucceeded nodeId

instance (self : GraphExecution) (joinNodeId : GraphNodeId) : Decidable (self.JoinSucceeded joinNodeId) :=
  inferInstanceAs (Decidable (∀ join ∈ self.graph.nodes, join.id = joinNodeId →
    ∀ nodeId ∈ join.id :: join.needs, self.HasSucceeded nodeId))

/-- The versions of a catalog cite joins that have succeeded. -/
def M3Catalog.CitesSucceeded (self : M3Catalog) (executions : List GraphExecution) : Prop :=
  ∀ document ∈ self.deliverables.documents, ∀ version ∈ document.versions, ∀ execution ∈ executions,
    version.sourceExecutionId = some execution.id → ∀ joinNodeId ∈ version.sourceJoinNodeId,
      execution.JoinSucceeded joinNodeId

instance (self : M3Catalog) (executions : List GraphExecution) : Decidable (self.CitesSucceeded executions) :=
  inferInstanceAs (Decidable (∀ document ∈ self.deliverables.documents, ∀ version ∈ document.versions,
    ∀ execution ∈ executions, version.sourceExecutionId = some execution.id →
      ∀ joinNodeId ∈ version.sourceJoinNodeId, execution.JoinSucceeded joinNodeId))

namespace M3State

variable {catalog : M3Catalog} {before after : List GraphExecution} {version : DocumentVersion}

/-- An execution has what the receipt of a version says. -/
structure Receipt (execution : GraphExecution) (version : DocumentVersion) (join : GraphNode) (hash : String) : Prop where
  source : version.sourceExecutionId = some execution.id
  node : version.sourceJoinNodeId = some join.id
  joined : version.sourceJoinOutputHash = some hash
  defined : (execution.graph.nodes.find? fun node => node.id = join.id && node.kind = .join) = some join
  needs : version.sourceNodeIds.toFinset = join.needs.toFinset
  research : ∀ nodeId ∈ join.needs, (execution.output nodeId).isSome = true ∧
    ∃ definition, execution.definition? nodeId = some definition ∧ definition.kind = .research
  output : ∃ output, execution.output join.id = some output ∧ output.contentHash = hash

/-- A version without a receipt. -/
def Unsourced (version : DocumentVersion) : Prop :=
  version.sourceExecutionId = none ∧ version.sourceJoinNodeId = none ∧ version.sourceJoinOutputHash = none

theorem receiptInvalid_iff : receiptInvalid ⟨catalog, before⟩ version = false ↔ Unsourced version ∨
    ∃ execution join hash, before.find? (fun other => other.id = execution.id) = some execution ∧
      Receipt execution version join hash := by
  constructor
  · intro matched
    unfold receiptInvalid at matched
    split at matched
    · rename_i executionId joinNodeId hash source joined hashed
      split at matched
      · cases matched
      · rename_i execution found
        split at matched
        · cases matched
        · rename_i join defined
          have named := (find_some found).2
          have node := List.find?_some defined
          simp only [Bool.and_eq_true, decide_eq_true_eq] at node
          obtain ⟨rfl, _⟩ := node
          subst named
          simp only [Bool.or_eq_false_iff, decide_eq_false_iff_not, ne_eq, not_not, List.any_eq_false, Bool.not_eq_true,
            Option.isNone_eq_false_iff] at matched
          obtain ⟨⟨needs, research⟩, output⟩ := matched
          refine .inr ⟨execution, join, hash, found, source, joined, hashed, defined, needs, fun nodeId needed => ?_, ?_⟩
          · obtain ⟨left, kind⟩ := research nodeId needed
            cases known : execution.definition? nodeId with
            | none => rw [known] at kind; cases kind
            | some definition =>
              rw [known, Option.all_some, decide_eq_false_iff_not, not_not] at kind
              exact ⟨left, definition, rfl, kind⟩
          · cases left : execution.output join.id with
            | none => rw [left] at output; cases output
            | some recorded =>
              rw [left, Option.all_some, decide_eq_false_iff_not, not_not] at output
              exact ⟨recorded, rfl, output⟩
    · simp only [Bool.or_eq_false_iff, Option.isSome_eq_false_iff, Option.isNone_iff_eq_none] at matched
      exact .inl ⟨matched.1.1, matched.1.2, matched.2⟩
  · rintro (⟨source, node, hash⟩ | ⟨execution, join, hash, found, receipt⟩)
    · unfold receiptInvalid
      rw [source, node, hash]
      rfl
    · unfold receiptInvalid
      rw [receipt.source, receipt.node, receipt.joined]
      dsimp only
      rw [found]
      dsimp only
      rw [receipt.defined]
      simp only [Bool.or_eq_false_iff, decide_eq_false_iff_not, ne_eq, not_not, List.any_eq_false, Bool.not_eq_true,
        Option.isNone_eq_false_iff]
      refine ⟨⟨receipt.needs, fun nodeId needed => ?_⟩, ?_⟩
      · obtain ⟨left, definition, known, kind⟩ := receipt.research nodeId needed
        rw [known, Option.all_some, decide_eq_false_iff_not, not_not]
        exact ⟨left, kind⟩
      · obtain ⟨recorded, left, same⟩ := receipt.output
        rw [left, Option.all_some, decide_eq_false_iff_not, not_not, same]

theorem Receipt.proceeds {earlier later : GraphExecution} {join : GraphNode} {hash : String}
    (receipt : Receipt earlier version join hash) (proceeds : earlier.Proceeds later)
    (succeeded : earlier.JoinSucceeded join.id) : Receipt later version join hash := by
  have cited := succeeded join (List.mem_of_find?_eq_some receipt.defined) rfl
  have same : ∀ nodeId ∈ join.id :: join.needs, later.output nodeId = earlier.output nodeId :=
    fun nodeId member => proceeds.output (cited nodeId member)
  refine ⟨proceeds.id ▸ receipt.source, receipt.node, receipt.joined, proceeds.graph ▸ receipt.defined, receipt.needs,
    fun nodeId needed => ?_, same join.id List.mem_cons_self ▸ receipt.output⟩
  rw [same nodeId (List.mem_cons_of_mem _ needed), GraphExecution.definition?, proceeds.graph]
  exact receipt.research nodeId needed

/-- Each execution moves on without a new output, in any order. -/
structure AllProceed (before after : List GraphExecution) : Prop where
  ids : (after.map (·.id)).Perm (before.map (·.id))
  each : ∀ later ∈ after, ∃ earlier ∈ before, earlier.Proceeds later

namespace AllProceed

theorem outlines (all : AllProceed before after) : SameOutlines before after where
  ids := all.ids
  each later member := by
    obtain ⟨earlier, inside, proceeds⟩ := all.each later member
    exact ⟨earlier, inside, proceeds.id.symm, proceeds.graph.symm, proceeds.outputs.symm⟩

theorem find (all : AllProceed before after) (distinct : (before.map (·.id)).Nodup) {id : GraphRunId}
    {earlier : GraphExecution} (found : before.find? (fun execution => execution.id = id) = some earlier) :
    ∃ later, after.find? (fun execution => execution.id = id) = some later ∧ earlier.Proceeds later := by
  obtain ⟨member, rfl⟩ := find_some found
  have listed : earlier.id ∈ after.map (·.id) := all.ids.mem_iff.mpr (List.mem_map_of_mem member)
  obtain ⟨later, inside, named⟩ := List.mem_map.mp listed
  obtain ⟨other, known, proceeds⟩ := all.each later inside
  have again := find_of_mem distinct known
  rw [← proceeds.id, named, found] at again
  obtain rfl := Option.some.inj again
  have once : (after.map (·.id)).Nodup := all.ids.nodup_iff.mpr distinct
  exact ⟨later, named ▸ find_of_mem once inside, proceeds⟩

/-- A receipt that cites what has succeeded goes on matching. -/
theorem receipt (all : AllProceed before after) (distinct : (before.map (·.id)).Nodup)
    (cites : catalog.CitesSucceeded before) (member : version ∈ catalog.deliverables.documents.flatMap (·.versions))
    (matched : receiptInvalid ⟨catalog, before⟩ version = false) :
    receiptInvalid ⟨catalog, after⟩ version = false := by
  obtain ⟨document, inside, listed⟩ := List.mem_flatMap.mp member
  rcases receiptInvalid_iff.mp matched with unsourced | ⟨execution, join, hash, found, receipt⟩
  · exact receiptInvalid_iff.mpr (.inl unsourced)
  · have succeeded := cites document inside version listed execution (List.mem_of_find?_eq_some found) receipt.source
      join.id receipt.node
    obtain ⟨later, reached, proceeds⟩ := all.find distinct found
    exact receiptInvalid_iff.mpr (.inr ⟨later, join, hash, proceeds.id ▸ reached, receipt.proceeds proceeds succeeded⟩)

end AllProceed

variable [Sha256] {identity : IdentityCatalog} {sessions : List Session} {runs : List Run}

theorem validate_of_proceeds (validated : M3State.validate ⟨catalog, before⟩ identity = .ok ())
    (all : AllProceed before after) (cites : catalog.CitesSucceeded before)
    (checked : ∀ execution ∈ after, execution.validate = .ok ())
    (known : identity.runs.map (·.metadata.id) ⊆ runs.map (·.metadata.id))
    (valid : { identity with sessions, runs }.validate = .ok ()) :
    M3State.validate ⟨catalog, after⟩ { identity with sessions, runs } = .ok () :=
  validate_of_receipts validated all.outlines checked known valid fun version member =>
    all.receipt (validate_ids validated) cites member (validate_receipts validated version member)

/-- A new execution without outputs belongs to a valid state when its baseline and its roles are those of one that
belongs to it. -/
theorem validate_append {execution like : GraphExecution}
    (validated : M3State.validate ⟨catalog, before⟩ identity = .ok ()) (member : like ∈ before)
    (checked : execution.validate = .ok ()) (graph : execution.graph = like.graph) (outputs : execution.outputs = [])
    (fresh : execution.id ∉ before.map (·.id)) :
    M3State.validate ⟨catalog, before ++ [execution]⟩ identity = .ok () := by
  have distinct := validate_ids validated
  have receipts : ∀ version ∈ catalog.deliverables.documents.flatMap (·.versions),
      receiptInvalid ⟨catalog, before ++ [execution]⟩ version = false := by
    intro version cited
    rcases receiptInvalid_iff.mp (validate_receipts validated version cited) with unsourced | ⟨source, join, hash, found, receipt⟩
    · exact receiptInvalid_iff.mpr (.inl unsourced)
    · refine receiptInvalid_iff.mpr (.inr ⟨source, join, hash, ?_, receipt⟩)
      rw [List.find?_append, found, Option.some_or]
  simp only [validate, bind_ok, exists_unit, mapError_ok, rejectIf_ok, forEach_ok, decide_eq_false_iff_not, not_not,
    ne_eq, List.any_eq_false, decide_eq_true_eq] at validated ⊢
  obtain ⟨valid, office, meetings, deliverables, _, executions, ran, referred⟩ := validated
  refine ⟨valid, office, meetings, deliverables, ?_, fun other inside => ?_, fun output inside => ?_, ?_⟩
  · have once : ((before ++ [execution]).map (·.id)).Nodup := by
      rw [List.map_append, List.nodup_append]
      refine ⟨distinct, List.nodup_singleton _, fun id old new added same => fresh ?_⟩
      obtain rfl := List.mem_singleton.mp added
      have named : id = execution.id := same
      exact named ▸ old
    exact (card_toFinset_iff.mpr once).trans (List.length_map ..)
  · rcases List.mem_append.mp inside with old | new
    · exact executions other old
    · obtain rfl := List.mem_singleton.mp new
      have placed := executions like member
      simp only [validateExecution, bind_ok, exists_unit, mapError_ok, graph] at placed ⊢
      exact ⟨checked, placed.2⟩
  · rw [List.flatMap_append, List.flatMap_singleton, outputs, List.append_nil] at inside
    exact ran output inside
  · simp only [referenceMissing, Bool.or_eq_false_iff, List.any_eq_false, Bool.or_eq_true, decide_eq_true_eq,
      not_or, List.any_eq_true, not_exists, not_and, not_not, Bool.not_eq_true] at referred ⊢
    obtain ⟨⟨⟨documents, _⟩, costs⟩, deliveries⟩ := referred
    rw [List.flatMap_append]
    refine ⟨⟨⟨fun document cited => ?_, receipts⟩, fun cost cited => ?_⟩, deliveries⟩
    · obtain ⟨project, nodes⟩ := documents document cited
      exact ⟨project, fun id inside => List.mem_append_left _ (nodes id inside)⟩
    · obtain ⟨placed, node⟩ := costs cost cited
      exact ⟨placed, List.mem_append_left _ node⟩

end M3State

end Bastet.Core
