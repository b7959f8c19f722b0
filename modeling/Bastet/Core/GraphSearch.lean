import Bastet.Core.ExecutionProgress

/-! What a graph has to be to pass its checks. The depth-first search ends on every graph,
and stops at a cycle exactly when there is one. -/

set_option autoImplicit false

namespace Bastet.Core

open Fallible Lookup Gating GraphExecution

namespace WorkflowGraph

variable {graph : WorkflowGraph} {marks after : Marks} {id : GraphNodeId}

section Search

/-- Where the search stands when it visits a node: the nodes being visited are different nodes of
the graph, and each of them leads to the one that is visited. -/
structure Leading (graph : WorkflowGraph) (visiting : List GraphNodeId) (id : GraphNodeId) : Prop where
  distinct : visiting.Nodup
  known : visiting ⊆ graph.nodes.map (·.id)
  leads : ∀ other ∈ visiting, Relation.TransGen (Needs graph) other id

theorem Leading.root (graph : WorkflowGraph) (id : GraphNodeId) : Leading graph [] id where
  distinct := List.nodup_nil
  known := List.nil_subset _
  leads other member := by cases member

theorem Leading.length_le {visiting : List GraphNodeId} (leading : Leading graph visiting id) :
    visiting.length ≤ graph.nodes.length := by
  have bounded := (List.subperm_of_subset leading.distinct leading.known).length_le
  rwa [List.length_map] at bounded

/-- The visit of a node goes on with what the node needs. -/
theorem Leading.deeper {visiting : List GraphNodeId} (leading : Leading graph visiting id) (fresh : id ∉ visiting)
    {node : GraphNode} (found : graph.nodes.find? (fun node => node.id = id) = some node) {dependency : GraphNodeId}
    (needed : dependency ∈ node.needs) : Leading graph (id :: visiting) dependency := by
  obtain ⟨member, named⟩ := find_some found
  have step : Needs graph id dependency := ⟨node, member, named, needed⟩
  refine ⟨List.nodup_cons.mpr ⟨fresh, leading.distinct⟩, ?_, ?_⟩
  · intro other inside
    rcases List.mem_cons.mp inside with rfl | inside
    · exact named ▸ List.mem_map_of_mem member
    · exact leading.known inside
  · intro other inside
    rcases List.mem_cons.mp inside with rfl | inside
    · exact .single step
    · exact (leading.leads other inside).tail step

/-- A visit that ends leaves the nodes being visited as it found them. -/
theorem visit_visiting (fuel : Nat) (marks : Marks) (id : GraphNodeId) (after : Marks)
    (ran : visit graph fuel marks id = .ok after) : after.visiting = marks.visiting := by
  induction fuel generalizing marks id after with
  | zero => cases ran
  | succ fuel ih =>
    simp only [visit] at ran
    split at ran
    · exact congrArg Marks.visiting (Except.ok.inj ran).symm
    · split at ran
      · cases ran
      · split at ran
        · cases ran
        · simp only [bind_ok, pure_ok] at ran
          obtain ⟨left, searched, rfl⟩ := ran
          rename_i node _
          have each : ∀ item ∈ node.needs, ∀ before later : Marks, visit graph fuel before item = .ok later →
              before.visiting = id :: marks.visiting → later.visiting = id :: marks.visiting :=
            fun item _ before later stepped same => (ih before item later stepped).trans same
          have kept : left.visiting = id :: marks.visiting := foldEach_preserves each searched rfl
          show left.visiting.erase id = marks.visiting
          rw [kept, List.erase_cons_head]

/-- The visits of what a node needs keep the nodes being visited. -/
theorem visits_visiting (fuel : Nat) (visiting wanted : List GraphNodeId) :
    ∀ item ∈ wanted, ∀ before later : Marks, visit graph fuel before item = .ok later →
      before.visiting = visiting → later.visiting = visiting :=
  fun item _ before later stepped same => (visit_visiting fuel before item later stepped).trans same

/-- With fuel for more nodes than are left to visit, a visit stops only at a cycle or an unknown node. -/
theorem visit_error (fuel : Nat) (marks : Marks) (id : GraphNodeId) {error : GraphError}
    (leading : Leading graph marks.visiting id) (enough : graph.nodes.length < fuel + marks.visiting.length)
    (stopped : visit graph fuel marks id = .error error) :
    (error = .cycle ∧ ∃ other, Relation.TransGen (Needs graph) other other) ∨
      (error = .invalidDependency ∧
        (id ∉ graph.nodes.map (·.id) ∨ ∃ task dependency, Needs graph task dependency ∧
          dependency ∉ graph.nodes.map (·.id))) := by
  induction fuel generalizing marks id with
  | zero =>
    have bounded := leading.length_le
    omega
  | succ fuel ih =>
    simp only [visit] at stopped
    split at stopped
    · cases stopped
    · rename_i unvisited
      split at stopped
      · rename_i visiting
        exact .inl ⟨(Except.error.inj stopped).symm, id, leading.leads id visiting⟩
      · rename_i fresh
        split at stopped
        · rename_i unknown
          refine .inr ⟨(Except.error.inj stopped).symm, .inl fun member => ?_⟩
          obtain ⟨node, found⟩ := exists_of_mem_keys member
          rw [unknown] at found
          cases found
        · rename_i node found
          rcases bind_error.mp stopped with failed | ⟨_, _, returned⟩
          · -- the error is that of the visit of a node that `id` needs
            obtain ⟨dependency, needed, state, same, inner⟩ :=
              foldEach_error (visits_visiting fuel (id :: marks.visiting) node.needs) failed rfl
            have deeper := leading.deeper fresh found needed
            have more : graph.nodes.length < fuel + state.visiting.length := by
              rw [same, List.length_cons]
              omega
            rcases ih state dependency (same ▸ deeper) more inner with cyclic | ⟨invalid, unknown⟩
            · exact .inl cyclic
            · refine .inr ⟨invalid, .inr ?_⟩
              obtain ⟨member, named⟩ := find_some found
              rcases unknown with outside | missing
              · exact ⟨id, dependency, ⟨node, member, named, needed⟩, outside⟩
              · exact missing
          · cases returned

/-- More fuel than the nodes left to visit makes no difference. -/
theorem visit_fuel (fuel more : Nat) (marks : Marks) (id : GraphNodeId) (leading : Leading graph marks.visiting id)
    (enough : graph.nodes.length < fuel + marks.visiting.length)
    (ample : graph.nodes.length < more + marks.visiting.length) :
    visit graph fuel marks id = visit graph more marks id := by
  induction fuel generalizing more marks id with
  | zero =>
    have bounded := leading.length_le
    omega
  | succ fuel ih =>
    cases more with
    | zero =>
      have bounded := leading.length_le
      omega
    | succ more =>
      simp only [visit]
      split
      · rfl
      · split
        · rfl
        · rename_i fresh
          split
          · rfl
          · rename_i node found
            have same : foldEach (visit graph fuel) node.needs { marks with visiting := id :: marks.visiting } =
                foldEach (visit graph more) node.needs { marks with visiting := id :: marks.visiting } := by
              refine foldEach_congr (visits_visiting fuel (id :: marks.visiting) node.needs) ?_ rfl
              intro dependency needed state same
              have longer : state.visiting.length = marks.visiting.length + 1 := by
                rw [same, List.length_cons]
              exact ih more state dependency (same ▸ leading.deeper fresh found needed) (by omega) (by omega)
            rw [same]

end Search

section Exact

/-- Two research nodes that need nothing, and one join that needs these two. -/
structure Joins (graph : WorkflowGraph) (left right join : GraphNode) : Prop where
  research : graph.nodes.filter (fun node => node.kind = .research) = [left, right]
  joins : graph.nodes.filter (fun node => node.kind = .join) = [join]
  free : left.needs = [] ∧ right.needs = []
  collects : ∀ id, id ∈ join.needs ↔ id = left.id ∨ id = right.id

/-- The graphs of the research slice. -/
structure Accepted (graph : WorkflowGraph) : Prop extends Valid graph where
  acyclic : ∀ id, ¬Relation.TransGen (Needs graph) id id
  joined : ∃ left right join, Joins graph left right join

theorem validateResearchJoin_iff :
    graph.validateResearchJoin = .ok () ↔ ∃ left right join, Joins graph left right join := by
  simp only [validateResearchJoin]
  constructor
  · intro accepted
    split at accepted
    · rename_i join single
      simp only [bind_ok, exists_unit, rejectIf_ok, decide_eq_false_iff_not, ne_eq, not_not, Bool.or_eq_false_iff,
        List.any_eq_false, Bool.not_eq_true', Bool.not_eq_false', List.isEmpty_iff] at accepted
      obtain ⟨sized, same, free⟩ := accepted
      obtain ⟨left, right, pair⟩ := List.length_eq_two.mp sized
      rw [pair] at same free
      refine ⟨left, right, join, pair, single, ⟨?_, ?_⟩, fun id => ?_⟩
      · simpa using free left (by simp)
      · simpa using free right (by simp)
      · have equal := Finset.ext_iff.mp same id
        simpa using equal
    · cases accepted
  · rintro ⟨left, right, join, pair, single, ⟨leftFree, rightFree⟩, collects⟩
    have same : join.needs.toFinset = [left.id, right.id].toFinset := by
      ext id
      simpa using collects id
    simp [single, pair, same, leftFree, rightFree, rejectIf]

theorem validateNode_iff {node : GraphNode} :
    graph.validateNode node = .ok () ↔ isBlank node.title = false ∧
      ∀ dependency ∈ node.needs, dependency ≠ node.id ∧ ∃ other ∈ graph.nodes, other.id = dependency := by
  simp only [validateNode, bind_ok, exists_unit, rejectIf_ok, List.any_eq_false, Bool.or_eq_true, not_or,
    decide_eq_true_eq, Bool.not_eq_true', not_forall, not_not, exists_prop, ne_eq]

theorem Valid.known_of_needs (valid : graph.Valid) {task dependency : GraphNodeId}
    (needed : Needs graph task dependency) : dependency ∈ graph.nodes.map (·.id) := by
  obtain ⟨node, member, _, need⟩ := needed
  obtain ⟨other, inside, rfl⟩ := (valid.known node member dependency need).2
  exact List.mem_map_of_mem inside

/-- An error of the search over an otherwise valid graph reports a cycle. -/
theorem search_error {wanted : List GraphNodeId} {error : GraphError}
    (stopped : foldEach (visit graph (graph.nodes.length + 1)) wanted ⟨[], []⟩ = .error error) :
    (error = .cycle ∧ ∃ other, Relation.TransGen (Needs graph) other other) ∨
      (error = .invalidDependency ∧ ((∃ id ∈ wanted, id ∉ graph.nodes.map (·.id)) ∨
        ∃ task dependency, Needs graph task dependency ∧ dependency ∉ graph.nodes.map (·.id))) := by
  obtain ⟨id, member, state, empty, failed⟩ :=
    foldEach_error (visits_visiting (graph.nodes.length + 1) [] wanted) stopped rfl
  have leading : Leading graph state.visiting id := empty ▸ .root graph id
  rcases visit_error _ state id leading (by omega) failed with cyclic | ⟨invalid, unknown⟩
  · exact .inl cyclic
  · refine .inr ⟨invalid, ?_⟩
    rcases unknown with outside | missing
    · exact .inl ⟨id, member, outside⟩
    · exact .inr missing

/-- A graph without a cycle is searched to the end. -/
theorem search_ok (valid : graph.Valid) (acyclic : ∀ id, ¬Relation.TransGen (Needs graph) id id) :
    ∃ marks, foldEach (visit graph (graph.nodes.length + 1)) (graph.nodes.map (·.id)) ⟨[], []⟩ = .ok marks := by
  cases searched : foldEach (visit graph (graph.nodes.length + 1)) (graph.nodes.map (·.id)) ⟨[], []⟩ with
  | ok marks => exact ⟨marks, rfl⟩
  | error error =>
    rcases search_error searched with ⟨_, id, cycle⟩ | ⟨_, ⟨id, inside, outside⟩ | ⟨_, _, needed, unknown⟩⟩
    · exact absurd cycle (acyclic id)
    · exact absurd inside outside
    · exact absurd (valid.known_of_needs needed) unknown

theorem validate_acyclic (accepted : graph.validate = .ok ()) (id : GraphNodeId) :
    ¬Relation.TransGen (Needs graph) id id := by
  obtain ⟨order, ordered, covers⟩ := validate_ordered accepted
  intro cycle
  obtain ⟨_, ⟨node, member, named, _⟩, _⟩ := Relation.TransGen.head'_iff.mp cycle
  exact ordered.acyclic ((covers id).mpr (named ▸ List.mem_map_of_mem member)) cycle

theorem validate_iff : graph.validate = .ok () ↔ graph.Accepted := by
  constructor
  · intro accepted
    have joined := accepted
    simp only [validate, bind_ok, exists_unit] at joined
    obtain ⟨_, _, _, _, joined⟩ := joined
    exact ⟨validate_valid accepted, validate_acyclic accepted, validateResearchJoin_iff.mp joined⟩
  · rintro ⟨valid, acyclic, joined⟩
    obtain ⟨marks, searched⟩ := search_ok valid acyclic
    simp only [validate, bind_ok, exists_unit, rejectIf_ok, forEach_ok]
    refine ⟨?_, fun node member => ?_, marks, searched, validateResearchJoin_iff.mpr joined⟩
    · have sized := card_toFinset_iff.mpr valid.distinct
      rw [List.length_map] at sized
      simpa using sized
    · exact validateNode_iff.mpr ⟨valid.titled node member, valid.known node member⟩

/-- The other checks of a graph never report a cycle. -/
theorem validate_cycle (stopped : graph.validate = .error .cycle) :
    ∃ id, Relation.TransGen (Needs graph) id id := by
  have nodes : forEach graph.validateNode graph.nodes ≠ .error .cycle := by
    intro failed
    obtain ⟨node, _, reported⟩ := forEach_error failed
    simp [validateNode, bind_error, rejectIf_error] at reported
  have join : graph.validateResearchJoin ≠ .error .cycle := by
    intro failed
    simp only [validateResearchJoin] at failed
    split at failed
    · simp [bind_error, rejectIf_error] at failed
    · cases failed
  simp only [validate, bind_error, rejectIf_error, reduceCtorEq, and_false, false_or, nodes, join, or_false,
    exists_false] at stopped
  obtain ⟨_, _, _, _, searched⟩ := stopped
  rcases search_error searched with ⟨_, cycle⟩ | ⟨impossible, _⟩
  · exact cycle
  · cases impossible

end Exact

end WorkflowGraph

end Bastet.Core
