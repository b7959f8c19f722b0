import Bastet.Library.Fallible
import Bastet.Library.Lookup
import Bastet.Core.Adapter

/-! Workflow graphs and the checks they pass: distinct nodes, known dependencies,
no cycle, and two research branches under one join. -/

set_option autoImplicit false

namespace Bastet.Core

open Fallible

/-- The digest the source takes from its SHA-256 crate, as lower-case hexadecimal text. -/
class Sha256 where
  hex : String → String

/-- Digests of finitely many texts. -/
abbrev Sha256.table (digests : List (String × String)) : Sha256 where
  hex content := ((digests.find? fun digest => digest.1 = content).map (·.2)).getD ""

inductive GraphNodeKind where
  | research
  | join
  | document
  deriving DecidableEq, Repr

structure GraphNode where
  id : GraphNodeId
  kind : GraphNodeKind
  roleId : RoleId
  title : String
  needs : List GraphNodeId
  deriving DecidableEq, Repr

structure WorkflowGraph where
  decisionBaselineId : DecisionBaselineId
  nodes : List GraphNode
  deriving DecidableEq, Repr

inductive GraphError where
  | duplicateNode
  | emptyTitle
  | invalidDependency
  | cycle
  | invalidResearchJoin
  | invalidExecution
  | invalidOutput
  deriving DecidableEq, Repr

namespace WorkflowGraph

/-- The two hash sets of the depth-first search. -/
structure Marks where
  visiting : List GraphNodeId
  visited : List GraphNodeId

/-- The depth-first search of the source. Every call deeper marks one more node as being
visited, so more fuel than nodes is never used up (`visit_fuel`). -/
def visit (graph : WorkflowGraph) : Nat → Marks → GraphNodeId → Except GraphError Marks
  | 0, _, _ => .error .cycle
  | fuel + 1, marks, id =>
    if id ∈ marks.visited then .ok marks
    else if id ∈ marks.visiting then .error .cycle
    else
      match graph.nodes.find? (fun node => node.id = id) with
      | none => .error .invalidDependency
      | some node => do
        let marks ← foldEach (visit graph fuel) node.needs { marks with visiting := id :: marks.visiting }
        return ⟨marks.visiting.erase id, id :: marks.visited⟩

def validateResearchJoin (self : WorkflowGraph) : Except GraphError Unit :=
  let research := self.nodes.filter (fun node => node.kind = .research)
  let joins := self.nodes.filter (fun node => node.kind = .join)
  match joins with
  | [join] => do
    rejectIf (decide (research.length ≠ 2)) .invalidResearchJoin
    rejectIf (decide (join.needs.toFinset ≠ (research.map (·.id)).toFinset) ||
      research.any (fun node => !node.needs.isEmpty)) .invalidResearchJoin
  | _ => .error .invalidResearchJoin

def validateNode (self : WorkflowGraph) (node : GraphNode) : Except GraphError Unit := do
  rejectIf (isBlank node.title) .emptyTitle
  rejectIf (node.needs.any fun dependency => dependency = node.id || !(self.nodes.any fun other => other.id = dependency))
    .invalidDependency

def validate (self : WorkflowGraph) : Except GraphError Unit := do
  rejectIf (decide ((self.nodes.map (·.id)).toFinset.card ≠ self.nodes.length)) .duplicateNode
  forEach self.validateNode self.nodes
  let _ ← foldEach (self.visit (self.nodes.length + 1)) (self.nodes.map (·.id)) ⟨[], []⟩
  self.validateResearchJoin

end WorkflowGraph

namespace WorkflowGraph

variable {self : WorkflowGraph}

structure Valid (graph : WorkflowGraph) : Prop where
  distinct : (graph.nodes.map (·.id)).Nodup
  titled : ∀ node ∈ graph.nodes, isBlank node.title = false
  known : ∀ node ∈ graph.nodes, ∀ dependency ∈ node.needs,
    dependency ≠ node.id ∧ ∃ other ∈ graph.nodes, other.id = dependency

theorem validate_valid (accepted : self.validate = .ok ()) : self.Valid := by
  simp only [validate, bind_ok, exists_unit, rejectIf_ok, forEach_ok, validateNode] at accepted
  obtain ⟨sized, nodes, -⟩ := accepted
  refine ⟨?_, fun node member => (nodes node member).1, fun node member dependency needed => ?_⟩
  · apply Lookup.card_toFinset_iff.mp
    simpa using sized
  · have known := (nodes node member).2
    simp only [List.any_eq_false, Bool.or_eq_true, Bool.not_eq_true', not_or] at known
    obtain ⟨apart, inside⟩ := known dependency needed
    refine ⟨by simpa using apart, ?_⟩
    simpa using inside

end WorkflowGraph

end Bastet.Core
