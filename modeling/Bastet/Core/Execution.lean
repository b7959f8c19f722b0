import Bastet.Core.Graph

/-! Graph executions: the state of every node, its recorded outputs, and the
operations of the scheduler on them. An operation returns the changed execution;
where the source can fail halfway through a change, it returns what it leaves. -/

set_option autoImplicit false

namespace Bastet.Core

open Fallible Lookup

inductive GraphNodeState where
  | pending
  | awaitingApproval
  | running
  | succeeded
  | failed
  | cancelled
  | blocked
  | uncertain
  deriving DecidableEq, Repr

structure GraphNodeExecution where
  nodeId : GraphNodeId
  state : GraphNodeState
  owner : Option String
  revision : Nat
  runId : Option RunId
  failure : Option AdapterFailure
  deriving DecidableEq, Repr

def maxNodeOutputBytes : Nat := 256 * 1024

structure GraphNodeOutput where
  nodeId : GraphNodeId
  runId : RunId
  contentHash : String
  markdown : String
  deriving DecidableEq, Repr

structure GraphExecution where
  id : GraphRunId
  graph : WorkflowGraph
  nodes : List GraphNodeExecution
  outputs : List GraphNodeOutput
  restartedFromExecutionId : Option GraphRunId
  revision : Nat
  deriving DecidableEq, Repr

section Outputs

variable [Sha256]

def outputHash (content : String) : String :=
  "sha256:" ++ Sha256.hex content

/-- The text of an output is not blank and not too long. -/
def outputFits (markdown : String) : Bool :=
  !(isBlank markdown || decide (maxNodeOutputBytes < byteLength markdown))

def GraphNodeOutput.create (nodeId : GraphNodeId) (runId : RunId) (markdown : String) :
    Except GraphError GraphNodeOutput := do
  rejectIf (isBlank markdown || decide (maxNodeOutputBytes < byteLength markdown)) .invalidOutput
  return ⟨nodeId, runId, outputHash markdown, markdown⟩

def GraphNodeOutput.validate (self : GraphNodeOutput) : Except GraphError Unit :=
  rejectIf (isBlank self.markdown || decide (maxNodeOutputBytes < byteLength self.markdown) ||
    decide (self.contentHash ≠ outputHash self.markdown)) .invalidOutput

theorem GraphNodeOutput.create_validate {nodeId : GraphNodeId} {runId : RunId} {markdown : String}
    {output : GraphNodeOutput} (created : GraphNodeOutput.create nodeId runId markdown = .ok output) :
    output.validate = .ok () := by
  simp only [create, bind_ok, exists_unit, rejectIf_ok, pure_ok] at created
  obtain ⟨fits, rfl⟩ := created
  simp [validate, fits]

end Outputs

def executionStateIsValid (execution : GraphNodeExecution) : Bool :=
  let hasOwner := execution.owner.any fun owner => !isBlank owner
  match execution.state with
  | .pending | .blocked => execution.owner.isNone
  | .awaitingApproval => hasOwner && execution.runId.isSome && execution.failure.isNone
  | .running => execution.owner.isSome
  | .succeeded | .failed | .cancelled => execution.owner.isSome
  | .uncertain => execution.owner.isNone

namespace GraphExecution

def start (id : GraphRunId) (graph : WorkflowGraph) : Except GraphError GraphExecution := do
  graph.validate
  let nodes := graph.nodes.map fun node => ⟨node.id, .pending, none, 0, none, none⟩
  return ⟨id, graph, nodes, [], none, 0⟩

def validate [Sha256] (self : GraphExecution) : Except GraphError Unit := do
  self.graph.validate
  rejectIf (decide (self.nodes.length ≠ self.graph.nodes.length) ||
    decide ((self.nodes.map (·.nodeId)).toFinset.card ≠ self.nodes.length) ||
    self.nodes.any fun execution =>
      !(self.graph.nodes.any fun node => node.id = execution.nodeId) || !executionStateIsValid execution)
    .invalidExecution
  rejectIf (decide ((self.outputs.map (·.runId)).toFinset.card ≠ self.outputs.length) ||
    self.outputs.any fun output =>
      !isOk output.validate || !(self.graph.nodes.any fun node => node.id = output.nodeId))
    .invalidOutput

def node? (self : GraphExecution) (nodeId : GraphNodeId) : Option GraphNodeExecution :=
  self.nodes.find? fun node => node.nodeId = nodeId

def definition? (self : GraphExecution) (nodeId : GraphNodeId) : Option GraphNode :=
  self.graph.nodes.find? fun node => node.id = nodeId

def output (self : GraphExecution) (nodeId : GraphNodeId) : Option GraphNodeOutput :=
  match (self.node? nodeId).bind (·.runId) with
  | some runId => self.outputs.find? fun output => output.nodeId = nodeId && output.runId = runId
  | none => self.outputs.reverse.find? fun output => output.nodeId = nodeId

def restartAs [Sha256] (self : GraphExecution) (id : GraphRunId) : Except GraphError GraphExecution := do
  self.validate
  rejectIf ((self.nodes.any fun node => node.state ≠ .succeeded) ||
    self.nodes.all fun node => (self.output node.nodeId).isSome) .invalidOutput
  let restarted ← start id self.graph
  return { restarted with restartedFromExecutionId := some self.id }

def recordOutput [Sha256] (self : GraphExecution) (output : GraphNodeOutput) : Except GraphError GraphExecution := do
  output.validate
  rejectIf ((self.outputs.any fun existing => existing.runId = output.runId) ||
    (self.node? output.nodeId).all fun node =>
      !(node.state = .succeeded || node.state = .failed) || node.runId.any fun runId => runId ≠ output.runId)
    .invalidOutput
  return { self with outputs := self.outputs ++ [output] }

/-- The change of one node by the restart: a running node is uncertain and has no owner. -/
def reconcileNode (node : GraphNodeExecution) : GraphNodeExecution :=
  if node.state = .running then
    { node with state := .uncertain, owner := none, runId := none, failure := none, revision := bump node.revision }
  else node

def reconcileAfterRestart (self : GraphExecution) : Nat × GraphExecution :=
  let changed := self.nodes.countP fun node => node.state = .running
  (changed, { self with
    nodes := self.nodes.map reconcileNode
    revision := if 0 < changed then bump self.revision else self.revision })

/-- The hash map of node states the loops of the source work from. -/
def snapshot (nodes : List GraphNodeExecution) (nodeId : GraphNodeId) : Option GraphNodeState :=
  lastOf (·.nodeId) (·.state) nodeId nodes

/-- The change a claim makes to a ready node. -/
def engage (owner : String) (node : GraphNodeExecution) : GraphNodeExecution :=
  { node with state := .running, owner := some owner, failure := none, revision := bump node.revision }

def ready (states : GraphNodeId → Option GraphNodeState) (node : GraphNode) : Bool :=
  node.needs.all fun dependency => states dependency = some .succeeded

/-- The loop of `claim_ready` over the nodes still to come. -/
def claimLoop (graph : WorkflowGraph) (states : GraphNodeId → Option GraphNodeState) (owner : String) (limit : Nat) :
    List GraphNodeId → List GraphNodeExecution → Except GraphError (List GraphNodeId) × List GraphNodeExecution
  | claimed, [] => (.ok claimed, [])
  | claimed, execution :: rest =>
    if claimed.length = limit ∨ execution.state ≠ .pending then
      let (result, others) := claimLoop graph states owner limit claimed rest
      (result, execution :: others)
    else
      match graph.nodes.find? (fun node => node.id = execution.nodeId) with
      | none => (.error .invalidExecution, execution :: rest)
      | some node =>
        if ready states node then
          let (result, others) := claimLoop graph states owner limit (claimed ++ [execution.nodeId]) rest
          (result, engage owner execution :: others)
        else
          let (result, others) := claimLoop graph states owner limit claimed rest
          (result, execution :: others)

def claimReady (self : GraphExecution) (owner : String) (limit : Nat) :
    Except GraphError (List GraphNodeId) × GraphExecution :=
  if isBlank owner || decide (limit = 0) then (.error .invalidExecution, self)
  else
    match claimLoop self.graph (snapshot self.nodes) owner limit [] self.nodes with
    | (.error error, nodes) => (.error error, { self with nodes })
    | (.ok claimed, nodes) =>
      (.ok claimed, { self with nodes, revision := if claimed.isEmpty then self.revision else bump self.revision })

/-- Change the record of one node and the revision of the execution. -/
def updateNode (self : GraphExecution) (nodeId : GraphNodeId)
    (change : GraphNodeExecution → GraphNodeExecution) : GraphExecution :=
  { self with nodes := modifyFirst (·.nodeId) nodeId change self.nodes, revision := bump self.revision }

def claimNode (self : GraphExecution) (nodeId : GraphNodeId) (owner : String) : Except GraphError GraphExecution := do
  rejectIf (isBlank owner) .invalidExecution
  let definition ← okOr (self.definition? nodeId) .invalidExecution
  rejectIf (!ready (snapshot self.nodes) definition) .invalidExecution
  let execution ← okOr (self.node? nodeId) .invalidExecution
  rejectIf (decide (execution.state ≠ .pending)) .invalidExecution
  return self.updateNode nodeId (engage owner)

def runIdIsInUse (self : GraphExecution) (runId : RunId) : Bool :=
  (self.nodes.any fun node => node.runId = some runId) || self.outputs.any fun output => output.runId = runId

def dependenciesSucceeded (self : GraphExecution) (nodeId : GraphNodeId) : Except GraphError Bool := do
  let definition ← okOr (self.definition? nodeId) .invalidExecution
  return definition.needs.all fun dependency =>
    self.nodes.any fun execution => execution.nodeId = dependency && execution.state = .succeeded

/-- The change approval staging makes to a ready node. -/
def stage (owner : String) (runId : RunId) (node : GraphNodeExecution) : GraphNodeExecution :=
  { node with
    state := .awaitingApproval
    owner := some owner
    runId := some runId
    failure := none
    revision := bump node.revision }

def stageNode (self : GraphExecution) (nodeId : GraphNodeId) (owner : String) (runId : RunId) :
    Except GraphError GraphExecution := do
  rejectIf (isBlank owner || self.runIdIsInUse runId) .invalidExecution
  let succeeded ← self.dependenciesSucceeded nodeId
  rejectIf (!succeeded) .invalidExecution
  let execution ← okOr (self.node? nodeId) .invalidExecution
  rejectIf (decide (execution.state ≠ .pending) || execution.owner.isSome || execution.runId.isSome) .invalidExecution
  return self.updateNode nodeId (stage owner runId)

/-- The staging record of a node names this owner and run. -/
def stagedAs (execution : GraphNodeExecution) (owner : String) (runId : RunId) : Bool :=
  decide (execution.state = .awaitingApproval) && decide (execution.owner = some owner) &&
    decide (execution.runId = some runId)

def activateStagedNode (self : GraphExecution) (nodeId : GraphNodeId) (owner : String) (runId : RunId) :
    Except GraphError GraphExecution := do
  let execution ← okOr (self.node? nodeId) .invalidExecution
  rejectIf (!stagedAs execution owner runId) .invalidExecution
  return self.updateNode nodeId fun node => { node with state := .running, revision := bump node.revision }

/-- What one pass of `block_dependents` carries along the nodes of the graph. -/
structure Spread where
  blocked : List GraphNodeId
  nodes : List GraphNodeExecution
  changed : Bool

/-- A pending node is blocked; every other state is kept. -/
def block (node : GraphNodeExecution) : GraphNodeExecution :=
  if node.state = .pending then { node with state := .blocked, revision := bump node.revision } else node

def spread (state : Spread) (node : GraphNode) : Spread :=
  if (node.needs.any fun dependency => dependency ∈ state.blocked) ∧ node.id ∉ state.blocked then
    ⟨node.id :: state.blocked, modifyFirst (·.nodeId) node.id block state.nodes, true⟩
  else state

/-- The passes of `block_dependents`. A pass that changes something blocks one more node of
the graph, so one more pass than nodes is enough (`blockLoop_closed`). -/
def blockLoop (graph : WorkflowGraph) : Nat → Spread → Spread
  | 0, state => state
  | fuel + 1, state =>
    let after := graph.nodes.foldl spread { state with changed := false }
    if after.changed then blockLoop graph fuel after else after

def blockDependents (self : GraphExecution) (failed : GraphNodeId) : GraphExecution :=
  { self with nodes := (blockLoop self.graph (self.graph.nodes.length + 1) ⟨[failed], self.nodes, false⟩).nodes }

def cancelStagedNode (self : GraphExecution) (nodeId : GraphNodeId) (owner : String) (runId : RunId) :
    Except GraphError GraphExecution := do
  let execution ← okOr (self.node? nodeId) .invalidExecution
  rejectIf (!stagedAs execution owner runId) .invalidExecution
  let cancelled := self.updateNode nodeId fun node =>
    { node with state := .cancelled, failure := none, revision := bump node.revision }
  return cancelled.blockDependents nodeId

/-- The node is running for this owner. -/
def runningFor (execution : GraphNodeExecution) (owner : String) : Bool :=
  decide (execution.state = .running) && decide (execution.owner = some owner)

/-- `bind_run` gives a claimed node its run and leaves every revision as it is. -/
def bindRun (self : GraphExecution) (nodeId : GraphNodeId) (owner : String) (runId : RunId) :
    Except GraphError GraphExecution := do
  let execution ← okOr (self.node? nodeId) .invalidExecution
  rejectIf (!runningFor execution owner || execution.runId.isSome) .invalidExecution
  return { self with nodes := modifyFirst (·.nodeId) nodeId (fun node => { node with runId := some runId }) self.nodes }

def complete (self : GraphExecution) (nodeId : GraphNodeId) (owner : String) (succeeded : Bool) :
    Except GraphError GraphExecution := do
  let execution ← okOr (self.node? nodeId) .invalidExecution
  rejectIf (!runningFor execution owner) .invalidExecution
  let completed := self.updateNode nodeId fun node =>
    { node with
      state := if succeeded then .succeeded else .failed
      failure := none
      revision := bump node.revision }
  return if succeeded then completed else completed.blockDependents nodeId

end GraphExecution

/-- The states `finish_terminal` accepts. -/
def GraphNodeState.isTerminal : GraphNodeState → Bool
  | .succeeded | .failed | .cancelled | .blocked | .uncertain => true
  | .pending | .awaitingApproval | .running => false

/-- A finished node in one of these states keeps its owner. -/
def GraphNodeState.keepsOwner : GraphNodeState → Bool
  | .succeeded | .failed | .cancelled => true
  | _ => false

/-- A node in one of these states makes its dependents impossible. -/
def GraphNodeState.blocks : GraphNodeState → Bool
  | .failed | .cancelled | .blocked => true
  | _ => false

namespace GraphExecution

def finishTerminal (self : GraphExecution) (nodeId : GraphNodeId) (owner : String) (state : GraphNodeState)
    (failure : Option AdapterFailure) : Except GraphError GraphExecution := do
  rejectIf (!state.isTerminal) .invalidExecution
  let execution ← okOr (self.node? nodeId) .invalidExecution
  rejectIf (!runningFor execution owner) .invalidExecution
  let finished := self.updateNode nodeId fun node =>
    { node with
      state
      owner := if state.keepsOwner then some owner else none
      failure
      revision := bump node.revision }
  return if state.blocks then finished.blockDependents nodeId else finished

/-- A retried node and a reopened one start over. -/
def reset (node : GraphNodeExecution) : GraphNodeExecution :=
  { node with state := .pending, owner := none, runId := none, failure := none, revision := bump node.revision }

/-- The blocked nodes that no failed, cancelled or blocked dependency keeps blocked. -/
def reopenable (graph : WorkflowGraph) (states : GraphNodeId → Option GraphNodeState) : List GraphNodeId :=
  (graph.nodes.filter fun definition =>
    decide (states definition.id = some .blocked) &&
      !(definition.needs.any fun dependency => (states dependency).any (·.blocks))).map (·.id)

def reopenNode (nodes : List GraphNodeExecution) (reopened : GraphNodeId) :
    Except GraphError (List GraphNodeExecution) := do
  let _ ← okOr (nodes.find? fun node => node.nodeId = reopened) .invalidExecution
  return modifyFirst (·.nodeId) reopened reset nodes

/-- The rounds of `retry_failed`. Every round but the last reopens a blocked node, so one more
round than nodes is enough (`reopenLoop_settled`). -/
def reopenLoop (graph : WorkflowGraph) : Nat → List GraphNodeExecution → Except GraphError (List GraphNodeExecution)
  | 0, nodes => .ok nodes
  | fuel + 1, nodes =>
    let reopened := reopenable graph (snapshot nodes)
    if reopened.isEmpty then .ok nodes
    else do
      let nodes ← foldEach reopenNode reopened nodes
      reopenLoop graph fuel nodes

def retryFailed (self : GraphExecution) (nodeId : GraphNodeId) : Except GraphError GraphExecution := do
  let execution ← okOr (self.node? nodeId) .invalidExecution
  rejectIf (decide (execution.state ≠ .failed)) .invalidExecution
  let nodes ← reopenLoop self.graph (self.nodes.length + 1) (modifyFirst (·.nodeId) nodeId reset self.nodes)
  return { self with nodes, revision := bump self.revision }

end GraphExecution

end Bastet.Core
