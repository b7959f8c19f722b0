import Bastet.Adapter.CodexLifecycle

/-! The tracker of a Codex run: lifecycle, evidence and final output, each reading the same notifications. -/

set_option autoImplicit false

namespace Bastet.Codex

open Fallible Bastet.Core Bastet.Adapter

inductive EvidenceError where
  | protocolDrift
  deriving DecidableEq, Repr

inductive CodexRunEvidenceUpdate where
  | writeReceipt (receipt : String)
  | cost (evidence : CostEvidence)
  deriving DecidableEq, Repr

structure CodexRunEvidence where
  providerThreadId : String
  providerTurnId : String
  deriving DecidableEq, Repr

namespace Evidence

def requiredString (value : Value) (key : String) : Except EvidenceError String :=
  okOr (((value.get key).bind Value.asStr).filter fun text => !isBlank text) .protocolDrift

def requiredU64 (value : Value) (key : String) : Except EvidenceError Nat :=
  okOr ((value.get key).bind Value.asU64) .protocolDrift

end Evidence

def validFileChange (change : Value) : Bool :=
  change.asObject.any fun fields =>
    ["path", "kind", "diff"].all fun key => ((field fields key).bind Value.asStr).any fun value => !isBlank value

namespace CodexRunEvidence

def new (providerThreadId providerTurnId : String) : Except EvidenceError CodexRunEvidence := do
  rejectIf (isBlank providerThreadId || isBlank providerTurnId) .protocolDrift
  return ⟨providerThreadId, providerTurnId⟩

def matchesRun (self : CodexRunEvidence) (params : Value) : Except EvidenceError Bool := do
  let threadId ← Evidence.requiredString params "threadId"
  let turnId ← Evidence.requiredString params "turnId"
  return threadId == self.providerThreadId && turnId == self.providerTurnId

variable [SerdeJson]

def receipt (self : CodexRunEvidence) (evidence : String) : CodexRunEvidenceUpdate :=
  .writeReceipt (SerdeJson.text (.object [("evidence", .string evidence), ("turn_id", .string self.providerTurnId)]))

def fileChangeCompleted (self : CodexRunEvidence) (params : Value) :
    Except EvidenceError (Option CodexRunEvidenceUpdate) := do
  if !(← self.matchesRun params) then return none
  let item ← okOr (params.get "item") .protocolDrift
  if (← Evidence.requiredString item "type") ≠ "fileChange" then return none
  let status ← Evidence.requiredString item "status"
  if status = "failed" ∨ status = "declined" then return none
  rejectIf (status != "completed") .protocolDrift
  let changes ← okOr (((item.get "changes").bind Value.asArray).filter fun changes => !changes.isEmpty) .protocolDrift
  rejectIf (changes.any fun change => !validFileChange change) .protocolDrift
  return some (self.receipt "codex.item_file_change.completed")

def diffUpdated (self : CodexRunEvidence) (params : Value) :
    Except EvidenceError (Option CodexRunEvidenceUpdate) := do
  if !(← self.matchesRun params) then return none
  let diff ← Evidence.requiredString params "diff"
  if diff.isEmpty then return none
  return some (self.receipt "codex.turn_diff.updated")

def tokenUsageUpdated (self : CodexRunEvidence) (params : Value) :
    Except EvidenceError (Option CodexRunEvidenceUpdate) := do
  if !(← self.matchesRun params) then return none
  let last ← okOr ((params.get "tokenUsage").bind fun value => value.get "last") .protocolDrift
  let inputTokens ← Evidence.requiredU64 last "inputTokens"
  let outputTokens ← Evidence.requiredU64 last "outputTokens"
  let totalTokens ← Evidence.requiredU64 last "totalTokens"
  rejectIf (decide (2 ^ 64 ≤ inputTokens + outputTokens)) .protocolDrift
  rejectIf (decide (totalTokens < inputTokens + outputTokens)) .protocolDrift
  return some (.cost ⟨.providerReported, none, none, some inputTokens, some outputTokens, .finite 1⟩)

def ingest (self : CodexRunEvidence) (notification : AppServerNotification) :
    Except EvidenceError (Option CodexRunEvidenceUpdate) :=
  if notification.method = "turn/diff/updated" then self.diffUpdated notification.params
  else if notification.method = "item/completed" then self.fileChangeCompleted notification.params
  else if notification.method = "thread/tokenUsage/updated" then self.tokenUsageUpdated notification.params
  else .ok none

end CodexRunEvidence

inductive WorkspaceEvidenceError where
  | invalidRoot
  | symbolicLink
  | limitExceeded
  | io
  deriving DecidableEq, Repr

/-- `RunTrackerError`: every error of the three readers is the same drift of the protocol. -/
inductive RunTrackerError where
  | protocolDrift
  | lifecycle (error : LifecycleError)
  | evidence (error : EvidenceError)
  | workspace (error : WorkspaceEvidenceError)
  deriving DecidableEq, Repr

structure CodexFinalOutput where
  providerThreadId : String
  providerTurnId : String
  text : String
  overflowed : Bool
  deriving DecidableEq, Repr

namespace CodexFinalOutput

def maxBytes : Nat := 256 * 1024

def requiredValueString (value : Value) (key : String) : Except RunTrackerError String :=
  okOr ((value.get key).bind Value.asStr) .protocolDrift

def new (providerThreadId providerTurnId : String) : Except RunTrackerError CodexFinalOutput := do
  rejectIf (isBlank providerThreadId) .protocolDrift
  rejectIf (isBlank providerTurnId) .protocolDrift
  return ⟨providerThreadId, providerTurnId, "", false⟩

def finalOutput (self : CodexFinalOutput) : Option String :=
  if !self.overflowed ∧ !self.text.isEmpty then some self.text else none

def collect (self : CodexFinalOutput) (text : String) : CodexFinalOutput :=
  if self.overflowed then self
  else match appendIfWithinLimit self.text text maxBytes with
    | some output => { self with text := output }
    | none => { self with text := "", overflowed := true }

def ingest (self : CodexFinalOutput) (notification : AppServerNotification) :
    Except RunTrackerError CodexFinalOutput := do
  if notification.method ≠ "item/completed" then return self
  let params := notification.params
  if (← requiredValueString params "threadId") ≠ self.providerThreadId then return self
  if (← requiredValueString params "turnId") ≠ self.providerTurnId then return self
  let item ← okOr (params.get "item") .protocolDrift
  if (← requiredValueString item "type") ≠ "agentMessage" then return self
  if (item.get "phase").bind Value.asStr ≠ some "final_answer" then return self
  return self.collect (← requiredValueString item "text")

end CodexFinalOutput

inductive CodexRunUpdate where
  | lifecycle (event : NormalizedCodexEvent)
  | evidence (update : CodexRunEvidenceUpdate)
  deriving DecidableEq, Repr

structure CodexRunTracker where
  stream : CodexRunStream
  evidence : CodexRunEvidence
  before : Bool
  providerWriteReceipt : Bool
  pendingTerminal : Option CodexRunUpdate
  finalOutput : CodexFinalOutput
  deriving DecidableEq, Repr

/-- A notification as a call of the tracker reads it: with the time the call was given, and what a comparison of
the workspace with its snapshot says then. -/
structure Arrival where
  notification : AppServerNotification
  occurredAt : String
  workspace : Except WorkspaceEvidenceError (Option String)

namespace CodexRunTracker

variable [SerdeJson]

def new (runId : RunId) (providerThreadId providerTurnId : String) (before : Bool) :
    Except RunTrackerError CodexRunTracker := do
  let stream ← (CodexRunStream.new runId providerTurnId).mapError .lifecycle
  let evidence ← (CodexRunEvidence.new providerThreadId providerTurnId).mapError .evidence
  let finalOutput ← CodexFinalOutput.new providerThreadId providerTurnId
  return ⟨stream, evidence, before, false, none, finalOutput⟩

/-- The terminal states the tracker holds back for a receipt. -/
def ends : CodexRunUpdate → Bool
  | .lifecycle event => decide (event.event.state ∈ [NormalizedRunState.cancelled, .failed, .succeeded, .uncertain])
  | .evidence _ => false

def isReceipt : CodexRunUpdate → Bool
  | .evidence (.writeReceipt _) => true
  | .evidence (.cost _) | .lifecycle _ => false

/-- A terminal update waits for the receipt of what the run changed locally. -/
def orderUpdate (self : CodexRunTracker) (update : CodexRunUpdate)
    (workspace : Except WorkspaceEvidenceError (Option String)) :
    Except RunTrackerError CodexRunUpdate × CodexRunTracker :=
  if isReceipt update then (.ok update, { self with providerWriteReceipt := true })
  else if !ends update ∨ self.providerWriteReceipt then (.ok update, self)
  else if !self.before then (.ok update, self)
  else match workspace with
    | .error error => (.error (.workspace error), self)
    | .ok none => (.ok update, self)
    | .ok (some receipt) =>
      (.ok (.evidence (.writeReceipt receipt)), { self with pendingTerminal := some update })

/-- What the readers make of one notification; the output is collected also when a later reader refuses. -/
def observe (self : CodexRunTracker) (arrival : Arrival) :
    Except RunTrackerError (Option CodexRunUpdate) × CodexRunTracker :=
  match self.finalOutput.ingest arrival.notification with
  | .error error => (.error error, self)
  | .ok finalOutput =>
    let collected := { self with finalOutput }
    match self.stream.ingest arrival.notification arrival.occurredAt with
    | .error _ => (.error .protocolDrift, collected)
    | .ok (some event, stream) => (.ok (some (.lifecycle event)), { collected with stream })
    | .ok (none, stream) =>
      match self.evidence.ingest arrival.notification with
      | .error _ => (.error .protocolDrift, { collected with stream })
      | .ok (some update) => (.ok (some (.evidence update)), { collected with stream })
      | .ok none => (.ok none, { collected with stream })

/-- Reading on until there is something to report; without a result nothing to report has arrived. -/
def readUpdate (self : CodexRunTracker) :
    List Arrival → Option (Except RunTrackerError CodexRunUpdate) × CodexRunTracker × List Arrival
  | [] => (none, self, [])
  | arrival :: rest =>
    match self.observe arrival with
    | (.error error, after) => (some (.error error), after, rest)
    | (.ok (some update), after) =>
      (some (after.orderUpdate update arrival.workspace).1, (after.orderUpdate update arrival.workspace).2, rest)
    | (.ok none, after) => after.readUpdate rest

/-- A call of `next_update` or `poll_update`: an update that waits comes first. -/
def nextUpdate (self : CodexRunTracker) (arrivals : List Arrival) :
    Option (Except RunTrackerError CodexRunUpdate) × CodexRunTracker × List Arrival :=
  match self.pendingTerminal with
  | some terminal => (some (.ok terminal), { self with pendingTerminal := none }, arrivals)
  | none => self.readUpdate arrivals

/-- What a number of calls report, with the tracker and the notifications they leave. -/
def calls : Nat → CodexRunTracker → List Arrival →
    List (Except RunTrackerError CodexRunUpdate) × CodexRunTracker × List Arrival
  | 0, self, arrivals => ([], self, arrivals)
  | more + 1, self, arrivals =>
    match self.nextUpdate arrivals with
    | (none, after, rest) => ([], after, rest)
    | (some result, after, rest) => (result :: (calls more after rest).1, (calls more after rest).2)

end CodexRunTracker

end Bastet.Codex
