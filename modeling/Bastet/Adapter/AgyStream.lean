import Bastet.Adapter.Value
import Bastet.Core.Json
import Bastet.Library.Fallible

/-! The stream of an Agy run: the lines of its process and local events become normalized updates. An input that
is refused may still have changed the stream. -/

set_option autoImplicit false

namespace Bastet.Agy

open Fallible Bastet.Core Bastet.Adapter

inductive AgyRunUpdate where
  | lifecycle (event : NormalizedAdapterEvent) (failure : Option AdapterFailure)
  | cost (evidence : CostEvidence)
  | writeReceipt (receipt : String)
  deriving DecidableEq, Repr

inductive AgyStreamError where
  | protocolDrift
  | closed
  deriving DecidableEq, Repr

structure AgyRunStream where
  runId : RunId
  sequence : Nat
  conversationId : Option String
  expectedConversationId : Option String
  initialized : Bool
  closed : Bool
  finalOutput : String
  finalOutputOverflowed : Bool
  deriving DecidableEq, Repr

def adapterProvider : String := "agy_cli"
def maxFinalOutputBytes : Nat := 256 * 1024

def requiredTextValue (value : Option Value) : Except AgyStreamError String :=
  okOr ((value.bind Value.asStr).filter fun text => !isBlank text) .protocolDrift

def requiredText (value : Value) (key : String) : Except AgyStreamError String :=
  requiredTextValue (value.get key)

def requiredU64 (value : Option Value) : Except AgyStreamError Nat :=
  okOr (value.bind Value.asU64) .protocolDrift

def parseUsage (value : Value) : Except AgyStreamError CostEvidence := do
  let usage ← okOr value.asObject .protocolDrift
  let inputTokens ← requiredU64 (field usage "input_tokens")
  let outputTokens ← requiredU64 (field usage "output_tokens")
  let _ ← requiredU64 (field usage "thinking_tokens")
  let _ ← requiredU64 (field usage "cache_read_tokens")
  let totalTokens ← requiredU64 (field usage "total_tokens")
  rejectIf (decide (2 ^ 64 ≤ inputTokens + outputTokens) || decide (totalTokens < inputTokens + outputTokens))
    .protocolDrift
  return ⟨.providerReported, none, none, some inputTokens, some outputTokens, .finite 1⟩

def classifyError (error : Option String) : AdapterFailureKind :=
  match error with
  | none => .unknown
  | some error =>
    let lower := asciiLowercase error
    if containsText lower "not logged in" || containsText lower "authentication" ||
        containsText lower "unauthorized" then .authentication
    else if containsText lower "quota" || containsText lower "rate limit" then .quota
    else if containsText lower "timed out" || containsText lower "timeout" then .timeout
    else if containsText lower "permission" then .permissionDenied
    else .unknown

namespace AgyRunStream

def new (runId : RunId) : AgyRunStream :=
  ⟨runId, 0, none, none, false, false, "", false⟩

def resuming (runId : RunId) (conversationId : String) : Except AgyStreamError AgyRunStream := do
  rejectIf (isBlank conversationId) .protocolDrift
  return { new runId with expectedConversationId := some conversationId }

section Lifecycle

variable [SerdeJson]

/-- The next event of the run, unless it has no time or the numbers are used up. -/
def lifecycleWithEvidence (self : AgyRunStream) (state : NormalizedRunState) (eventType occurredAt : String)
    (failure : Option AdapterFailure) (evidenceClass : EvidenceClass) :
    Except AgyStreamError AgyRunUpdate × AgyRunStream :=
  if isBlank occurredAt ∨ 2 ^ 64 ≤ self.sequence + 1 then (.error .protocolDrift, self)
  else
    (.ok (.lifecycle
      { contractVersion := agentAdapterContractVersion
        runId := self.runId
        sequence := self.sequence + 1
        state, eventType, occurredAt, evidenceClass
        providerEventId := none
        redactedPayloadJson := SerdeJson.text (.object [("provider", .string adapterProvider)]) } failure),
      { self with sequence := self.sequence + 1 })

def lifecycle (self : AgyRunStream) (state : NormalizedRunState) (eventType occurredAt : String)
    (failure : Option AdapterFailure) : Except AgyStreamError AgyRunUpdate × AgyRunStream :=
  self.lifecycleWithEvidence state eventType occurredAt failure .providerReported

def recoveryStarted (self : AgyRunStream) (occurredAt : String) : Except AgyStreamError AgyRunUpdate × AgyRunStream :=
  if self.expectedConversationId.isNone ∨ self.initialized ∨ self.closed then (.error .protocolDrift, self)
  else self.lifecycleWithEvidence .recovering "run.recovering" occurredAt none .locallyMeasured

def cancellationStarted (self : AgyRunStream) (occurredAt : String) :
    Except AgyStreamError AgyRunUpdate × AgyRunStream :=
  if !self.initialized ∨ self.closed then (.error .protocolDrift, self)
  else self.lifecycleWithEvidence .cancelling "run.cancelling" occurredAt none .locallyMeasured

/-- The stream closes without the provider, also when its event is refused. -/
def localTerminal (self : AgyRunStream) (state : NormalizedRunState) (eventType : String) (kind : AdapterFailureKind)
    (messageKey occurredAt : String) : Except AgyStreamError AgyRunUpdate × AgyRunStream :=
  if self.closed then (.error .closed, self)
  else { self with closed := true }.lifecycleWithEvidence state eventType occurredAt
    (some ⟨kind, messageKey, decide (kind = AdapterFailureKind.crashed), none, none⟩) .locallyMeasured

def cancelled (self : AgyRunStream) (occurredAt : String) : Except AgyStreamError AgyRunUpdate × AgyRunStream :=
  self.localTerminal .cancelled "run.cancelled" .cancelled "adapter.agy.cancelled" occurredAt

def timedOut (self : AgyRunStream) (occurredAt : String) : Except AgyStreamError AgyRunUpdate × AgyRunStream :=
  self.localTerminal .failed "run.timed_out" .timeout "adapter.agy.timed_out" occurredAt

def crashed (self : AgyRunStream) (occurredAt : String) : Except AgyStreamError AgyRunUpdate × AgyRunStream :=
  self.localTerminal .uncertain "run.crashed" .crashed "adapter.agy.crashed" occurredAt

def consumeInit (self : AgyRunStream) (value : Value) (occurredAt : String) :
    Except AgyStreamError AgyRunUpdate × AgyRunStream :=
  if self.initialized then (.error .protocolDrift, self)
  else match requiredText value "conversation_id" with
    | .error error => (.error error, self)
    | .ok conversationId =>
      if self.expectedConversationId.any fun expected => expected != conversationId then (.error .protocolDrift, self)
      else { self with conversationId := some conversationId, initialized := true }.lifecycle
        .running "run.started" occurredAt none

end Lifecycle

def requireMatchingConversation (self : AgyRunStream) (actual : Option Value) : Except AgyStreamError Unit := do
  let expected ← okOr self.conversationId .protocolDrift
  let text ← requiredTextValue actual
  rejectIf (text != expected) .protocolDrift

/-- The output collected so far and the text of a response, or nothing more once they exceed the limit. -/
def collect (self : AgyRunStream) (text : String) : AgyRunStream :=
  if self.finalOutputOverflowed then self
  else match appendIfWithinLimit self.finalOutput text maxFinalOutputBytes with
    | some output => { self with finalOutput := output }
    | none => { self with finalOutput := "", finalOutputOverflowed := true }

def collectResponse (self : AgyRunStream) (update : List (String × Value)) : AgyRunStream :=
  if (field update "step_type").bind Value.asStr = some "agent_response" then
    match (field update "text_delta").bind Value.asStr with
    | some text => self.collect text
    | none => self
  else self

def consumeStep (self : AgyRunStream) (value : Value) :
    Except AgyStreamError (Option AgyRunUpdate) × AgyRunStream :=
  match (value.get "step_update").bind Value.asObject with
  | none => (.error .protocolDrift, self)
  | some update =>
    match self.requireMatchingConversation (field update "conversation_id") with
    | .error error => (.error error, self)
    | .ok () =>
      match field update "usage" with
      | none => (.ok none, self.collectResponse update)
      | some usage => ((parseUsage usage).map fun cost => some (.cost cost), self.collectResponse update)

/-- The state, event and failure of a result with a status. -/
def verdict (self : AgyRunStream) (result : List (String × Value)) (status : String) :
    Except AgyStreamError (NormalizedRunState × String × Option AdapterFailure) :=
  if status = "SUCCESS" then
    if self.finalOutput.isEmpty ∧
        ((field result "denied_actions").bind Value.asArray).any (fun actions => !actions.isEmpty) then
      .ok (.failed, "run.failed", some ⟨.permissionDenied, "adapter.agy.permission_denied", false, none, none⟩)
    else .ok (.succeeded, "run.succeeded", none)
  else if status = "ERROR" then
    let kind := classifyError ((field result "error").bind Value.asStr)
    let retryable := decide (kind ∈ [AdapterFailureKind.quota, .timeout])
    .ok (.failed, "run.failed", some ⟨kind, "adapter.agy.failed", retryable, none, none⟩)
  else if status = "CANCELED" ∨ status = "INTERRUPTED" then
    .ok (.cancelled, "run.cancelled", some ⟨.cancelled, "adapter.agy.cancelled", false, none, none⟩)
  else if status = "INVALID" then
    .ok (.failed, "run.failed", some ⟨.malformedOutput, "adapter.agy.invalid_state", false, none, none⟩)
  else if status = "WAITING" then .ok (.blocked, "run.blocked", none)
  else if status = "RUNNING" then .ok (.uncertain, "run.uncertain", none)
  else .error .protocolDrift

/-- A result is read before the stream changes. -/
def readResult (self : AgyRunStream) (value : Value) :
    Except AgyStreamError (NormalizedRunState × String × Option AdapterFailure) := do
  let result ← okOr ((value.get "result").bind Value.asObject) .protocolDrift
  let status ← requiredTextValue (field result "status")
  match self.conversationId with
  | some expected =>
    let actual ← requiredTextValue (field result "conversation_id")
    rejectIf (actual != expected) .protocolDrift
  | none => rejectIf (status != "ERROR") .protocolDrift
  self.verdict result status

variable [SerdeJson]

def consumeResult (self : AgyRunStream) (value : Value) (occurredAt : String) :
    Except AgyStreamError AgyRunUpdate × AgyRunStream :=
  match self.readResult value with
  | .error error => (.error error, self)
  | .ok (state, eventType, failure) => { self with closed := true }.lifecycle state eventType occurredAt failure

def always (answer : Except AgyStreamError AgyRunUpdate × AgyRunStream) :
    Except AgyStreamError (Option AgyRunUpdate) × AgyRunStream :=
  (answer.1.map some, answer.2)

variable [ReadJson]

def consumeLine (self : AgyRunStream) (line occurredAt : String) :
    Except AgyStreamError (Option AgyRunUpdate) × AgyRunStream :=
  if self.closed then (.error .closed, self)
  else match ReadJson.fromStr line with
    | none => (.error .protocolDrift, self)
    | some value =>
      if (value.get "event").bind Value.asStr = some "init" then always (self.consumeInit value occurredAt)
      else if (value.get "event").bind Value.asStr = some "step_update" then self.consumeStep value
      else if (value.get "event").bind Value.asStr = some "result" then always (self.consumeResult value occurredAt)
      else (.error .protocolDrift, self)

end AgyRunStream

/-- What a stream is given: a line of the process, or an event of its own side. -/
inductive StreamInput where
  | recoveryStarted (occurredAt : String)
  | cancellationStarted (occurredAt : String)
  | cancelled (occurredAt : String)
  | timedOut (occurredAt : String)
  | crashed (occurredAt : String)
  | consumeLine (line occurredAt : String)
  deriving DecidableEq, Repr

namespace AgyRunStream

variable [SerdeJson] [ReadJson]

def feed (self : AgyRunStream) : StreamInput → Except AgyStreamError (Option AgyRunUpdate) × AgyRunStream
  | .recoveryStarted occurredAt => always (self.recoveryStarted occurredAt)
  | .cancellationStarted occurredAt => always (self.cancellationStarted occurredAt)
  | .cancelled occurredAt => always (self.cancelled occurredAt)
  | .timedOut occurredAt => always (self.timedOut occurredAt)
  | .crashed occurredAt => always (self.crashed occurredAt)
  | .consumeLine line occurredAt => self.consumeLine line occurredAt

def next (self : AgyRunStream) (input : StreamInput) : AgyRunStream × Option AgyRunUpdate :=
  ((self.feed input).2, (self.feed input).1.toOption.join)

end AgyRunStream

end Bastet.Agy
