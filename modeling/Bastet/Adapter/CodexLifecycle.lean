import Bastet.Adapter.Value
import Bastet.Core.Json
import Bastet.Library.Fallible

/-! The lifecycle of a Codex turn: provider notifications and local events become numbered, normalized events. -/

set_option autoImplicit false

namespace Bastet.Codex

open Fallible Bastet.Core Bastet.Adapter

structure AppServerNotification where
  method : String
  params : Value

inductive LifecycleError where
  | protocolDrift
  | sequenceOverflow
  deriving DecidableEq, Repr

structure NormalizedCodexEvent where
  event : NormalizedAdapterEvent
  failure : Option AdapterFailure
  deriving DecidableEq, Repr

structure CodexEventNormalizer where
  runId : RunId
  nextSequence : Nat
  deriving DecidableEq, Repr

structure CodexRunStream where
  providerTurnId : String
  normalizer : CodexEventNormalizer
  terminal : Bool
  deriving DecidableEq, Repr

def turn (params : Value) : Except LifecycleError (List (String × Value)) :=
  okOr ((params.get "turn").bind Value.asObject) .protocolDrift

def requiredString (object : List (String × Value)) (key : String) : Except LifecycleError String :=
  okOr (((field object key).bind Value.asStr).filter fun value => !isBlank value) .protocolDrift

def failureCode (turn : List (String × Value)) : Option String := do
  let info ← (← field turn "error").get "codexErrorInfo"
  info.asStr.or ((info.get "type").bind Value.asStr)

def knownCode (providerCode : String) : Option String :=
  if providerCode ∈ ["ResponseStreamConnectionFailed", "ResponseStreamDisconnected", "ResponseTooManyFailedAttempts",
      "HttpConnectionFailed", "ContextWindowExceeded", "BadRequest", "Other"] then some providerCode
  else none

def mapFailure (providerCode : String) : AdapterFailureKind × Bool × Option String :=
  if providerCode = "Unauthorized" then (.authentication, false, some "Unauthorized")
  else if providerCode = "UsageLimitExceeded" then (.quota, true, some "UsageLimitExceeded")
  else if providerCode = "SandboxError" then (.permissionDenied, false, some "SandboxError")
  else if providerCode ∈ ["ResponseStreamConnectionFailed", "ResponseStreamDisconnected",
      "ResponseTooManyFailedAttempts", "HttpConnectionFailed"] then (.crashed, true, knownCode providerCode)
  else if providerCode = "InternalServerError" then (.crashed, true, some "InternalServerError")
  else if providerCode ∈ ["ContextWindowExceeded", "BadRequest", "Other"] then
    (.unknown, false, knownCode providerCode)
  else (.unknown, false, none)

def snakeCase (value : String) : String :=
  String.ofList (value.toList.zipIdx.flatMap fun (character, index) =>
    if character.isUpper ∧ 0 < index then ['_', character.toLower] else [character.toLower])

def failure (kind : AdapterFailureKind) (providerCode : Option String) (retryable : Bool) : AdapterFailure where
  kind := kind
  messageKey := match providerCode with
    | none => "codex.failure.unknown"
    | some code => "codex.failure." ++ snakeCase code
  retryable := retryable
  providerCode := providerCode
  redactedDetail := none

/-- An operation that gives an event, among those that may give none. -/
def always {State : Type} (answer : Except LifecycleError (NormalizedCodexEvent × State)) :
    Except LifecycleError (Option NormalizedCodexEvent × State) :=
  answer.map fun given => (some given.1, given.2)

theorem always_ok {State : Type} {answer : Except LifecycleError (NormalizedCodexEvent × State)}
    {given : Option NormalizedCodexEvent} {after : State} :
    always answer = .ok (given, after) ↔ ∃ event, given = some event ∧ answer = .ok (event, after) := by
  unfold always
  cases answer with
  | error => simp [Except.map]
  | ok answered =>
    obtain ⟨event, reached⟩ := answered
    simp only [Except.map, Except.ok.injEq, Prod.mk.injEq]
    constructor
    · rintro ⟨rfl, rfl⟩
      exact ⟨event, rfl, rfl, rfl⟩
    · rintro ⟨_, rfl, rfl, rfl⟩
      exact ⟨rfl, rfl⟩

namespace CodexEventNormalizer

variable [SerdeJson]

def new (runId : RunId) : CodexEventNormalizer :=
  ⟨runId, 1⟩

/-- The next event of the run, unless it has no time or the numbers are used up. -/
def event (self : CodexEventNormalizer) (state : NormalizedRunState) (eventType occurredAt : String)
    (evidenceClass : EvidenceClass) (providerEventId : Option String) (payload : Json)
    (failure : Option AdapterFailure) : Except LifecycleError (NormalizedCodexEvent × CodexEventNormalizer) := do
  rejectIf (isBlank occurredAt) .protocolDrift
  rejectIf (decide (2 ^ 64 ≤ self.nextSequence + 1)) .sequenceOverflow
  .ok ({ event :=
           { contractVersion := agentAdapterContractVersion
             runId := self.runId
             sequence := self.nextSequence
             state, eventType, occurredAt, evidenceClass, providerEventId
             redactedPayloadJson := SerdeJson.text payload }
         failure },
    { self with nextSequence := self.nextSequence + 1 })

def cancellationRequested (self : CodexEventNormalizer) (occurredAt : String) :
    Except LifecycleError (NormalizedCodexEvent × CodexEventNormalizer) :=
  self.event .cancelling "codex.turn_interrupt_requested" occurredAt .locallyMeasured none
    (.object [("status", .string "cancelling")]) none

def recoveryStarted (self : CodexEventNormalizer) (providerThreadId occurredAt : String) :
    Except LifecycleError (NormalizedCodexEvent × CodexEventNormalizer) := do
  rejectIf (isBlank providerThreadId) .protocolDrift
  self.event .recovering "codex.thread_resume_requested" occurredAt .locallyMeasured (some providerThreadId)
    (.object [("status", .string "recovering"), ("thread_id", .string providerThreadId)]) none

def turnStarted (self : CodexEventNormalizer) (params : Value) (occurredAt : String) :
    Except LifecycleError (NormalizedCodexEvent × CodexEventNormalizer) := do
  let turn ← turn params
  let turnId ← requiredString turn "id"
  let status ← requiredString turn "status"
  rejectIf (status != "inProgress") .protocolDrift
  self.event .running "codex.turn_started" occurredAt .providerReported (some turnId)
    (.object [("status", .string "running"), ("turn_id", .string turnId)]) none

/-- The state and failure of a completed turn. -/
def completion (turn : List (String × Value)) (providerStatus : String) :
    Except LifecycleError (NormalizedRunState × Option AdapterFailure) :=
  if providerStatus = "completed" then .ok (.succeeded, none)
  else if providerStatus = "interrupted" then
    .ok (.cancelled, some (Codex.failure .cancelled (some "Interrupted") false))
  else if providerStatus = "failed" then
    let (kind, retryable, safeProviderCode) := mapFailure ((failureCode turn).getD "Other")
    .ok (.failed, some (Codex.failure kind safeProviderCode retryable))
  else .error .protocolDrift

def turnCompleted (self : CodexEventNormalizer) (params : Value) (occurredAt : String) :
    Except LifecycleError (NormalizedCodexEvent × CodexEventNormalizer) := do
  let turn ← turn params
  let turnId ← requiredString turn "id"
  let providerStatus ← requiredString turn "status"
  let (state, failure) ← completion turn providerStatus
  self.event state "codex.turn_completed" occurredAt .providerReported (some turnId)
    (.object [("status", .string providerStatus), ("turn_id", .string turnId)]) failure

def normalizeNotification (self : CodexEventNormalizer) (method : String) (params : Value) (occurredAt : String) :
    Except LifecycleError (Option NormalizedCodexEvent × CodexEventNormalizer) :=
  if method = "turn/started" then always (self.turnStarted params occurredAt)
  else if method = "turn/completed" then
    always (self.turnCompleted params occurredAt)
  else .ok (none, self)

end CodexEventNormalizer

namespace CodexRunStream

variable [SerdeJson]

def new (runId : RunId) (providerTurnId : String) : Except LifecycleError CodexRunStream := do
  rejectIf (isBlank providerTurnId) .protocolDrift
  .ok ⟨providerTurnId, .new runId, false⟩

/-- A notification of another turn is ignored; one of this turn is refused once the turn has ended. -/
def ingest (self : CodexRunStream) (notification : AppServerNotification) (occurredAt : String) :
    Except LifecycleError (Option NormalizedCodexEvent × CodexRunStream) := do
  if notification.method ∉ ["turn/started", "turn/completed"] then return (none, self)
  let providerTurnId ← requiredString (← turn notification.params) "id"
  if providerTurnId ≠ self.providerTurnId then return (none, self)
  rejectIf self.terminal .protocolDrift
  let (event, normalizer) ← self.normalizer.normalizeNotification notification.method notification.params occurredAt
  return (event, { self with normalizer, terminal := notification.method == "turn/completed" || self.terminal })

def cancellationRequested (self : CodexRunStream) (occurredAt : String) :
    Except LifecycleError (NormalizedCodexEvent × CodexRunStream) := do
  rejectIf self.terminal .protocolDrift
  let (event, normalizer) ← self.normalizer.cancellationRequested occurredAt
  return (event, { self with normalizer })

def recoveryStarted (self : CodexRunStream) (providerThreadId occurredAt : String) :
    Except LifecycleError (NormalizedCodexEvent × CodexRunStream) := do
  rejectIf self.terminal .protocolDrift
  let (event, normalizer) ← self.normalizer.recoveryStarted providerThreadId occurredAt
  return (event, { self with normalizer })

/-- The stream ends without the provider. -/
def localTerminal (self : CodexRunStream) (state : NormalizedRunState) (eventType occurredAt : String)
    (failureKind : AdapterFailureKind) (messageKey : String) (retryable : Bool) :
    Except LifecycleError (NormalizedCodexEvent × CodexRunStream) := do
  rejectIf self.terminal .protocolDrift
  let (event, normalizer) ← self.normalizer.event state eventType occurredAt .locallyMeasured none
    (.object [("status", .string (asciiLowercase (debugText state)))])
    (some ⟨failureKind, messageKey, retryable, none, none⟩)
  return (event, { self with normalizer, terminal := true })

def deadlineExceeded (self : CodexRunStream) (occurredAt : String) :
    Except LifecycleError (NormalizedCodexEvent × CodexRunStream) :=
  self.localTerminal .failed "codex.deadline_exceeded" occurredAt .timeout "codex.failure.timeout" true

def transportLost (self : CodexRunStream) (occurredAt : String) :
    Except LifecycleError (NormalizedCodexEvent × CodexRunStream) :=
  self.localTerminal .uncertain "codex.transport_lost" occurredAt .crashed "codex.failure.transport_lost" true

end CodexRunStream

/-- What a stream is given: a notification, or an event of its own side. -/
inductive StreamInput where
  | ingest (notification : AppServerNotification) (occurredAt : String)
  | cancellationRequested (occurredAt : String)
  | recoveryStarted (providerThreadId occurredAt : String)
  | deadlineExceeded (occurredAt : String)
  | transportLost (occurredAt : String)

namespace CodexRunStream

variable [SerdeJson]

def feed (self : CodexRunStream) : StreamInput → Except LifecycleError (Option NormalizedCodexEvent × CodexRunStream)
  | .ingest notification occurredAt => self.ingest notification occurredAt
  | .cancellationRequested occurredAt =>
    always (self.cancellationRequested occurredAt)
  | .recoveryStarted providerThreadId occurredAt =>
    always (self.recoveryStarted providerThreadId occurredAt)
  | .deadlineExceeded occurredAt => always (self.deadlineExceeded occurredAt)
  | .transportLost occurredAt => always (self.transportLost occurredAt)

/-- A refused input leaves the stream as it was. -/
def next (self : CodexRunStream) (input : StreamInput) : CodexRunStream × Option NormalizedCodexEvent :=
  match self.feed input with
  | .ok (event, after) => (after, event)
  | .error _ => (self, none)

end CodexRunStream

end Bastet.Codex
