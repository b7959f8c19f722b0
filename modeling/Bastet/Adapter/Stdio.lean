import Bastet.Adapter.CodexTracker
import Bastet.Core.ProcessQueue

/-! The JSON-RPC transport of the Codex app server. Each iteration of its receiving loops is one turn: what the
clock, the cancellation token and the queue of the process's output say in it comes from outside. -/

set_option autoImplicit false

namespace Bastet.Codex

open Fallible Bastet.Core Bastet.Adapter

inductive TransportError where
  | cancelled
  | unavailable
  | timedOut
  | protocolDrift
  | remoteRejected (code : Int) (retryable : Bool)
  deriving DecidableEq, Repr

/-- The text `serde_json` writes for a value. -/
class WriteJson where
  text : Value → String

def maxInputFrameBytes : Nat := 8 * 1024 * 1024

/-- `encode_json_line(value)`: the length of the frame, unless it is too long. -/
def encodeJsonLine [WriteJson] (value : Value) : Except TransportError Nat :=
  if byteLength (WriteJson.text value) + 1 ≤ maxInputFrameBytes then .ok (byteLength (WriteJson.text value) + 1)
  else .error .protocolDrift

def decodeNotification (message : Value) : Except TransportError AppServerNotification := do
  rejectIf (message.get "id").isSome .protocolDrift
  let method ← okOr (((message.get "method").bind Value.asStr).filter fun value => !isBlank value) .protocolDrift
  let params ← okOr (message.get "params") .protocolDrift
  return ⟨method, params⟩

inductive ResponseDisposition where
  | notification (notification : AppServerNotification)
  | result (value : Value)

def decodeResponse (message : Value) (expectedId : Nat) : Except TransportError ResponseDisposition :=
  match message.get "id" with
  | none => (decodeNotification message).map .notification
  | some id => do
    rejectIf (id.asU64 != some expectedId) .protocolDrift
    match message.get "error" with
    | some error =>
      let code ← okOr ((error.get "code").bind Value.asI64) .protocolDrift
      rejectIf (((error.get "message").bind Value.asStr).all String.isEmpty) .protocolDrift
      .error (.remoteRejected code (code == -32001))
    | none => (okOr (message.get "result") .protocolDrift).map .result

structure PendingNotifications where
  items : List (AppServerNotification × Nat)
  bytes : Nat

namespace PendingNotifications

def popFront (self : PendingNotifications) : Option (AppServerNotification × PendingNotifications) :=
  match self.items with
  | [] => none
  | (notification, bytes) :: rest => some (notification, ⟨rest, fetchSub self.bytes bytes⟩)

end PendingNotifications

/-- A message that arrives while a request waits: a notification is queued, within limits. -/
def routeRequestMessage [WriteJson] (message : Value) (expectedId : Nat) (pending : PendingNotifications) :
    Except TransportError (Option Value × PendingNotifications) := do
  let bytes ← encodeJsonLine message
  match ← decodeResponse message expectedId with
  | .notification notification =>
    rejectIf (decide (outputQueueItems ≤ pending.items.length) ||
      decide (outputQueueBytes - pending.bytes < bytes)) .protocolDrift
    return (none, ⟨pending.items ++ [(notification, bytes)], pending.bytes + bytes⟩)
  | .result result => return (some result, pending)

structure StdioTransport where
  outputFailed : Bool
  stdinOpen : Bool
  pendingNotifications : PendingNotifications
  nextRequestId : Nat
  timeout : Nat
  notificationDeadline : Option Nat
  abandonedRequestIds : List Nat

/-- What a check of the transport meets: the token, the queue's flag, and whether a forced close works. -/
structure Surroundings where
  now : Nat
  cancelled : Bool
  queueFailed : Bool
  closes : Bool
  deriving DecidableEq, Repr

/-- What the queue of the process's output gives within one wait; a line that cannot be read or is no JSON ends
it, and after the end the transport is checked once more. -/
inductive Received where
  | message (value : Value)
  | unreadable
  | malformed
  | quiet
  | disconnected (surroundings : Surroundings)

/-- How a write of a frame fails. -/
inductive WriteFailure where
  | interrupted
  | timedOut
  | other
  deriving DecidableEq, Repr

/-- A write of a frame, with the cancellation seen after a failure. -/
inductive Written where
  | delivered
  | failed (kind : WriteFailure) (cancelled : Bool)
  deriving DecidableEq, Repr

def WriteFailure.error (cancelled : Bool) : WriteFailure → TransportError
  | .interrupted => if cancelled then .cancelled else .unavailable
  | .timedOut => .timedOut
  | .other => .unavailable

namespace StdioTransport

def spawned (timeout : Nat) : StdioTransport :=
  ⟨false, true, ⟨[], 0⟩, 0, timeout, none, []⟩

/-- `close_with_grace`, and the error reported when it works. -/
def close (self : StdioTransport) (closes : Bool) (error : TransportError) : TransportError × StdioTransport :=
  (if closes then error else .unavailable, { self with stdinOpen := false })

def checkCancelled (self : StdioTransport) (surroundings : Surroundings) :
    Except TransportError Unit × StdioTransport :=
  if self.outputFailed ∨ surroundings.queueFailed then
    (.error (self.close surroundings.closes .unavailable).1, (self.close surroundings.closes .unavailable).2)
  else if surroundings.cancelled then
    (.error (self.close surroundings.closes .cancelled).1, (self.close surroundings.closes .cancelled).2)
  else (.ok (), self)

/-- A frame that is not delivered whole closes the transport. -/
def writeMessage [WriteJson] (self : StdioTransport) (message : Value) (surroundings : Surroundings)
    (written : Written) : Except TransportError Unit × StdioTransport :=
  match self.checkCancelled surroundings with
  | (.error error, after) => (.error error, after)
  | (.ok (), after) =>
    match encodeJsonLine message with
    | .error error => (.error error, after)
    | .ok _ =>
      if !after.stdinOpen then (.error .unavailable, after)
      else match written with
        | .delivered => (.ok (), after)
        | .failed kind cancelled =>
          let error := kind.error cancelled
          (.error (after.close surroundings.closes error).1, (after.close surroundings.closes error).2)

def maxAbandonedRequests : Nat := 64

def rememberAbandonedRequest (self : StdioTransport) (requestId : Nat) : StdioTransport :=
  let known := if self.abandonedRequestIds.length = maxAbandonedRequests then self.abandonedRequestIds.tail
    else self.abandonedRequestIds
  { self with abandonedRequestIds := known ++ [requestId] }

/-- A reply to an abandoned request is dropped, once. -/
def discardAbandonedResponse (self : StdioTransport) (message : Value) : Option StdioTransport :=
  match (message.get "id").bind Value.asU64 with
  | none => none
  | some id =>
    if id ∈ self.abandonedRequestIds then some { self with abandonedRequestIds := self.abandonedRequestIds.erase id }
    else none

end StdioTransport

/-- What the transport is doing: nothing, waiting for the reply to a request, or watching for a notification. -/
inductive Activity where
  | idle
  | requesting (requestId deadline : Nat) (abandonOnTimeout : Bool)
  | polling (observationDeadline inactivityDeadline : Nat)
  deriving DecidableEq, Repr

/-- The transport with what it is doing, the messages it has taken, the notifications it has delivered and how its
requests ended. -/
structure StdioSession where
  transport : StdioTransport
  activity : Activity
  taken : List Value
  delivered : List AppServerNotification
  answers : List (Nat × Except TransportError Value)
  polled : List (Except TransportError (Option AppServerNotification))

/-- A call of the transport, or one iteration of the loop of the call under way. -/
inductive SessionAction where
  | request (method : String) (params : Value) (maxWait : Nat) (abandonOnTimeout : Bool) (surroundings : Surroundings)
      (written : Written)
  | notify (method : String) (params : Value) (surroundings : Surroundings) (written : Written)
  | poll (maxWait : Nat) (surroundings : Surroundings)
  | turn (surroundings : Surroundings) (received : Received) (later : Nat)

namespace StdioSession

def opened (timeout : Nat) : StdioSession :=
  ⟨.spawned timeout, .idle, [], [], [], []⟩

variable [WriteJson]

def answer (self : StdioSession) (requestId : Nat) (result : Except TransportError Value) : StdioSession :=
  { self with activity := .idle, answers := self.answers ++ [(requestId, result)] }

def report (self : StdioSession) (result : Except TransportError (Option AppServerNotification)) : StdioSession :=
  { self with
    activity := .idle
    polled := self.polled ++ [result]
    delivered := self.delivered ++ (result.toOption.join).toList }

/-- `request_inner` up to its loop. Once the numbers are used up a request is refused without one. -/
def request (self : StdioSession) (method : String) (params : Value) (maxWait : Nat) (abandonOnTimeout : Bool)
    (surroundings : Surroundings) (written : Written) : StdioSession :=
  let requestId := self.transport.nextRequestId
  if 2 ^ 64 ≤ requestId + 1 then self
  else
    let numbered := { self.transport with nextRequestId := requestId + 1 }
    let message := .object [("method", .string method), ("id", .number (.posInt (UInt64.ofNat requestId))),
      ("params", params)]
    match numbered.writeMessage message surroundings written with
    | (.error error, transport) => { self with transport }.answer requestId (.error error)
    | (.ok (), transport) =>
      { self with transport, activity := .requesting requestId (surroundings.now + maxWait) abandonOnTimeout }

def notify (self : StdioSession) (method : String) (params : Value) (surroundings : Surroundings)
    (written : Written) : StdioSession :=
  { self with transport :=
      (self.transport.writeMessage (.object [("method", .string method), ("params", params)]) surroundings written).2 }

/-- A request that ends with an error of the transport; one given up is remembered. -/
def stopRequest (self : StdioSession) (requestId : Nat) (abandonOnTimeout : Bool) (error : TransportError) :
    StdioSession :=
  if error = .timedOut ∧ abandonOnTimeout then
    { self with transport := self.transport.rememberAbandonedRequest requestId }.answer requestId (.error .timedOut)
  else self.answer requestId (.error error)

/-- A message on which a request waits: dropped, routed to its place, or the end of the transport. -/
def routeMessage (self : StdioSession) (requestId : Nat) (surroundings : Surroundings) (message : Value) :
    StdioSession :=
  match self.transport.discardAbandonedResponse message with
  | some transport => { self with transport }
  | none =>
    match routeRequestMessage message requestId self.transport.pendingNotifications with
    | .error error =>
      let failed := { self.transport with outputFailed := true }
      { self with transport := (failed.close surroundings.closes error).2 }.answer requestId
        (.error (failed.close surroundings.closes error).1)
    | .ok (none, pendingNotifications) => { self with transport := { self.transport with pendingNotifications } }
    | .ok (some result, pendingNotifications) =>
      { self with transport := { self.transport with pendingNotifications } }.answer requestId (.ok result)

/-- One iteration of the loop of a request, with that of `receive_message`. -/
def requestTurn (self : StdioSession) (requestId deadline : Nat) (abandonOnTimeout : Bool)
    (surroundings : Surroundings) (received : Received) (later : Nat) : StdioSession :=
  match self.transport.checkCancelled surroundings with
  | (.error error, transport) => { self with transport }.stopRequest requestId abandonOnTimeout error
  | (.ok (), _) =>
    if deadline < surroundings.now then self.stopRequest requestId abandonOnTimeout .timedOut
    else match received with
      | .quiet => self
      | .unreadable => self.stopRequest requestId abandonOnTimeout .unavailable
      | .malformed => self.stopRequest requestId abandonOnTimeout .protocolDrift
      | .disconnected surroundings =>
        match self.transport.checkCancelled surroundings with
        | (.error error, transport) => { self with transport }.stopRequest requestId abandonOnTimeout error
        | (.ok (), _) => self.stopRequest requestId abandonOnTimeout .unavailable
      | .message message =>
        { self with
          transport := { self.transport with notificationDeadline := some (later + self.transport.timeout) }
          taken := self.taken ++ [message] }.routeMessage requestId surroundings message

/-- `poll_notification` up to its loop: what is pending comes first. -/
def poll (self : StdioSession) (maxWait : Nat) (surroundings : Surroundings) : StdioSession :=
  match self.transport.checkCancelled surroundings with
  | (.error error, transport) => { self with transport }.report (.error error)
  | (.ok (), _) =>
    match self.transport.pendingNotifications.popFront with
    | some (notification, pendingNotifications) =>
      { self with transport :=
          { self.transport with
            pendingNotifications
            notificationDeadline := some (surroundings.now + self.transport.timeout) } }.report
        (.ok (some notification))
    | none =>
      let inactivityDeadline := self.transport.notificationDeadline.getD (surroundings.now + self.transport.timeout)
      let watching :=
        { self with transport := { self.transport with notificationDeadline := some inactivityDeadline } }
      if inactivityDeadline ≤ surroundings.now then watching.report (.error .timedOut)
      else { watching with activity := .polling (surroundings.now + maxWait) inactivityDeadline }

/-- A poll that goes on, unless one of its deadlines has passed. -/
def observe (self : StdioSession) (observationDeadline inactivityDeadline later : Nat) : StdioSession :=
  if inactivityDeadline ≤ later then self.report (.error .timedOut)
  else if observationDeadline ≤ later then self.report (.ok none)
  else self

/-- One iteration of the loop of a poll. -/
def pollTurn (self : StdioSession) (observationDeadline inactivityDeadline : Nat) (surroundings : Surroundings)
    (received : Received) (later : Nat) : StdioSession :=
  match self.transport.checkCancelled surroundings with
  | (.error error, transport) => { self with transport }.report (.error error)
  | (.ok (), _) =>
    match received with
    | .quiet => self.observe observationDeadline inactivityDeadline later
    | .unreadable => self.report (.error .unavailable)
    | .malformed => self.report (.error .protocolDrift)
    | .disconnected surroundings =>
      match self.transport.checkCancelled surroundings with
      | (.error error, transport) => { self with transport }.report (.error error)
      | (.ok (), _) => self.report (.error .unavailable)
    | .message message =>
      let seen := { self with taken := self.taken ++ [message] }
      match self.transport.discardAbandonedResponse message with
      | some transport => { seen with transport }.observe observationDeadline inactivityDeadline later
      | none =>
        { seen with transport :=
            { self.transport with notificationDeadline := some (later + self.transport.timeout) } }.report
          ((decodeNotification message).map some)

/-- One action; a call cannot begin while another is under way, and a turn needs one. -/
def next (self : StdioSession) : SessionAction → StdioSession
  | .request method params maxWait abandonOnTimeout surroundings written => match self.activity with
    | .idle => self.request method params maxWait abandonOnTimeout surroundings written
    | .requesting _ _ _ | .polling _ _ => self
  | .notify method params surroundings written => match self.activity with
    | .idle => self.notify method params surroundings written
    | .requesting _ _ _ | .polling _ _ => self
  | .poll maxWait surroundings => match self.activity with
    | .idle => self.poll maxWait surroundings
    | .requesting _ _ _ | .polling _ _ => self
  | .turn surroundings received later => match self.activity with
    | .idle => self
    | .requesting requestId deadline abandonOnTimeout =>
      self.requestTurn requestId deadline abandonOnTimeout surroundings received later
    | .polling observationDeadline inactivityDeadline =>
      self.pollTurn observationDeadline inactivityDeadline surroundings received later

end StdioSession

end Bastet.Codex
