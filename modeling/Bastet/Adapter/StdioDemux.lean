import Mathlib.Algebra.Order.BigOperators.Group.List
import Mathlib.Algebra.Order.Ring.Nat
import Bastet.Adapter.Stdio
import Bastet.Library.Machine

/-! Replies and notifications on one transport: what holds in every order of requests, polls and messages. -/

set_option autoImplicit false

namespace Bastet.Codex

open Fallible Bastet.Core Bastet.Adapter

/-- The notifications among the messages taken from the wire, in their order. -/
def notifications (taken : List Value) : List AppServerNotification :=
  taken.filterMap fun message => (decodeNotification message).toOption

/-- The request a message names. -/
def replyId (message : Value) : Option Nat :=
  (message.get "id").bind Value.asU64

/-- A result or a remote error of a request is that of a message with its number. -/
def Carried (taken : List Value) (requestId : Nat) : Except TransportError Value → Prop
  | .ok result => ∃ message ∈ taken, replyId message = some requestId ∧ message.get "result" = some result
  | .error (.remoteRejected code _) => ∃ message ∈ taken, replyId message = some requestId ∧
      ∃ error, message.get "error" = some error ∧ (error.get "code").bind Value.asI64 = some code
  | .error .cancelled | .error .unavailable | .error .timedOut | .error .protocolDrift => True

/-- An error the transport itself reports. -/
def TransportError.isLocal : TransportError → Bool
  | .remoteRejected _ _ => false
  | .cancelled | .unavailable | .timedOut | .protocolDrift => true

theorem Carried.of_local {taken : List Value} {requestId : Nat} {error : TransportError}
    (own : error.isLocal = true) : Carried taken requestId (.error error) := by
  cases error with
  | remoteRejected => cases own
  | cancelled | unavailable | timedOut | protocolDrift => trivial

theorem Carried.more {taken : List Value} {requestId : Nat} {result : Except TransportError Value}
    (carried : Carried taken requestId result) (message : Value) : Carried (taken ++ [message]) requestId result := by
  cases result with
  | ok value =>
    obtain ⟨reply, member, named⟩ := carried
    exact ⟨reply, List.mem_append_left _ member, named⟩
  | error error =>
    cases error with
    | remoteRejected code retryable =>
      obtain ⟨reply, member, named⟩ := carried
      exact ⟨reply, List.mem_append_left _ member, named⟩
    | cancelled | unavailable | timedOut | protocolDrift => trivial

theorem notifications_append (taken : List Value) (message : Value) :
    notifications (taken ++ [message]) = notifications taken ++ (decodeNotification message).toOption.toList := by
  unfold notifications
  rw [List.filterMap_append, List.filterMap_cons, List.filterMap_nil]
  cases (decodeNotification message).toOption <;> rfl

/-- A message with a number is no notification. -/
theorem decodeNotification_reply {message id : Value} (numbered : message.get "id" = some id) :
    (decodeNotification message).toOption = none := by
  unfold decodeNotification
  rw [numbered]
  rfl

section Responses

variable {message : Value} {expectedId : Nat}

theorem decodeNotification_local {error : TransportError} (refused : decodeNotification message = .error error) :
    error.isLocal = true := by
  unfold decodeNotification at refused
  cases numbered : (message.get "id").isSome with
  | true => rw [numbered] at refused; cases refused; rfl
  | false =>
    rw [numbered] at refused
    cases named : ((message.get "method").bind Value.asStr).filter fun value => !isBlank value with
    | none => rw [named] at refused; cases refused; rfl
    | some method =>
      rw [named] at refused
      cases carried : message.get "params" with
      | none => rw [carried] at refused; cases refused; rfl
      | some params => rw [carried] at refused; cases refused

/-- A decoded response is a notification, or the result of the message with the expected number. -/
theorem decodeResponse_ok {disposition : ResponseDisposition}
    (decoded : decodeResponse message expectedId = .ok disposition) :
    (∃ notification, disposition = .notification notification ∧ decodeNotification message = .ok notification) ∨
    (∃ result, disposition = .result result ∧ replyId message = some expectedId ∧
      message.get "result" = some result) := by
  unfold decodeResponse at decoded
  cases numbered : message.get "id" with
  | none =>
    rw [numbered] at decoded
    cases read : decodeNotification message with
    | error => rw [read] at decoded; cases decoded
    | ok notification =>
      rw [read] at decoded
      cases decoded
      exact .inl ⟨notification, rfl, rfl⟩
  | some id =>
    rw [numbered] at decoded
    simp only [bind_ok, rejectIf_ok, exists_unit, bne_eq_false_iff_eq] at decoded
    obtain ⟨own, rest⟩ := decoded
    have named : replyId message = some expectedId := by
      unfold replyId
      rw [numbered]
      exact own
    cases failed : message.get "error" with
    | some error =>
      rw [failed] at rest
      simp only [bind_ok] at rest
      obtain ⟨_, _, _, _, impossible⟩ := rest
      cases impossible
    | none =>
      rw [failed] at rest
      cases carried : message.get "result" with
      | none => rw [carried] at rest; cases rest
      | some result =>
        rw [carried] at rest
        cases rest
        exact .inr ⟨result, rfl, named, rfl⟩

/-- A remote error is that of the message with the expected number. -/
theorem decodeResponse_rejected {error : TransportError}
    (refused : decodeResponse message expectedId = .error error) :
    error.isLocal = true ∨ ∃ code retryable, error = .remoteRejected code retryable ∧
      replyId message = some expectedId ∧
      ∃ rejected, message.get "error" = some rejected ∧ (rejected.get "code").bind Value.asI64 = some code := by
  unfold decodeResponse at refused
  cases numbered : message.get "id" with
  | none =>
    rw [numbered] at refused
    cases read : decodeNotification message with
    | error reason =>
      rw [read] at refused
      cases refused
      exact .inl (decodeNotification_local read)
    | ok notification => rw [read] at refused; cases refused
  | some id =>
    rw [numbered] at refused
    dsimp only at refused
    cases own : id.asU64 != some expectedId with
    | true => rw [own] at refused; cases refused; exact .inl rfl
    | false =>
      have named : replyId message = some expectedId := by
        unfold replyId
        rw [numbered]
        simpa using own
      rw [own] at refused
      cases failed : message.get "error" with
      | none =>
        rw [failed] at refused
        cases carried : message.get "result" with
        | none => rw [carried] at refused; cases refused; exact .inl rfl
        | some result => rw [carried] at refused; cases refused
      | some rejected =>
        rw [failed] at refused
        change (okOr ((rejected.get "code").bind Value.asI64) TransportError.protocolDrift >>= fun code => _) = _
          at refused
        cases coded : (rejected.get "code").bind Value.asI64 with
        | none => rw [coded] at refused; cases refused; exact .inl rfl
        | some code =>
          rw [coded] at refused
          cases empty : ((rejected.get "message").bind Value.asStr).all String.isEmpty with
          | true => rw [empty] at refused; cases refused; exact .inl rfl
          | false =>
            rw [empty] at refused
            cases refused
            exact .inr ⟨code, _, rfl, named, rejected, rfl, coded⟩

variable [WriteJson] {pending after : PendingNotifications}

theorem encodeJsonLine_local {error : TransportError} (refused : encodeJsonLine message = .error error) :
    error.isLocal = true := by
  unfold encodeJsonLine at refused
  split at refused <;> cases refused
  rfl

/-- A message that ends no request is a notification that there is room for. -/
theorem routeRequestMessage_none (routed : routeRequestMessage message expectedId pending = .ok (none, after)) :
    ∃ notification bytes, decodeNotification message = .ok notification ∧ pending.items.length < outputQueueItems ∧
      bytes ≤ outputQueueBytes - pending.bytes ∧
      after = ⟨pending.items ++ [(notification, bytes)], pending.bytes + bytes⟩ := by
  unfold routeRequestMessage at routed
  simp only [bind_ok] at routed
  obtain ⟨bytes, _, disposition, decoded, rest⟩ := routed
  rcases decodeResponse_ok decoded with ⟨notification, rfl, read⟩ | ⟨result, rfl, _⟩
  · simp only [bind_ok, rejectIf_ok, exists_unit, pure_ok, Prod.mk.injEq, true_and, Bool.or_eq_false_iff,
      decide_eq_false_iff_not, Nat.not_le, Nat.not_lt] at rest
    obtain ⟨⟨few, room⟩, rfl⟩ := rest
    exact ⟨notification, bytes, read, few, room, rfl⟩
  · cases rest

theorem routeRequestMessage_some {result : Value}
    (routed : routeRequestMessage message expectedId pending = .ok (some result, after)) :
    replyId message = some expectedId ∧ message.get "result" = some result ∧ after = pending := by
  unfold routeRequestMessage at routed
  simp only [bind_ok] at routed
  obtain ⟨bytes, _, disposition, decoded, rest⟩ := routed
  rcases decodeResponse_ok decoded with ⟨notification, rfl, _⟩ | ⟨value, rfl, named, carried⟩
  · simp only [bind_ok, pure_ok, Prod.mk.injEq] at rest
    obtain ⟨_, _, impossible, _⟩ := rest
    cases impossible
  · cases rest
    exact ⟨named, carried, rfl⟩

theorem routeRequestMessage_error {error : TransportError}
    (refused : routeRequestMessage message expectedId pending = .error error) :
    error.isLocal = true ∨ ∃ code retryable, error = .remoteRejected code retryable ∧
      replyId message = some expectedId ∧
      ∃ rejected, message.get "error" = some rejected ∧ (rejected.get "code").bind Value.asI64 = some code := by
  unfold routeRequestMessage at refused
  cases encoded : encodeJsonLine message with
  | error => rw [encoded] at refused; cases refused; exact .inl (encodeJsonLine_local encoded)
  | ok bytes =>
    rw [encoded, ok_bind] at refused
    cases decoded : decodeResponse message expectedId with
    | error => rw [decoded] at refused; cases refused; exact decodeResponse_rejected decoded
    | ok disposition =>
      rw [decoded, ok_bind] at refused
      cases disposition with
      | result value => cases refused
      | notification notification =>
        dsimp only at refused
        cases full : decide (outputQueueItems ≤ pending.items.length) ||
            decide (outputQueueBytes - pending.bytes < bytes) with
        | true => rw [full] at refused; cases refused; exact .inl rfl
        | false => rw [full] at refused; cases refused

end Responses

namespace StdioTransport

/-- What a check or a write leaves as it was; the transport may have been closed. -/
structure Closes (before after : StdioTransport) : Prop where
  pending : after.pendingNotifications = before.pendingNotifications
  nextRequestId : after.nextRequestId = before.nextRequestId
  outputFailed : after.outputFailed = before.outputFailed
  stdinOpen : after.stdinOpen = true → before.stdinOpen = true

theorem Closes.refl (transport : StdioTransport) : Closes transport transport :=
  ⟨rfl, rfl, rfl, id⟩

theorem Closes.trans {first second third : StdioTransport} (one : Closes first second) (other : Closes second third) :
    Closes first third :=
  ⟨other.pending.trans one.pending, other.nextRequestId.trans one.nextRequestId,
    other.outputFailed.trans one.outputFailed, one.stdinOpen ∘ other.stdinOpen⟩

variable {transport after : StdioTransport} {surroundings : Surroundings}

theorem close_closes : Closes transport { transport with stdinOpen := false } :=
  ⟨rfl, rfl, rfl, fun opened => by cases opened⟩

theorem close_local {closes : Bool} {error : TransportError} (own : error.isLocal = true) :
    (transport.close closes error).1.isLocal = true := by
  cases closes
  · rfl
  · exact own

theorem checkCancelled_closes (transport : StdioTransport) (surroundings : Surroundings) :
    Closes transport (transport.checkCancelled surroundings).2 := by
  unfold checkCancelled
  split_ifs
  · exact close_closes
  · exact close_closes
  · exact .refl transport

theorem checkCancelled_error {error : TransportError}
    (refused : transport.checkCancelled surroundings = (.error error, after)) : error.isLocal = true := by
  unfold checkCancelled at refused
  split_ifs at refused <;> cases refused <;> exact close_local rfl

/-- A transport whose check passes has not failed. -/
theorem checkCancelled_ok (passed : transport.checkCancelled surroundings = (.ok (), after)) :
    transport.outputFailed = false := by
  unfold checkCancelled at passed
  split_ifs at passed with failed
  all_goals simp_all

variable [WriteJson] {message : Value} {written : Written}

theorem writeMessage_closes (transport : StdioTransport) (message : Value) (surroundings : Surroundings)
    (written : Written) : Closes transport (transport.writeMessage message surroundings written).2 := by
  have checked := checkCancelled_closes transport surroundings
  unfold writeMessage
  split
  next seen => rw [seen] at checked; exact checked
  next seen =>
    rw [seen] at checked
    split
    next => exact checked
    next =>
      split
      next => exact checked
      next =>
        split
        next => exact checked
        next => exact checked.trans close_closes

theorem writeMessage_error {error : TransportError}
    (refused : transport.writeMessage message surroundings written = (.error error, after)) :
    error.isLocal = true := by
  unfold writeMessage at refused
  split at refused
  next seen => cases refused; exact checkCancelled_error seen
  next =>
    split at refused
    next long =>
      cases refused
      unfold encodeJsonLine at long
      split at long <;> cases long
      rfl
    next =>
      split at refused
      next => cases refused; rfl
      next =>
        split at refused
        next => cases refused
        next kind cancelled =>
          cases refused
          apply close_local
          cases kind <;> cases cancelled <;> rfl

end StdioTransport

namespace StdioSession

/-- The activity of a session: a request under way has a number of its own, and nothing is pending during a poll. -/
def Underway (session : StdioSession) : Prop :=
  match session.activity with
  | .idle => True
  | .requesting requestId _ _ => requestId < session.transport.nextRequestId ∧
      requestId ∉ session.answers.map Prod.fst
  | .polling _ _ => session.transport.pendingNotifications.items = []

/-- The queue of notifications is accounted exactly and within its limits, no notification is lost or reordered
unless the output has failed, and every request ends at most once, with what its own number was sent. -/
structure Sound (session : StdioSession) : Prop where
  accounted : session.transport.pendingNotifications.bytes =
    (session.transport.pendingNotifications.items.map Prod.snd).sum
  bounded : session.transport.pendingNotifications.bytes ≤ outputQueueBytes
  few : session.transport.pendingNotifications.items.length ≤ outputQueueItems
  inOrder : session.transport.outputFailed = false → notifications session.taken =
    session.delivered ++ session.transport.pendingNotifications.items.map Prod.fst
  closed : session.transport.outputFailed = true → session.transport.stdinOpen = false
  underway : session.Underway
  issued : ∀ answer ∈ session.answers, answer.1 < session.transport.nextRequestId
  once : (session.answers.map Prod.fst).Nodup
  own : ∀ answer ∈ session.answers, Carried session.taken answer.1 answer.2

variable {session : StdioSession}

theorem opened_sound (timeout : Nat) : (opened timeout).Sound where
  accounted := rfl
  bounded := Nat.zero_le _
  few := Nat.zero_le _
  inOrder _ := rfl
  closed failed := by cases failed
  underway := trivial
  issued _ member := by cases member
  once := List.nodup_nil
  own _ member := by cases member

/-- The transport may have been closed. -/
theorem Sound.closes (sound : session.Sound) {transport : StdioTransport}
    (closes : session.transport.Closes transport) : ({ session with transport } : StdioSession).Sound where
  accounted := by
    rw [closes.pending]
    exact sound.accounted
  bounded := by
    rw [closes.pending]
    exact sound.bounded
  few := by
    rw [closes.pending]
    exact sound.few
  inOrder works := by
    rw [closes.pending]
    rw [closes.outputFailed] at works
    exact sound.inOrder works
  closed failed := by
    rw [closes.outputFailed] at failed
    have shut := sound.closed failed
    rw [Bool.eq_false_iff]
    intro opened
    rw [closes.stdinOpen opened] at shut
    cases shut
  underway := by
    have underway := sound.underway
    unfold Underway at underway ⊢
    rw [closes.pending, closes.nextRequestId]
    exact underway
  issued answer member := by
    rw [closes.nextRequestId]
    exact sound.issued answer member
  once := sound.once
  own := sound.own

/-- Other fields of the transport do not matter. -/
theorem Sound.transport (sound : session.Sound) {transport : StdioTransport}
    (pending : transport.pendingNotifications = session.transport.pendingNotifications)
    (numbers : transport.nextRequestId = session.transport.nextRequestId)
    (failed : transport.outputFailed = session.transport.outputFailed)
    (opened : transport.stdinOpen = session.transport.stdinOpen) :
    ({ session with transport } : StdioSession).Sound :=
  sound.closes ⟨pending, numbers, failed, by rw [opened]; exact id⟩

variable [WriteJson]

omit [WriteJson] in
theorem Sound.answer (sound : session.Sound) {requestId : Nat} {result : Except TransportError Value}
    (issued : requestId < session.transport.nextRequestId) (fresh : requestId ∉ session.answers.map Prod.fst)
    (carried : Carried session.taken requestId result) : (session.answer requestId result).Sound where
  accounted := sound.accounted
  bounded := sound.bounded
  few := sound.few
  inOrder := sound.inOrder
  closed := sound.closed
  underway := trivial
  issued answer member := by
    rcases List.mem_append.mp member with before | now
    · exact sound.issued answer before
    · rw [List.mem_singleton.mp now]
      exact issued
  once := by
    change ((session.answers ++ [(requestId, result)]).map Prod.fst).Nodup
    rw [List.map_append, List.map_singleton, List.nodup_append]
    refine ⟨sound.once, List.nodup_singleton _, ?_⟩
    rintro used inside _ single rfl
    rw [List.mem_singleton.mp single] at inside
    exact fresh inside
  own answer member := by
    rcases List.mem_append.mp member with before | now
    · exact sound.own answer before
    · rw [List.mem_singleton.mp now]
      exact carried

omit [WriteJson] in
/-- A poll that ends without a notification. -/
theorem Sound.report (sound : session.Sound) {result : Except TransportError (Option AppServerNotification)}
    (nothing : result.toOption.join = none) : (session.report result).Sound where
  accounted := sound.accounted
  bounded := sound.bounded
  few := sound.few
  inOrder works := by
    change _ = session.delivered ++ (result.toOption.join).toList ++ _
    rw [nothing, Option.toList_none, List.append_nil]
    exact sound.inOrder works
  closed := sound.closed
  underway := trivial
  issued := sound.issued
  once := sound.once
  own := sound.own

omit [WriteJson] in
theorem Sound.stopRequest (sound : session.Sound) {requestId : Nat} {error : TransportError}
    (issued : requestId < session.transport.nextRequestId) (fresh : requestId ∉ session.answers.map Prod.fst)
    (own : error.isLocal = true) (abandonOnTimeout : Bool) :
    (session.stopRequest requestId abandonOnTimeout error).Sound := by
  unfold StdioSession.stopRequest
  split
  next =>
    have remembered : ({ session with transport := session.transport.rememberAbandonedRequest requestId } :
        StdioSession).Sound := sound.transport rfl rfl rfl rfl
    exact remembered.answer issued fresh trivial
  next => exact sound.answer issued fresh (.of_local own)

omit [WriteJson] in
/-- A message that is no notification has been taken. -/
theorem Sound.take (sound : session.Sound) {message : Value}
    (other : (decodeNotification message).toOption = none) :
    ({ session with taken := session.taken ++ [message] } : StdioSession).Sound where
  accounted := sound.accounted
  bounded := sound.bounded
  few := sound.few
  inOrder works := by
    rw [notifications_append, other, Option.toList_none, List.append_nil]
    exact sound.inOrder works
  closed := sound.closed
  underway := sound.underway
  issued := sound.issued
  once := sound.once
  own answer member := (sound.own answer member).more message

omit [WriteJson] in
/-- A notification taken while a request waits is queued. -/
theorem Sound.queue (sound : session.Sound) {message : Value} {notification : AppServerNotification} {bytes : Nat}
    (read : decodeNotification message = .ok notification)
    (few : session.transport.pendingNotifications.items.length < outputQueueItems)
    (room : bytes ≤ outputQueueBytes - session.transport.pendingNotifications.bytes)
    (waiting : ∀ observationDeadline inactivityDeadline,
      session.activity ≠ .polling observationDeadline inactivityDeadline) :
    ({ session with
      transport := { session.transport with
        pendingNotifications := ⟨session.transport.pendingNotifications.items ++ [(notification, bytes)],
          session.transport.pendingNotifications.bytes + bytes⟩ }
      taken := session.taken ++ [message] } : StdioSession).Sound where
  accounted := by
    rw [List.map_append, List.sum_append, sound.accounted]
    simp
  bounded := by
    have bounded := sound.bounded
    dsimp only
    omega
  few := by
    rw [List.length_append]
    exact few
  inOrder works := by
    rw [notifications_append, read, sound.inOrder works, List.map_append, ← List.append_assoc]
    rfl
  closed := sound.closed
  underway := by
    have underway := sound.underway
    unfold Underway at underway ⊢
    cases activity : session.activity with
    | idle => trivial
    | requesting requestId deadline abandonOnTimeout =>
      rw [activity] at underway
      exact underway
    | polling observationDeadline inactivityDeadline => exact absurd activity (waiting _ _)
  issued := sound.issued
  once := sound.once
  own answer member := (sound.own answer member).more message

omit [WriteJson] in
/-- A message that ends the transport: no order is promised from here on. -/
theorem Sound.fail (sound : session.Sound) (message : Value) :
    ({ session with
      transport := { session.transport with outputFailed := true, stdinOpen := false }
      taken := session.taken ++ [message] } : StdioSession).Sound where
  accounted := sound.accounted
  bounded := sound.bounded
  few := sound.few
  inOrder works := by cases works
  closed _ := rfl
  underway := sound.underway
  issued := sound.issued
  once := sound.once
  own answer member := (sound.own answer member).more message

omit [WriteJson] in
theorem discardAbandonedResponse_some {transport after : StdioTransport} {message : Value}
    (discarded : transport.discardAbandonedResponse message = some after) :
    (decodeNotification message).toOption = none ∧ after.pendingNotifications = transport.pendingNotifications ∧
      after.nextRequestId = transport.nextRequestId ∧ after.outputFailed = transport.outputFailed ∧
      after.stdinOpen = transport.stdinOpen := by
  unfold StdioTransport.discardAbandonedResponse at discarded
  split at discarded
  next => cases discarded
  next id named =>
    split at discarded
    next =>
      cases discarded
      obtain ⟨value, numbered, _⟩ := Option.bind_eq_some_iff.mp named
      exact ⟨decodeNotification_reply numbered, rfl, rfl, rfl, rfl⟩
    next => cases discarded

/-- One message on which a request waits. -/
theorem Sound.routeMessage (sound : session.Sound) {requestId deadline : Nat} {abandonOnTimeout : Bool}
    (waiting : session.activity = .requesting requestId deadline abandonOnTimeout) (surroundings : Surroundings)
    (message : Value) :
    ({ session with taken := session.taken ++ [message] }.routeMessage requestId surroundings message).Sound := by
  have underway := sound.underway
  unfold Underway at underway
  rw [waiting] at underway
  obtain ⟨issued, fresh⟩ := underway
  unfold StdioSession.routeMessage
  split
  next transport discarded =>
    obtain ⟨other, pending, numbers, failed, opened⟩ := discardAbandonedResponse_some discarded
    exact (sound.take other).transport pending numbers failed opened
  next =>
    split
    next error refused =>
      refine (sound.fail message).answer issued fresh ?_
      rcases routeRequestMessage_error refused with own | ⟨code, retryable, rfl, named, rejected, carried, coded⟩
      · exact .of_local (StdioTransport.close_local own)
      · unfold StdioTransport.close
        cases surroundings.closes
        · trivial
        · exact ⟨message, List.mem_append_right _ (List.mem_singleton_self message), named, rejected, carried, coded⟩
    next pendingNotifications routed =>
      obtain ⟨notification, bytes, read, few, room, rfl⟩ := routeRequestMessage_none routed
      exact sound.queue read few room fun _ _ polling => by rw [waiting] at polling; cases polling
    next result pendingNotifications routed =>
      obtain ⟨named, carried, rfl⟩ := routeRequestMessage_some routed
      have other : (decodeNotification message).toOption = none := by
        obtain ⟨value, numbered, _⟩ := Option.bind_eq_some_iff.mp named
        exact decodeNotification_reply numbered
      refine (sound.take other).answer issued fresh ?_
      exact ⟨message, List.mem_append_right _ (List.mem_singleton_self message), named, carried⟩

omit [WriteJson] in
/-- The number of a new request is nobody else's. -/
theorem Sound.number (sound : session.Sound) (idle : session.activity = .idle) :
    ({ session with transport := { session.transport with nextRequestId := session.transport.nextRequestId + 1 } } :
      StdioSession).Sound ∧ session.transport.nextRequestId ∉ session.answers.map Prod.fst := by
  constructor
  · refine ⟨sound.accounted, sound.bounded, sound.few, sound.inOrder, sound.closed, ?_, ?_, sound.once, sound.own⟩
    · unfold Underway
      rw [idle]
      trivial
    · intro answer member
      exact (sound.issued answer member).trans (Nat.lt_succ_self _)
  · intro used
    obtain ⟨answer, member, same⟩ := List.mem_map.mp used
    have earlier := sound.issued answer member
    rw [same] at earlier
    exact Nat.lt_irrefl _ earlier

theorem Sound.request (sound : session.Sound) (idle : session.activity = .idle) (method : String) (params : Value)
    (maxWait : Nat) (abandonOnTimeout : Bool) (surroundings : Surroundings) (written : Written) :
    (session.request method params maxWait abandonOnTimeout surroundings written).Sound := by
  obtain ⟨numbered, fresh⟩ := sound.number idle
  unfold StdioSession.request
  dsimp only
  split
  next => exact sound
  next =>
    split
    next error transport refused =>
      have closes := StdioTransport.writeMessage_closes
        { session.transport with nextRequestId := session.transport.nextRequestId + 1 }
        (.object [("method", .string method), ("id", .number (.posInt (UInt64.ofNat session.transport.nextRequestId))),
          ("params", params)]) surroundings written
      rw [refused] at closes
      refine (numbered.closes closes).answer ?_ fresh (.of_local (StdioTransport.writeMessage_error refused))
      rw [closes.nextRequestId]
      exact Nat.lt_succ_self _
    next transport written_ =>
      have closes := StdioTransport.writeMessage_closes
        { session.transport with nextRequestId := session.transport.nextRequestId + 1 }
        (.object [("method", .string method), ("id", .number (.posInt (UInt64.ofNat session.transport.nextRequestId))),
          ("params", params)]) surroundings written
      rw [written_] at closes
      have begun := numbered.closes closes
      refine ⟨begun.accounted, begun.bounded, begun.few, begun.inOrder, begun.closed, ⟨?_, fresh⟩, begun.issued,
        begun.once, begun.own⟩
      dsimp only
      rw [closes.nextRequestId]
      exact Nat.lt_succ_self _

theorem Sound.notify (sound : session.Sound) (method : String) (params : Value) (surroundings : Surroundings)
    (written : Written) : (session.notify method params surroundings written).Sound :=
  sound.closes (StdioTransport.writeMessage_closes _ _ _ _)

theorem Sound.requestTurn (sound : session.Sound) {requestId deadline : Nat} {abandonOnTimeout : Bool}
    (waiting : session.activity = .requesting requestId deadline abandonOnTimeout) (surroundings : Surroundings)
    (received : Received) (later : Nat) :
    (session.requestTurn requestId deadline abandonOnTimeout surroundings received later).Sound := by
  have underway := sound.underway
  unfold Underway at underway
  rw [waiting] at underway
  obtain ⟨issued, fresh⟩ := underway
  -- a check that refuses may close the transport, and the request ends with its error
  have refusedEnds : ∀ (moment : Surroundings) (error : TransportError) (transport : StdioTransport),
      session.transport.checkCancelled moment = (.error error, transport) →
      ({ session with transport }.stopRequest requestId abandonOnTimeout error).Sound := by
    intro moment error transport refused
    have closes := StdioTransport.checkCancelled_closes session.transport moment
    rw [refused] at closes
    refine (sound.closes closes).stopRequest ?_ fresh (StdioTransport.checkCancelled_error refused) _
    rw [closes.nextRequestId]
    exact issued
  unfold StdioSession.requestTurn
  split
  next error transport refused => exact refusedEnds surroundings error transport refused
  next =>
    split
    next => exact sound.stopRequest issued fresh rfl _
    next =>
      cases received with
      | quiet => exact sound
      | unreadable => exact sound.stopRequest issued fresh rfl _
      | malformed => exact sound.stopRequest issued fresh rfl _
      | disconnected moment =>
        dsimp only
        split
        next error transport refused => exact refusedEnds moment error transport refused
        next => exact sound.stopRequest issued fresh rfl _
      | message message =>
        have observed : ({ session with
            transport := { session.transport with notificationDeadline := some (later + session.transport.timeout) } } :
            StdioSession).Sound := sound.transport rfl rfl rfl rfl
        exact observed.routeMessage waiting surroundings message

omit [WriteJson] in
/-- The first of the pending notifications is delivered. -/
theorem Sound.pop (sound : session.Sound) {notification : AppServerNotification} {pending : PendingNotifications}
    (popped : session.transport.pendingNotifications.popFront = some (notification, pending)) (deadline : Option Nat) :
    ({ session with transport :=
        { session.transport with pendingNotifications := pending, notificationDeadline := deadline } }.report
      (.ok (some notification))).Sound := by
  unfold PendingNotifications.popFront at popped
  split at popped
  next => cases popped
  next bytes rest items =>
    cases popped
    have accounted := sound.accounted
    have few := sound.few
    rw [items, List.map_cons, List.sum_cons] at accounted
    rw [items, List.length_cons] at few
    have covered : bytes ≤ session.transport.pendingNotifications.bytes := by omega
    have subtracted := fetchSub_of_le covered sound.bounded
    constructor
    case accounted =>
      change fetchSub session.transport.pendingNotifications.bytes bytes = (rest.map Prod.snd).sum
      rw [subtracted]
      omega
    case bounded =>
      change fetchSub session.transport.pendingNotifications.bytes bytes ≤ _
      rw [subtracted]
      exact (Nat.sub_le _ _).trans sound.bounded
    case few => exact Nat.le_of_succ_le few
    case inOrder =>
      intro works
      have inOrder := sound.inOrder works
      rw [items, List.map_cons] at inOrder
      change notifications session.taken = session.delivered ++ [notification] ++ rest.map Prod.fst
      rw [inOrder, List.append_assoc]
      rfl
    case closed => exact sound.closed
    case underway => trivial
    case issued => exact sound.issued
    case once => exact sound.once
    case own => exact sound.own

omit [WriteJson] in
theorem Sound.poll (sound : session.Sound) (maxWait : Nat) (surroundings : Surroundings) :
    (session.poll maxWait surroundings).Sound := by
  unfold StdioSession.poll
  split
  next error transport refused =>
    have closes := StdioTransport.checkCancelled_closes session.transport surroundings
    rw [refused] at closes
    exact (sound.closes closes).report rfl
  next =>
    split
    next notification pending popped => exact sound.pop popped _
    next empty =>
      have watching : ∀ deadline, ({ session with
          transport := { session.transport with notificationDeadline := deadline } } : StdioSession).Sound :=
        fun _ => sound.transport rfl rfl rfl rfl
      dsimp only
      split
      next => exact (watching _).report rfl
      next =>
        have begun := watching (some (session.transport.notificationDeadline.getD
          (surroundings.now + session.transport.timeout)))
        refine ⟨begun.accounted, begun.bounded, begun.few, begun.inOrder, begun.closed, ?_, begun.issued, begun.once,
          begun.own⟩
        -- a poll begins only with nothing pending
        unfold PendingNotifications.popFront at empty
        split at empty
        next items => exact items
        next => cases empty

omit [WriteJson] in
theorem Sound.observe (sound : session.Sound) (observationDeadline inactivityDeadline later : Nat) :
    (session.observe observationDeadline inactivityDeadline later).Sound := by
  unfold StdioSession.observe
  split
  next => exact sound.report rfl
  next =>
    split
    next => exact sound.report rfl
    next => exact sound

omit [WriteJson] in
/-- A message that a poll takes is delivered if it is a notification. -/
theorem Sound.deliver (sound : session.Sound) (empty : session.transport.pendingNotifications.items = [])
    (message : Value) (deadline : Option Nat) :
    ({ session with
      transport := { session.transport with notificationDeadline := deadline }
      taken := session.taken ++ [message] }.report ((decodeNotification message).map some)).Sound where
  accounted := sound.accounted
  bounded := sound.bounded
  few := sound.few
  inOrder works := by
    have inOrder := sound.inOrder works
    rw [empty, List.map_nil, List.append_nil] at inOrder
    change notifications (session.taken ++ [message]) = session.delivered ++
      (((decodeNotification message).map some).toOption.join).toList ++
        session.transport.pendingNotifications.items.map Prod.fst
    rw [notifications_append, inOrder, empty, List.map_nil, List.append_nil]
    cases decodeNotification message <;> rfl
  closed := sound.closed
  underway := trivial
  issued := sound.issued
  once := sound.once
  own answer member := (sound.own answer member).more message

omit [WriteJson] in
theorem Sound.pollTurn (sound : session.Sound) {observationDeadline inactivityDeadline : Nat}
    (watching : session.activity = .polling observationDeadline inactivityDeadline) (surroundings : Surroundings)
    (received : Received) (later : Nat) :
    (session.pollTurn observationDeadline inactivityDeadline surroundings received later).Sound := by
  have empty := sound.underway
  unfold Underway at empty
  rw [watching] at empty
  have refusedEnds : ∀ (moment : Surroundings) (error : TransportError) (transport : StdioTransport),
      session.transport.checkCancelled moment = (.error error, transport) →
      ({ session with transport }.report (.error error)).Sound := by
    intro moment error transport refused
    have closes := StdioTransport.checkCancelled_closes session.transport moment
    rw [refused] at closes
    exact (sound.closes closes).report rfl
  unfold StdioSession.pollTurn
  split
  next error transport refused => exact refusedEnds surroundings error transport refused
  next =>
    cases received with
    | quiet => exact sound.observe _ _ _
    | unreadable => exact sound.report rfl
    | malformed => exact sound.report rfl
    | disconnected moment =>
      dsimp only
      split
      next error transport refused => exact refusedEnds moment error transport refused
      next => exact sound.report rfl
    | message message =>
      dsimp only
      split
      next transport discarded =>
        obtain ⟨other, pending, numbers, failed, opened⟩ := discardAbandonedResponse_some discarded
        exact ((sound.take other).transport pending numbers failed opened).observe _ _ _
      next => exact sound.deliver empty message _

theorem Sound.next (sound : session.Sound) (action : SessionAction) : (session.next action).Sound := by
  cases action with
  | request method params maxWait abandonOnTimeout surroundings written =>
    unfold StdioSession.next
    cases activity : session.activity with
    | idle => exact sound.request activity method params maxWait abandonOnTimeout surroundings written
    | requesting | polling => exact sound
  | notify method params surroundings written =>
    unfold StdioSession.next
    cases session.activity with
    | idle => exact sound.notify method params surroundings written
    | requesting | polling => exact sound
  | poll maxWait surroundings =>
    unfold StdioSession.next
    cases session.activity with
    | idle => exact sound.poll maxWait surroundings
    | requesting | polling => exact sound
  | turn surroundings received later =>
    unfold StdioSession.next
    cases activity : session.activity with
    | idle => exact sound
    | requesting => exact sound.requestTurn activity surroundings received later
    | polling => exact sound.pollTurn activity surroundings received later

/-- The session after actions in any order. -/
def run (timeout : Nat) (actions : List SessionAction) : StdioSession :=
  Machine.run next (opened timeout) actions

theorem run_sound (timeout : Nat) (actions : List SessionAction) : (run timeout actions).Sound :=
  Machine.run_preserves (fun _ action sound => sound.next action) (opened_sound timeout) actions

/-- Until the transport is closed, the notifications taken from the wire are those delivered, in their order, and
those still pending. A request ends at most once, with a result or a remote error only if a message with its own
number carried it. The bytes of the pending notifications are the sum of their sizes, each is covered by them, and
both limits hold. -/
theorem transport_demultiplexes (timeout : Nat) (actions : List SessionAction) :
    let session := run timeout actions
    let pending := session.transport.pendingNotifications
    (session.transport.stdinOpen = true →
      notifications session.taken = session.delivered ++ pending.items.map Prod.fst) ∧
    (∀ answer ∈ session.answers, Carried session.taken answer.1 answer.2) ∧
    (session.answers.map Prod.fst).Nodup ∧
    pending.bytes = (pending.items.map Prod.snd).sum ∧
    (∀ item ∈ pending.items, item.2 ≤ pending.bytes) ∧
    pending.bytes ≤ outputQueueBytes ∧ pending.items.length ≤ outputQueueItems := by
  have sound := run_sound timeout actions
  refine ⟨fun opened => ?_, sound.own, sound.once, sound.accounted, ?_, sound.bounded, sound.few⟩
  · apply sound.inOrder
    rw [Bool.eq_false_iff]
    intro failed
    rw [sound.closed failed] at opened
    cases opened
  · intro item member
    rw [sound.accounted]
    exact List.single_le_sum (fun _ _ => Nat.zero_le _) _ (List.mem_map_of_mem member)

end StdioSession

end Bastet.Codex
