import Bastet.Adapter.StdioDemux

/-! Remote errors of requests. The first of them ends the session, whatever was pending and whatever its code is. -/

set_option autoImplicit false

namespace Bastet.Codex

open Fallible Bastet.Core Bastet.Adapter

/-- A well-formed error of a request. -/
structure Rejection (message : Value) (requestId : Nat) (code : Int) : Prop where
  named : replyId message = some requestId
  described : ∃ error text, message.get "error" = some error ∧ (error.get "code").bind Value.asI64 = some code ∧
    (error.get "message").bind Value.asStr = some text ∧ text.isEmpty = false

/-- A moment at which nothing hinders the transport. -/
structure Surroundings.Fine (surroundings : Surroundings) : Prop where
  cancelled : surroundings.cancelled = false
  queueFailed : surroundings.queueFailed = false

namespace Rejection

variable {message : Value} {requestId : Nat} {code : Int}

theorem decoded (rejection : Rejection message requestId code) :
    decodeResponse message requestId = .error (.remoteRejected code (code == -32001)) := by
  obtain ⟨id, numbered, own⟩ := Option.bind_eq_some_iff.mp rejection.named
  obtain ⟨error, text, held, coded, worded, filled⟩ := rejection.described
  unfold decodeResponse
  rw [numbered]
  dsimp only
  rw [own, bne_self_eq_false, held]
  dsimp only
  rw [coded, worded, Option.all_some, filled]
  rfl

/-- The routing of a remote error fails like that of a message out of place. -/
theorem routed [WriteJson] (rejection : Rejection message requestId code) (pending : PendingNotifications) :
    ∃ error, routeRequestMessage message requestId pending = .error error := by
  unfold routeRequestMessage
  cases encodeJsonLine message with
  | error error => exact ⟨error, rfl⟩
  | ok bytes =>
    rw [ok_bind, rejection.decoded]
    exact ⟨_, rfl⟩

end Rejection

namespace StdioTransport

variable {transport : StdioTransport} {surroundings : Surroundings}

theorem checkCancelled_failed (failed : transport.outputFailed = true) (surroundings : Surroundings) :
    transport.checkCancelled surroundings = (.error .unavailable, { transport with stdinOpen := false }) := by
  unfold checkCancelled close
  rw [if_pos (.inl failed), ite_self]

theorem checkCancelled_fine (works : transport.outputFailed = false) (fine : surroundings.Fine) :
    transport.checkCancelled surroundings = (.ok (), transport) := by
  unfold checkCancelled
  rw [works, fine.queueFailed, fine.cancelled]
  rfl

theorem checkCancelled_abandoned (transport : StdioTransport) (surroundings : Surroundings) :
    (transport.checkCancelled surroundings).2.abandonedRequestIds = transport.abandonedRequestIds := by
  unfold checkCancelled
  split_ifs <;> rfl

variable [WriteJson]

theorem writeMessage_failed (failed : transport.outputFailed = true) (message : Value) (surroundings : Surroundings)
    (written : Written) : transport.writeMessage message surroundings written =
      (.error .unavailable, { transport with stdinOpen := false }) := by
  rw [writeMessage, checkCancelled_failed failed]

theorem writeMessage_abandoned (transport : StdioTransport) (message : Value) (surroundings : Surroundings)
    (written : Written) :
    (transport.writeMessage message surroundings written).2.abandonedRequestIds = transport.abandonedRequestIds := by
  have kept := checkCancelled_abandoned transport surroundings
  unfold writeMessage
  split
  next seen => rwa [seen] at kept
  next seen =>
    rw [seen] at kept
    split
    · exact kept
    · split
      · exact kept
      · split <;> exact kept

end StdioTransport

namespace StdioSession

variable {session : StdioSession}

/-- A session whose transport has failed. -/
structure Ended (session : StdioSession) : Prop where
  failed : session.transport.outputFailed = true
  idle : session.activity = .idle

/-- Nothing is delivered any more, and every call is refused. -/
structure Refuses (before after : StdioSession) : Prop where
  delivered : after.delivered = before.delivered
  answers : ∃ more, after.answers = before.answers ++ more ∧ ∀ answer ∈ more, answer.2 = .error .unavailable
  polled : ∃ more, after.polled = before.polled ++ more ∧ ∀ result ∈ more, result = .error .unavailable

theorem Refuses.refl (session : StdioSession) : Refuses session session where
  delivered := rfl
  answers := ⟨[], (List.append_nil _).symm, fun _ member => absurd member List.not_mem_nil⟩
  polled := ⟨[], (List.append_nil _).symm, fun _ member => absurd member List.not_mem_nil⟩

theorem Refuses.trans {first second third : StdioSession} (one : Refuses first second) (other : Refuses second third) :
    Refuses first third where
  delivered := other.delivered.trans one.delivered
  answers := by
    obtain ⟨early, firstly, earlyRefused⟩ := one.answers
    obtain ⟨late, secondly, lateRefused⟩ := other.answers
    refine ⟨early ++ late, by rw [secondly, firstly, List.append_assoc], fun answer member => ?_⟩
    exact (List.mem_append.mp member).elim (earlyRefused answer) (lateRefused answer)
  polled := by
    obtain ⟨early, firstly, earlyRefused⟩ := one.polled
    obtain ⟨late, secondly, lateRefused⟩ := other.polled
    refine ⟨early ++ late, by rw [secondly, firstly, List.append_assoc], fun result member => ?_⟩
    exact (List.mem_append.mp member).elim (earlyRefused result) (lateRefused result)

/-- Requests that were given up have ended. -/
def GivenUp (session : StdioSession) : Prop :=
  ∀ requestId ∈ session.transport.abandonedRequestIds, requestId ∈ session.answers.map Prod.fst

theorem opened_givenUp (timeout : Nat) : (opened timeout).GivenUp := by
  intro requestId member
  cases member

theorem GivenUp.answer (givenUp : session.GivenUp) (requestId : Nat) (result : Except TransportError Value) :
    (session.answer requestId result).GivenUp := by
  intro abandoned member
  rw [StdioSession.answer, List.map_append]
  exact List.mem_append_left _ (givenUp abandoned member)

theorem GivenUp.transport (givenUp : session.GivenUp) {transport : StdioTransport}
    (fewer : ∀ requestId ∈ transport.abandonedRequestIds, requestId ∈ session.transport.abandonedRequestIds) :
    ({ session with transport } : StdioSession).GivenUp :=
  fun requestId member => givenUp requestId (fewer requestId member)

theorem GivenUp.stopRequest (givenUp : session.GivenUp) (requestId : Nat) (abandonOnTimeout : Bool)
    (error : TransportError) : (session.stopRequest requestId abandonOnTimeout error).GivenUp := by
  unfold StdioSession.stopRequest
  split_ifs
  · intro abandoned member
    rw [StdioSession.answer, List.map_append, List.mem_append]
    rcases List.mem_append.mp member with known | own
    · refine .inl (givenUp abandoned ?_)
      split_ifs at known
      · exact List.mem_of_mem_tail known
      · exact known
    · exact .inr own
  · exact givenUp.answer requestId _

theorem GivenUp.discard (givenUp : session.GivenUp) {message : Value} {transport : StdioTransport}
    (discarded : session.transport.discardAbandonedResponse message = some transport) :
    ({ session with transport } : StdioSession).GivenUp := by
  unfold StdioTransport.discardAbandonedResponse at discarded
  split at discarded
  · cases discarded
  · split_ifs at discarded
    cases discarded
    exact givenUp.transport fun requestId member => List.mem_of_mem_erase member

theorem GivenUp.checked (givenUp : session.GivenUp) {surroundings : Surroundings} {outcome : Except TransportError Unit}
    {transport : StdioTransport} (checked : session.transport.checkCancelled surroundings = (outcome, transport)) :
    ({ session with transport } : StdioSession).GivenUp := by
  have kept := StdioTransport.checkCancelled_abandoned session.transport surroundings
  rw [checked] at kept
  exact givenUp.transport fun requestId member => kept ▸ member

variable [WriteJson]

theorem GivenUp.request (givenUp : session.GivenUp) (method : String) (params : Value) (maxWait : Nat)
    (abandonOnTimeout : Bool) (surroundings : Surroundings) (written : Written) :
    (session.request method params maxWait abandonOnTimeout surroundings written).GivenUp := by
  unfold StdioSession.request
  dsimp only
  split
  · exact givenUp
  · have kept := StdioTransport.writeMessage_abandoned
      { session.transport with nextRequestId := session.transport.nextRequestId + 1 }
      (.object [("method", .string method), ("id", .number (.posInt (UInt64.ofNat session.transport.nextRequestId))),
        ("params", params)]) surroundings written
    split
    next error transport refused =>
      rw [refused] at kept
      exact (givenUp.transport fun requestId member => kept ▸ member).answer _ _
    next transport delivered =>
      rw [delivered] at kept
      exact givenUp.transport fun requestId member => kept ▸ member

theorem GivenUp.notify (givenUp : session.GivenUp) (method : String) (params : Value) (surroundings : Surroundings)
    (written : Written) : (session.notify method params surroundings written).GivenUp := by
  have kept := StdioTransport.writeMessage_abandoned session.transport
    (.object [("method", .string method), ("params", params)]) surroundings written
  exact givenUp.transport fun requestId member => kept ▸ member

theorem GivenUp.routeMessage (givenUp : session.GivenUp) (requestId : Nat) (surroundings : Surroundings)
    (message : Value) : (session.routeMessage requestId surroundings message).GivenUp := by
  unfold StdioSession.routeMessage
  split
  next transport discarded => exact givenUp.discard discarded
  next =>
    split
    · exact GivenUp.answer (givenUp.transport fun requestId member => member) _ _
    · exact givenUp.transport fun requestId member => member
    · exact GivenUp.answer (givenUp.transport fun requestId member => member) _ _

theorem GivenUp.requestTurn (givenUp : session.GivenUp) (requestId deadline : Nat) (abandonOnTimeout : Bool)
    (surroundings : Surroundings) (received : Received) (later : Nat) :
    (session.requestTurn requestId deadline abandonOnTimeout surroundings received later).GivenUp := by
  unfold StdioSession.requestTurn
  split
  next error transport refused => exact (givenUp.checked refused).stopRequest _ _ _
  next =>
    split
    · exact givenUp.stopRequest _ _ _
    · cases received with
      | quiet => exact givenUp
      | unreadable | malformed => exact givenUp.stopRequest _ _ _
      | disconnected moment =>
        dsimp only
        split
        next error transport refused => exact (givenUp.checked refused).stopRequest _ _ _
        next => exact givenUp.stopRequest _ _ _
      | message message =>
        have seen : ({ session with
            transport := { session.transport with notificationDeadline := some (later + session.transport.timeout) }
            taken := session.taken ++ [message] } : StdioSession).GivenUp := givenUp
        exact seen.routeMessage requestId surroundings message

omit [WriteJson] in
theorem GivenUp.poll (givenUp : session.GivenUp) (maxWait : Nat) (surroundings : Surroundings) :
    (session.poll maxWait surroundings).GivenUp := by
  unfold StdioSession.poll
  split
  next error transport refused => exact givenUp.checked refused
  next =>
    split
    · exact givenUp
    · dsimp only
      split <;> exact givenUp

omit [WriteJson] in
theorem GivenUp.observe (givenUp : session.GivenUp) (observationDeadline inactivityDeadline later : Nat) :
    (session.observe observationDeadline inactivityDeadline later).GivenUp := by
  unfold StdioSession.observe
  split_ifs <;> exact givenUp

omit [WriteJson] in
theorem GivenUp.pollTurn (givenUp : session.GivenUp) (observationDeadline inactivityDeadline : Nat)
    (surroundings : Surroundings) (received : Received) (later : Nat) :
    (session.pollTurn observationDeadline inactivityDeadline surroundings received later).GivenUp := by
  unfold StdioSession.pollTurn
  split
  next error transport refused => exact givenUp.checked refused
  next =>
    cases received with
    | quiet => exact givenUp.observe _ _ _
    | unreadable | malformed => exact givenUp
    | disconnected moment =>
      dsimp only
      split
      next error transport refused => exact givenUp.checked refused
      next => exact givenUp
    | message message =>
      dsimp only
      split
      next transport discarded =>
        have dropped : ({ session with transport, taken := session.taken ++ [message] } : StdioSession).GivenUp :=
          givenUp.discard discarded
        exact dropped.observe observationDeadline inactivityDeadline later
      next => exact givenUp

theorem GivenUp.next (givenUp : session.GivenUp) (action : SessionAction) : (session.next action).GivenUp := by
  cases action with
  | request method params maxWait abandonOnTimeout surroundings written =>
    unfold StdioSession.next
    cases session.activity with
    | idle => exact givenUp.request method params maxWait abandonOnTimeout surroundings written
    | requesting | polling => exact givenUp
  | notify method params surroundings written =>
    unfold StdioSession.next
    cases session.activity with
    | idle => exact givenUp.notify method params surroundings written
    | requesting | polling => exact givenUp
  | poll maxWait surroundings =>
    unfold StdioSession.next
    cases session.activity with
    | idle => exact givenUp.poll maxWait surroundings
    | requesting | polling => exact givenUp
  | turn surroundings received later =>
    unfold StdioSession.next
    cases session.activity with
    | idle => exact givenUp
    | requesting => exact givenUp.requestTurn _ _ _ surroundings received later
    | polling => exact givenUp.pollTurn _ _ surroundings received later

theorem run_givenUp (timeout : Nat) (actions : List SessionAction) : (run timeout actions).GivenUp :=
  Machine.run_preserves (fun _ action givenUp => givenUp.next action) (opened_givenUp timeout) actions

/-- The reply to a request under way is not taken for one to a request given up. -/
theorem keeps_own_reply {timeout : Nat} {actions : List SessionAction} {requestId deadline : Nat} {abandonOnTimeout : Bool}
    (waiting : (run timeout actions).activity = .requesting requestId deadline abandonOnTimeout) {message : Value}
    (named : replyId message = some requestId) :
    (run timeout actions).transport.discardAbandonedResponse message = none := by
  have underway := (run_sound timeout actions).underway
  unfold Underway at underway
  rw [waiting] at underway
  unfold replyId at named
  unfold StdioTransport.discardAbandonedResponse
  rw [named]
  exact if_neg fun abandoned => underway.2 (run_givenUp timeout actions requestId abandoned)

/-- What has ended stays so, and refuses every call. -/
theorem Ended.next (ended : session.Ended) (action : SessionAction) :
    (session.next action).Ended ∧ Refuses session (session.next action) := by
  have same : session.Ended ∧ Refuses session session := ⟨ended, .refl session⟩
  cases action with
  | request method params maxWait abandonOnTimeout surroundings written =>
    simp only [StdioSession.next, ended.idle, StdioSession.request]
    split
    · exact same
    · have failed : ({ session.transport with nextRequestId := session.transport.nextRequestId + 1 } :
          StdioTransport).outputFailed = true := ended.failed
      rw [StdioTransport.writeMessage_failed failed]
      refine ⟨⟨ended.failed, rfl⟩, rfl, ⟨_, rfl, fun answer member => ?_⟩, ⟨[], (List.append_nil _).symm, ?_⟩⟩
      · rw [List.mem_singleton.mp member]
      · exact fun _ member => absurd member List.not_mem_nil
  | notify method params surroundings written =>
    simp only [StdioSession.next, ended.idle, StdioSession.notify, StdioTransport.writeMessage_failed ended.failed]
    exact ⟨⟨ended.failed, rfl⟩, rfl, same.2.answers, same.2.polled⟩
  | poll maxWait surroundings =>
    simp only [StdioSession.next, ended.idle, StdioSession.poll, StdioTransport.checkCancelled_failed ended.failed]
    refine ⟨⟨ended.failed, rfl⟩, List.append_nil _, same.2.answers, ⟨_, rfl, fun result member => ?_⟩⟩
    exact List.mem_singleton.mp member
  | turn surroundings received later =>
    simp only [StdioSession.next, ended.idle]
    exact same

theorem Ended.run (ended : session.Ended) (actions : List SessionAction) :
    Refuses session (Machine.run StdioSession.next session actions) :=
  Machine.run_relates Ended Refuses Refuses.refl (fun _ _ _ => Refuses.trans) (fun _ action ended => (ended.next action).1)
    (fun _ action ended => (ended.next action).2) ended actions

/-! ### Remote errors -/

/-- A session goes on after a remote error: the request has it for an answer, what is pending and what arrives is
delivered, and another request can be sent. -/
structure GoesOn (before after : StdioSession) (requestId : Nat) (code : Int) : Prop where
  answered : after.answers = before.answers ++ [(requestId, .error (.remoteRejected code (code == -32001)))]
  stdinOpen : after.transport.stdinOpen = true
  delivers : ∀ notification rest maxWait surroundings, surroundings.Fine →
    after.transport.pendingNotifications.popFront = some (notification, rest) →
    (after.poll maxWait surroundings).delivered = after.delivered ++ [notification]
  receives : ∀ message notification observationDeadline inactivityDeadline surroundings later, surroundings.Fine →
    decodeNotification message = .ok notification →
    (after.pollTurn observationDeadline inactivityDeadline surroundings (.message message) later).delivered =
      after.delivered ++ [notification]
  requests : ∀ method params maxWait abandonOnTimeout surroundings, surroundings.Fine →
    after.transport.nextRequestId + 1 < 2 ^ 64 →
    isOk (encodeJsonLine (.object [("method", .string method),
      ("id", .number (.posInt (UInt64.ofNat after.transport.nextRequestId))), ("params", params)])) = true →
    ∃ deadline, (after.request method params maxWait abandonOnTimeout surroundings .delivered).activity =
      .requesting after.transport.nextRequestId deadline abandonOnTimeout

section Rejected

variable {timeout : Nat} {actions : List SessionAction} {requestId deadline : Nat} {abandonOnTimeout : Bool}
  (waiting : (run timeout actions).activity = .requesting requestId deadline abandonOnTimeout)
  (works : (run timeout actions).transport.outputFailed = false) {surroundings : Surroundings} (fine : surroundings.Fine)
  (inTime : surroundings.now ≤ deadline) {message : Value} {code : Int} (rejection : Rejection message requestId code)

include waiting works fine inTime rejection

/-- The error ends its request, and the transport with it. -/
theorem rejection_ends (later : Nat) : ∃ error, (run timeout actions).next (.turn surroundings (.message message) later) =
    ({ run timeout actions with
        taken := (run timeout actions).taken ++ [message]
        transport := { (run timeout actions).transport with
          notificationDeadline := some (later + (run timeout actions).transport.timeout)
          outputFailed := true
          stdinOpen := false } } : StdioSession).answer requestId (.error error) := by
  obtain ⟨error, routed⟩ := rejection.routed (run timeout actions).transport.pendingNotifications
  have kept := keeps_own_reply waiting rejection.named
  generalize run timeout actions = session at *
  refine ⟨if surroundings.closes then error else .unavailable, ?_⟩
  have undropped : ({ session.transport with
      notificationDeadline := some (later + session.transport.timeout) } : StdioTransport).discardAbandonedResponse
      message = none := by
    unfold StdioTransport.discardAbandonedResponse at kept ⊢
    split at kept
    · rfl
    · split_ifs at kept with abandoned
      exact if_neg abandoned
  simp only [StdioSession.next, waiting, requestTurn, StdioTransport.checkCancelled_fine works fine,
    if_neg (Nat.not_lt.mpr inTime), routeMessage, undropped, routed]
  rfl

/-- A remote error ends the session: it does not go on in any respect but the answer, and whatever is called from then
on, nothing is delivered, neither what was pending nor what arrives, and every request is refused. -/
theorem rejection_ends_session (later : Nat) :
    let after := (run timeout actions).next (.turn surroundings (.message message) later)
    ¬ GoesOn (run timeout actions) after requestId code ∧ after.transport.stdinOpen = false ∧
      ∀ continuation, Refuses after (Machine.run next after continuation) := by
  obtain ⟨error, ends⟩ := rejection_ends waiting works fine inTime rejection later
  rw [ends]
  refine ⟨fun goesOn => ?_, rfl, fun continuation => ?_⟩
  · have opened := goesOn.stdinOpen
    cases opened
  · refine Ended.run ?_ continuation
    exact ⟨rfl, rfl⟩

end Rejected

end StdioSession

/-! ### An overloaded server -/

namespace StdioSession

mutual

/-- The compact text of a value whose strings need no escapes. -/
def compact : Value → String
  | .null => "null"
  | .bool value => if value then "true" else "false"
  | .number (.posInt value) => toString value.toNat
  | .number (.negInt value) => toString value.toInt
  | .number (.float _) => "0.0"
  | .string value => "\"" ++ value ++ "\""
  | .array values => "[" ++ ",".intercalate (compactItems values) ++ "]"
  | .object fields => "\x7b" ++ ",".intercalate (compactFields fields) ++ "\x7d"

def compactItems : List Value → List String
  | [] => []
  | value :: rest => compact value :: compactItems rest

def compactFields : List (String × Value) → List String
  | [] => []
  | (name, value) :: rest => ("\"" ++ name ++ "\":" ++ compact value) :: compactFields rest

end

abbrev WriteJson.compact : WriteJson where
  text := StdioSession.compact

/-- The answer of a server that asks to try again later. -/
def overloaded : Value :=
  .object [("id", .number (.posInt 0)), ("error", .object [("code", .number (.negInt (-32001))),
    ("message", .string "Server overloaded; retry later.")])]

/-- A moment without trouble. -/
def calm : Surroundings :=
  ⟨0, false, false, true⟩

/-- The models are asked for. -/
def listing : List SessionAction :=
  [.request "model/list" (.object []) 10 false calm .delivered]

theorem overloaded_rejection : Rejection overloaded 0 (-32001) where
  named := by decide +kernel
  described := ⟨_, "Server overloaded; retry later.", rfl, by decide +kernel, by decide +kernel, by decide +kernel⟩

theorem listing_waits : (@run WriteJson.compact 10 listing).activity = .requesting 0 10 false ∧
    (@run WriteJson.compact 10 listing).transport.outputFailed = false := by
  decide +kernel

/-- The same request, tried again, is refused. -/
theorem overloaded_ends :
    let before := @run WriteJson.compact 10 listing
    let after := @next WriteJson.compact before (.turn calm (.message overloaded) 0)
    let again := @request WriteJson.compact after "model/list" (.object []) 10 false calm .delivered
    ¬ @GoesOn WriteJson.compact before after 0 (-32001) ∧
      (after.answers.map fun answer => (answer.1, answer.2.toOption.isSome)) = [(0, false)] ∧
      (again.answers.map fun answer => (answer.1, answer.2.toOption.isSome)) = [(0, false), (1, false)] := by
  refine ⟨fun goesOn => ?_, by decide +kernel, by decide +kernel⟩
  have closed : (@next WriteJson.compact (@run WriteJson.compact 10 listing)
      (.turn calm (.message overloaded) 0)).transport.stdinOpen = false := by decide +kernel
  obtain ⟨-, opened, -⟩ := goesOn
  rw [closed] at opened
  cases opened

theorem overloaded_session_ends :
    Refuses (@next WriteJson.compact (@run WriteJson.compact 10 listing) (.turn calm (.message overloaded) 0))
      (Machine.run (@next WriteJson.compact)
        (@next WriteJson.compact (@run WriteJson.compact 10 listing) (.turn calm (.message overloaded) 0)) listing) :=
  (@rejection_ends_session WriteJson.compact 10 listing 0 10 false listing_waits.1 listing_waits.2 calm ⟨rfl, rfl⟩
    (Nat.zero_le _) overloaded (-32001) overloaded_rejection 0).2.2 listing

end StdioSession

end Bastet.Codex
