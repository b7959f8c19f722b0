import Bastet.Adapter.Evidence
import Bastet.Adapter.EventStreams
import Bastet.Adapter.Stdio
import Bastet.Adapter.WorkspaceEvidence
import Bastet.Library.HeldBack

/-! A Codex run as its caller follows it: calls of the tracker with all that the app server can give them. The
terminal update waits for the receipt of what the run changed. -/

set_option autoImplicit false

namespace Bastet.Codex

open Fallible EventStream Bastet.Core Bastet.Adapter

inductive AppServerError where
  | transport (error : TransportError)
  | notInitialized
  | protocolDrift
  deriving DecidableEq, Repr

/-- `RunTrackerError`, with the errors of the app server kept apart. -/
inductive CallError where
  | appServer (error : AppServerError)
  | tracker (error : RunTrackerError)
  deriving DecidableEq, Repr

/-- What the app server gives a call that waits; the window of `poll_update` may end with nothing. -/
inductive Polled where
  | notification (notification : AppServerNotification)
  | nothing
  | failed (error : AppServerError)

/-- A call of `next_update` or `poll_update`: the time it is given, what the app server gives it and what a scan of the
workspace gives then. -/
structure Observation where
  occurredAt : String
  received : List Polled
  scan : Except WorkspaceEvidenceError Files

inductive Call where
  | update (observation : Observation)
  | requestCancellation (interrupted : Except AppServerError Unit) (occurredAt : String)
  | resumeThread (resumed : Except AppServerError String) (occurredAt : String)

/-- The calls that ask for an update. -/
def Call.asks : Call → Bool
  | .update _ => true
  | .requestCancellation _ _ | .resumeThread _ _ => false

/-- The update a call hands out. -/
def handed {ε υ : Type} (result : Option (Except ε (Option υ))) : Option υ :=
  (result.bind Except.toOption).join

namespace CodexRunTracker

/-- An event of the run's own side; without one the answer is a drift of the protocol. -/
def ownUpdate (self : CodexRunTracker) (answer : Except LifecycleError (NormalizedCodexEvent × CodexRunStream)) :
    Option (Except CallError (Option CodexRunUpdate)) × CodexRunTracker :=
  match answer with
  | .ok (event, stream) => (some (.ok (some (.lifecycle event))), { self with stream })
  | .error _ => (some (.error (.appServer .protocolDrift)), self)

variable [SerdeJson]

/-- `next_run_update_with_output` and `poll_run_update_with_output`; without a result the call still waits. -/
def receive (self : CodexRunTracker) (occurredAt : String) :
    List Polled → Option (Except CallError (Option CodexRunUpdate)) × CodexRunTracker
  | [] => (none, self)
  | .nothing :: _ => (some (.ok none), self)
  | .failed (.transport .timedOut) :: _ => self.ownUpdate (self.stream.deadlineExceeded occurredAt)
  | .failed (.transport .unavailable) :: _ => self.ownUpdate (self.stream.transportLost occurredAt)
  | .failed error :: _ => (some (.error (.appServer error)), self)
  | .notification notification :: rest =>
    match self.observe ⟨notification, occurredAt, .ok none⟩ with
    | (.error error, after) => (some (.error (.tracker error)), after)
    | (.ok (some update), after) => (some (.ok (some update)), after)
    | (.ok none, after) => after.receive occurredAt rest

end CodexRunTracker

/-- A tracker with the snapshot of the workspace it was started with. -/
structure TrackedRun where
  tracker : CodexRunTracker
  before : Option WorkspaceSnapshot

namespace TrackedRun

variable [SerdeJson]

def new (runId : RunId) (providerThreadId providerTurnId : String) (workspaceBefore : Option WorkspaceSnapshot) :
    Except RunTrackerError TrackedRun := do
  let tracker ← CodexRunTracker.new runId providerThreadId providerTurnId workspaceBefore.isSome
  return ⟨tracker, workspaceBefore⟩

/-- `next_update` and `poll_update`. -/
def update (self : TrackedRun) (observation : Observation) :
    Option (Except CallError (Option CodexRunUpdate)) × TrackedRun :=
  match self.tracker.pendingTerminal with
  | some terminal =>
    (some (.ok (some terminal)), { self with tracker := { self.tracker with pendingTerminal := none } })
  | none =>
    match self.tracker.receive observation.occurredAt observation.received with
    | (some (.ok (some update)), tracker) =>
      let ordered := tracker.orderUpdate update (WorkspaceSnapshot.shown self.before observation.scan)
      (some ((ordered.1.mapError .tracker).map some), { self with tracker := ordered.2 })
    | (other, tracker) => (other, { self with tracker })

/-- An event of the run's own side that the caller asked for. -/
def ownEvent (self : TrackedRun) (answer : Except LifecycleError (NormalizedCodexEvent × CodexRunStream)) :
    Except CallError CodexRunUpdate × TrackedRun :=
  match answer with
  | .ok (event, stream) => (.ok (.lifecycle event), { self with tracker := { self.tracker with stream } })
  | .error error => (.error (.tracker (.lifecycle error)), self)

/-- `request_cancellation` and `request_cancellation_with_timeout`. -/
def requestCancellation (self : TrackedRun) (interrupted : Except AppServerError Unit) (occurredAt : String) :
    Except CallError CodexRunUpdate × TrackedRun :=
  match interrupted with
  | .error error => (.error (.appServer error), self)
  | .ok () => self.ownEvent (self.tracker.stream.cancellationRequested occurredAt)

def resumeThread (self : TrackedRun) (resumed : Except AppServerError String) (occurredAt : String) :
    Except CallError CodexRunUpdate × TrackedRun :=
  match resumed with
  | .error error => (.error (.appServer error), self)
  | .ok threadId => self.ownEvent (self.tracker.stream.recoveryStarted threadId occurredAt)

/-- The run after a call, and the update the call hands out. -/
def next (self : TrackedRun) : Call → TrackedRun × Option CodexRunUpdate
  | .update observation => ((self.update observation).2, handed (self.update observation).1)
  | .requestCancellation interrupted occurredAt =>
    ((self.requestCancellation interrupted occurredAt).2, (self.requestCancellation interrupted occurredAt).1.toOption)
  | .resumeThread resumed occurredAt =>
    ((self.resumeThread resumed occurredAt).2, (self.resumeThread resumed occurredAt).1.toOption)

/-- The terminal update that a call consumes. -/
def consumes (self : TrackedRun) (observation : Observation) : Option CodexRunUpdate :=
  match self.tracker.pendingTerminal with
  | some _ => none
  | none => (handed (self.tracker.receive observation.occurredAt observation.received).1).filter CodexRunTracker.ends

end TrackedRun

namespace CodexRunTracker

variable [SerdeJson] {self : CodexRunTracker}

/-- What receiving does to a tracker: it only closes the stream, with the update that ends the run. -/
structure Receives (tracker : CodexRunTracker) (given : Option CodexRunUpdate) (after : CodexRunTracker) : Prop where
  pending : after.pendingTerminal = tracker.pendingTerminal
  evidence : after.evidence = tracker.evidence
  before : after.before = tracker.before
  flag : after.providerWriteReceipt = tracker.providerWriteReceipt
  closes : tracker.stream.terminal = true → after.stream.terminal = true
  ends : ∀ update, given = some update → ends update = true →
    tracker.stream.terminal = false ∧ after.stream.terminal = true
  receipts : ∀ text, given = some (.evidence (.writeReceipt text)) →
    ∃ kind, CodexRunEvidenceUpdate.writeReceipt text = tracker.evidence.receipt kind

namespace Receives

variable {middle after : CodexRunTracker} {given : Option CodexRunUpdate}

theorem refl (self : CodexRunTracker) : self.Receives none self where
  pending := rfl
  evidence := rfl
  before := rfl
  flag := rfl
  closes := id
  ends _ answered := by cases answered
  receipts _ answered := by cases answered

theorem trans (first : self.Receives none middle) (second : middle.Receives given after) : self.Receives given after where
  pending := second.pending.trans first.pending
  evidence := second.evidence.trans first.evidence
  before := second.before.trans first.before
  flag := second.flag.trans first.flag
  closes shut := second.closes (first.closes shut)
  ends update answered last := by
    obtain ⟨opened, shut⟩ := second.ends update answered last
    refine ⟨?_, shut⟩
    rw [Bool.eq_false_iff]
    intro closed
    rw [first.closes closed] at opened
    cases opened
  receipts text answered := by
    rw [← first.evidence]
    exact second.receipts text answered

omit [SerdeJson] in
theorem ends_terminal {event : NormalizedCodexEvent} (last : CodexRunTracker.ends (.lifecycle event) = true) :
    event.event.state.isTerminal = true := by
  simp only [CodexRunTracker.ends, List.mem_cons, List.not_mem_nil, or_false, decide_eq_true_eq] at last
  rcases last with same | same | same | same <;> rw [same] <;> rfl

theorem lifecycle {goesOn : Bool} {event : NormalizedCodexEvent} {stream : CodexRunStream}
    (answers : self.stream.Answers goesOn event stream) :
    self.Receives (some (.lifecycle event)) { self with stream } where
  pending := rfl
  evidence := rfl
  before := rfl
  flag := rfl
  closes shut := by
    rw [answers.opened] at shut
    cases shut
  ends update answered last := by
    cases answered
    refine ⟨answers.opened, ?_⟩
    have terminal := ends_terminal last
    rwa [answers.state, ← answers.closes] at terminal
  receipts text answered := by cases answered

/-- Evidence is given by a stream that stays as it was. -/
theorem evidenceGiven {notification : AppServerNotification} {update : CodexRunEvidenceUpdate}
    (read : self.evidence.ingest notification = .ok (some update)) : self.Receives (some (.evidence update)) self where
  pending := rfl
  evidence := rfl
  before := rfl
  flag := rfl
  closes := id
  ends other answered last := by
    cases answered
    cases last
  receipts text answered := by
    cases answered
    rcases CodexRunEvidence.ingest_ok read with ⟨_, same, gives⟩ | ⟨impossible, -⟩
    · cases same
      cases gives with
      | diff => exact ⟨_, rfl⟩
      | change => exact ⟨_, rfl⟩
    · cases impossible

end Receives

theorem observe_receives (self : CodexRunTracker) (arrival : Arrival) :
    self.Receives (self.observe arrival).1.toOption.join (self.observe arrival).2 := by
  unfold observe
  cases self.finalOutput.ingest arrival.notification with
  | error => exact .refl self
  | ok finalOutput =>
    have collected : self.Receives none { self with finalOutput } :=
      ⟨rfl, rfl, rfl, rfl, id, fun _ answered => (by cases answered), fun _ answered => (by cases answered)⟩
    dsimp only
    cases ingested : self.stream.ingest arrival.notification arrival.occurredAt with
    | error => exact collected
    | ok answer =>
      obtain ⟨event, stream⟩ := answer
      cases event with
      | some event => exact collected.trans (.lifecycle (CodexRunStream.ingest_some ingested))
      | none =>
        obtain rfl := CodexRunStream.ingest_none ingested
        cases read : self.evidence.ingest arrival.notification with
        | error => exact collected
        | ok update =>
          cases update with
          | none => exact collected
          | some update => exact collected.trans (.evidenceGiven read)

omit [SerdeJson] in
theorem ownUpdate_receives [SerdeJson] {answer : Except LifecycleError (NormalizedCodexEvent × CodexRunStream)}
    (answers : ∀ event stream, answer = .ok (event, stream) → self.stream.Answers false event stream) :
    self.Receives (handed (self.ownUpdate answer).1) (self.ownUpdate answer).2 := by
  cases answer with
  | error => exact .refl self
  | ok answer => exact .lifecycle (answers answer.1 answer.2 rfl)

theorem receive_receives (self : CodexRunTracker) (occurredAt : String) (received : List Polled) :
    self.Receives (handed (self.receive occurredAt received).1) (self.receive occurredAt received).2 := by
  induction received generalizing self with
  | nil => exact .refl self
  | cons first rest ih =>
    cases first with
    | nothing => exact .refl self
    | failed error =>
      cases error with
      | transport error =>
        cases error with
        | timedOut => exact ownUpdate_receives fun _ _ accepted => CodexRunStream.localTerminal_ok rfl accepted
        | unavailable => exact ownUpdate_receives fun _ _ accepted => CodexRunStream.localTerminal_ok rfl accepted
        | cancelled | protocolDrift | remoteRejected => exact .refl self
      | notInitialized | protocolDrift => exact .refl self
    | notification notification =>
      have observed := observe_receives self ⟨notification, occurredAt, .ok none⟩
      rw [receive]
      generalize self.observe ⟨notification, occurredAt, .ok none⟩ = answer at observed ⊢
      obtain ⟨given, after⟩ := answer
      cases given with
      | error => exact observed
      | ok given =>
        cases given with
        | none => exact observed.trans (ih after)
        | some update => exact observed

omit [SerdeJson] in
/-- An update that does not end the run is given on, and a receipt is remembered. -/
theorem orderUpdate_other {update : CodexRunUpdate} (goes : ends update = false)
    (workspace : Except WorkspaceEvidenceError (Option String)) :
    self.orderUpdate update workspace =
      (.ok update, { self with providerWriteReceipt := self.providerWriteReceipt || isReceipt update }) := by
  unfold orderUpdate
  cases receipt : isReceipt update with
  | true => simp
  | false => simp [goes]

omit [SerdeJson] in
/-- An update that ends the run waits if there is a receipt to show and the provider gave none. -/
theorem orderUpdate_last {update : CodexRunUpdate} (last : ends update = true)
    (workspace : Except WorkspaceEvidenceError (Option String)) :
    self.orderUpdate update workspace =
      match if self.providerWriteReceipt || !self.before then .ok none else workspace with
      | .error error => (.error (.workspace error), self)
      | .ok none => (.ok update, self)
      | .ok (some receipt) =>
        (.ok (.evidence (.writeReceipt receipt)), { self with pendingTerminal := some update }) := by
  have other : isReceipt update = false := by
    cases update with
    | lifecycle => rfl
    | evidence => cases last
  unfold orderUpdate
  cases self.providerWriteReceipt with
  | true => simp [other]
  | false =>
    cases self.before with
    | false => simp [other]
    | true => rcases workspace with error | _ | receipt <;> simp [other, last]

end CodexRunTracker

namespace TrackedRun

open CodexRunTracker

variable [SerdeJson] {run : TrackedRun}

/-- The notifications of a call, each with the time and the workspace of the call. -/
def Observation.arrivals (run : TrackedRun) (occurredAt : String) (notifications : List AppServerNotification)
    (scan : Except WorkspaceEvidenceError Files) : List Arrival :=
  notifications.map fun notification => ⟨notification, occurredAt, WorkspaceSnapshot.shown run.before scan⟩

/-- A call that is given notifications only is a call of the tracker alone. -/
theorem update_notifications (run : TrackedRun) (occurredAt : String) (notifications : List AppServerNotification)
    (scan : Except WorkspaceEvidenceError Files) :
    let called := run.tracker.nextUpdate (Observation.arrivals run occurredAt notifications scan)
    run.update ⟨occurredAt, notifications.map .notification, scan⟩ =
      (called.1.map fun result => (result.mapError CallError.tracker).map some, ⟨called.2.1, run.before⟩) := by
  cases held : run.tracker.pendingTerminal with
  | some terminal => simp [update, nextUpdate, held, Except.mapError, Except.map]
  | none =>
    induction notifications generalizing run with
    | nil => simp [update, nextUpdate, held, Observation.arrivals, receive, readUpdate]
    | cons notification rest ih =>
      have receives := observe_receives run.tracker ⟨notification, occurredAt, .ok none⟩
      have same : run.tracker.observe ⟨notification, occurredAt, WorkspaceSnapshot.shown run.before scan⟩ =
          run.tracker.observe ⟨notification, occurredAt, .ok none⟩ := rfl
      unfold update nextUpdate Observation.arrivals
      rw [held]
      dsimp only
      rw [List.map_cons, List.map_cons, receive, readUpdate, same]
      generalize run.tracker.observe ⟨notification, occurredAt, .ok none⟩ = answer at receives ⊢
      obtain ⟨given, after⟩ := answer
      cases given with
      | error => rfl
      | ok given =>
        cases given with
        | some update => rfl
        | none =>
          have free : after.pendingTerminal = none := receives.pending.trans held
          have rest_ := ih ⟨after, run.before⟩ free
          unfold update nextUpdate Observation.arrivals at rest_
          dsimp only at rest_
          rw [free] at rest_
          exact rest_

/-- What a call does to a run, and the update it hands out. -/
inductive Steps (run : TrackedRun) (call : Call) : TrackedRun × Option CodexRunUpdate → Prop
  | released {terminal : CodexRunUpdate} (asks : call.asks = true)
      (held : run.tracker.pendingTerminal = some terminal) :
      Steps run call (⟨{ run.tracker with pendingTerminal := none }, run.before⟩, some terminal)
  | silent {given : Option CodexRunUpdate} {tracker : CodexRunTracker}
      (free : call.asks = true → run.tracker.pendingTerminal = none) (receives : run.tracker.Receives given tracker) :
      Steps run call (⟨tracker, run.before⟩, none)
  | other {update : CodexRunUpdate} {tracker : CodexRunTracker}
      (free : call.asks = true → run.tracker.pendingTerminal = none)
      (opened : call.asks = false → run.tracker.stream.terminal = false)
      (receives : run.tracker.Receives (some update) tracker) (goes : ends update = false) :
      Steps run call (⟨{ tracker with
        providerWriteReceipt := tracker.providerWriteReceipt || isReceipt update }, run.before⟩, some update)
  | ended {update : CodexRunUpdate} {tracker : CodexRunTracker} (asks : call.asks = true)
      (free : run.tracker.pendingTerminal = none) (receives : run.tracker.Receives (some update) tracker)
      (last : ends update = true) : Steps run call (⟨tracker, run.before⟩, some update)
  | behind {update : CodexRunUpdate} {tracker : CodexRunTracker} (receipt : String) (asks : call.asks = true)
      (free : run.tracker.pendingTerminal = none) (receives : run.tracker.Receives (some update) tracker)
      (last : ends update = true) :
      Steps run call (⟨{ tracker with pendingTerminal := some update }, run.before⟩,
        some (.evidence (.writeReceipt receipt)))

theorem ownEvent_steps {call : Call} (quiet : call.asks = false)
    {answer : Except LifecycleError (NormalizedCodexEvent × CodexRunStream)}
    (answers : ∀ event stream, answer = .ok (event, stream) → run.tracker.stream.Answers true event stream) :
    Steps run call ((run.ownEvent answer).2, (run.ownEvent answer).1.toOption) := by
  have free : call.asks = true → run.tracker.pendingTerminal = none := by
    rw [quiet]
    exact fun asks => by cases asks
  cases answer with
  | error => exact .silent free (.refl run.tracker)
  | ok answer =>
    obtain ⟨event, stream⟩ := answer
    have answered := answers event stream rfl
    have goes : ends (.lifecycle event) = false := by
      rw [Bool.eq_false_iff]
      intro last
      have terminal := Receives.ends_terminal last
      rw [answered.state] at terminal
      cases terminal
    have step := Steps.other free (fun _ => answered.opened) (.lifecycle answered) goes
    simp only [isReceipt, Bool.or_false] at step
    exact step

theorem next_steps (run : TrackedRun) (call : Call) : Steps run call (run.next call) := by
  cases call with
  | requestCancellation interrupted occurredAt =>
    change Steps run _ ((run.requestCancellation interrupted occurredAt).2, _)
    cases interrupted with
    | error => exact .silent (fun asks => by cases asks) (.refl run.tracker)
    | ok => exact ownEvent_steps rfl fun _ _ accepted => (CodexRunStream.cancellationRequested_ok accepted).1
  | resumeThread resumed occurredAt =>
    change Steps run _ ((run.resumeThread resumed occurredAt).2, _)
    cases resumed with
    | error => exact .silent (fun asks => by cases asks) (.refl run.tracker)
    | ok threadId => exact ownEvent_steps rfl fun _ _ accepted => CodexRunStream.recoveryStarted_ok accepted
  | update observation =>
    change Steps run _ ((run.update observation).2, handed (run.update observation).1)
    unfold update
    cases held : run.tracker.pendingTerminal with
    | some terminal => exact .released rfl held
    | none =>
      have receives := receive_receives run.tracker observation.occurredAt observation.received
      generalize run.tracker.receive observation.occurredAt observation.received = answer at receives ⊢
      obtain ⟨result, tracker⟩ := answer
      cases result with
      | none => exact .silent (fun _ => held) receives
      | some result =>
        cases result with
        | error => exact .silent (fun _ => held) receives
        | ok given =>
          cases given with
          | none => exact .silent (fun _ => held) receives
          | some update =>
            dsimp only
            cases last : ends update with
            | false =>
              rw [orderUpdate_other last]
              exact .other (fun _ => held) (fun quiet => by cases quiet) receives last
            | true =>
              rw [orderUpdate_last last]
              generalize (if tracker.providerWriteReceipt || !tracker.before then Except.ok none
                else WorkspaceSnapshot.shown run.before observation.scan) = told
              cases told with
              | error => exact .silent (fun _ => held) receives
              | ok receipt =>
                cases receipt with
                | none => exact .ended rfl held receives last
                | some receipt => exact .behind receipt rfl held receives last

/-- A run with the turn it follows and the snapshot it began with. -/
structure Sound (evidence : CodexRunEvidence) (before : Option WorkspaceSnapshot) (run : TrackedRun) : Prop where
  evidence : run.tracker.evidence = evidence
  snapshot : run.before = before
  writes : run.tracker.before = before.isSome
  held : ∀ terminal, run.tracker.pendingTerminal = some terminal → run.tracker.stream.terminal = true

/-- An update that does not end the run and is no receipt of the run's own side. -/
def Ordinary (evidence : CodexRunEvidence) (update : CodexRunUpdate) : Prop :=
  ends update = false ∧ ∀ text, update = .evidence (.writeReceipt text) →
    ∃ kind, CodexRunEvidenceUpdate.writeReceipt text = evidence.receipt kind

variable {evidence : CodexRunEvidence} {before : Option WorkspaceSnapshot}

theorem Sound.next (sound : Sound evidence before run) (call : Call) : Sound evidence before (run.next call).1 := by
  have steps := next_steps run call
  generalize run.next call = step at steps ⊢
  cases steps with
  | released =>
    exact ⟨sound.evidence, sound.snapshot, sound.writes, fun terminal waiting => by cases waiting⟩
  | silent _ receives | ended _ _ receives | other _ _ receives =>
    refine ⟨receives.evidence.trans sound.evidence, sound.snapshot, receives.before.trans sound.writes, ?_⟩
    intro terminal waiting
    exact receives.closes (sound.held terminal (receives.pending.symm.trans waiting))
  | behind receipt _ _ receives last =>
    refine ⟨receives.evidence.trans sound.evidence, sound.snapshot, receives.before.trans sound.writes, ?_⟩
    exact fun _ _ => (receives.ends _ rfl last).2

theorem disciplined (evidence : CodexRunEvidence) (before : Option WorkspaceSnapshot) :
    HeldBack.Disciplined TrackedRun.next (Sound evidence before) (Ordinary evidence)
      (fun run => run.tracker.pendingTerminal) (fun run => run.tracker.stream.terminal) Call.asks where
  kept run call sound := sound.next call
  closes run call sound shut := by
    have steps := next_steps run call
    generalize run.next call = step at steps ⊢
    cases steps with
    | released => exact shut
    | silent _ receives | other _ _ receives | ended _ _ receives | behind _ _ _ receives => exact receives.closes shut
  opened run call sound unfinished update answered := by
    have steps := next_steps run call
    generalize run.next call = step at steps unfinished answered
    cases steps with
    | released asks held =>
      rw [sound.held _ held] at unfinished
      cases unfinished
    | silent => cases answered
    | other _ _ receives goes =>
      cases answered
      exact ⟨goes, fun text same => sound.evidence ▸ receives.receipts text (congrArg some same)⟩
    | ended _ _ receives last | behind _ _ _ receives last =>
      rw [(receives.ends _ rfl last).2] at unfinished
      cases unfinished
  finished run call sound nothing shut := by
    have steps := next_steps run call
    generalize run.next call = step at steps ⊢
    cases steps with
    | released asks held =>
      rw [nothing] at held
      cases held
    | silent _ receives => exact ⟨receives.pending.trans nothing, fun update answered => by cases answered⟩
    | other _ _ receives goes =>
      refine ⟨receives.pending.trans nothing, fun update answered => ?_⟩
      cases answered
      exact ⟨goes, fun text same => sound.evidence ▸ receives.receipts text (congrArg some same)⟩
    | ended _ _ receives last | behind _ _ _ receives last =>
      rw [(receives.ends _ rfl last).1] at shut
      cases shut
  waits run call terminal sound waiting quiet := by
    have steps := next_steps run call
    generalize run.next call = step at steps ⊢
    cases steps with
    | silent _ receives => exact ⟨receives.pending.trans waiting, rfl⟩
    | other _ opened =>
      have shut := sound.held terminal waiting
      rw [opened quiet] at shut
      cases shut
    | released asks | ended asks | behind _ asks =>
      rw [quiet] at asks
      cases asks
  released run call terminal sound waiting asks := by
    have shut := sound.held terminal waiting
    have steps := next_steps run call
    generalize run.next call = step at steps ⊢
    cases steps with
    | released _ held => exact ⟨rfl, shut, held.symm.trans waiting⟩
    | silent free | other free =>
      rw [free asks] at waiting
      cases waiting
    | ended _ free | behind _ _ free =>
      rw [free] at waiting
      cases waiting

/-- The provider has given a receipt. -/
def marked (run : TrackedRun) : Bool :=
  run.tracker.providerWriteReceipt

/-- The receipts of the provider are remembered as long as the run goes on. -/
theorem receipt_marked (sound : Sound evidence before run) (call : Call)
    (unfinished : (run.next call).1.tracker.stream.terminal = false) :
    (run.next call).1.marked = (run.marked || (run.next call).2.any isReceipt) := by
  have steps := next_steps run call
  generalize run.next call = step at steps unfinished ⊢
  cases steps with
  | released asks held =>
    rw [sound.held _ held] at unfinished
    cases unfinished
  | silent _ receives => exact receives.flag.trans (Bool.or_false _).symm
  | other _ _ receives => exact congrArg (· || _) receives.flag
  | ended _ _ receives last | behind _ _ _ receives last =>
    rw [(receives.ends _ rfl last).2] at unfinished
    cases unfinished

omit [SerdeJson] in
theorem new_ok {runId : RunId} {providerThreadId providerTurnId : String}
    (started : TrackedRun.new runId providerThreadId providerTurnId before = .ok run) :
    Sound ⟨providerThreadId, providerTurnId⟩ before run ∧ run.tracker.providerWriteReceipt = false := by
  unfold TrackedRun.new CodexRunTracker.new CodexRunEvidence.new at started
  simp only [bind_ok, pure_ok, mapError_ok, exists_unit] at started
  obtain ⟨tracker, ⟨stream, -, evidence, ⟨-, rfl⟩, finalOutput, -, rfl⟩, rfl⟩ := started
  exact ⟨⟨rfl, rfl, rfl, fun terminal waiting => by cases waiting⟩, rfl⟩

/-- A call that consumes the terminal update ends the run, behind a receipt if there is one and the provider gave
none. -/
theorem consumes_ends {observation : Observation} {terminal : CodexRunUpdate} {receipt : Option String}
    (sound : Sound evidence before run) (consumed : run.consumes observation = some terminal)
    (told : WorkspaceSnapshot.shown run.before observation.scan = .ok receipt) :
    HeldBack.Ends TrackedRun.next (fun run => run.tracker.pendingTerminal) (fun run => run.tracker.stream.terminal) run
      (.update observation)
      ((if run.tracker.providerWriteReceipt then none else receipt).map fun text => .evidence (.writeReceipt text))
      terminal ∧ run.tracker.stream.terminal = false := by
  have receives := receive_receives run.tracker observation.occurredAt observation.received
  unfold consumes at consumed
  cases held : run.tracker.pendingTerminal with
  | some waiting =>
    rw [held] at consumed
    cases consumed
  | none =>
    rw [held] at consumed
    obtain ⟨given, last⟩ := Option.filter_eq_some_iff.mp consumed
    have next : run.next (.update observation) =
        ((run.update observation).2, handed (run.update observation).1) := rfl
    unfold update at next
    rw [held] at next
    generalize run.tracker.receive observation.occurredAt observation.received = answer at receives given next
    obtain ⟨result, tracker⟩ := answer
    obtain rfl : result = some (.ok (some terminal)) := by
      cases result with
      | none => cases given
      | some result =>
        cases result with
        | error => cases given
        | ok update =>
          have same : update = some terminal := given
          rw [same]
    obtain ⟨opened, shut⟩ := receives.ends terminal rfl last
    have shown : (if tracker.providerWriteReceipt || !tracker.before then Except.ok none
        else WorkspaceSnapshot.shown run.before observation.scan) = .ok (if run.tracker.providerWriteReceipt then none else receipt) := by
      rw [receives.flag, receives.before, sound.writes, told]
      cases run.tracker.providerWriteReceipt with
      | true => rfl
      | false =>
        cases written : before with
        | some snapshot => rfl
        | none =>
          rw [sound.snapshot, written] at told
          exact told
    dsimp only at next
    rw [orderUpdate_last last, shown] at next
    refine ⟨?_, opened⟩
    cases waits : (if run.tracker.providerWriteReceipt then none else receipt) with
    | none =>
      rw [waits] at next
      exact ⟨by rw [next]; rfl, by rw [next]; exact receives.pending.trans held, by rw [next]; exact shut⟩
    | some text =>
      rw [waits] at next
      exact ⟨by rw [next]; rfl, by rw [next]; rfl, by rw [next]; exact shut⟩

end TrackedRun

end Bastet.Codex
