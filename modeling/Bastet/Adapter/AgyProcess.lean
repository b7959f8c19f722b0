import Bastet.Adapter.EventStreams
import Bastet.Adapter.WorkspaceEvidence
import Bastet.Library.HeldBack

/-! The process of an Agy run, as its caller polls it. Each iteration of the receiving loop is one pass: what the clock,
the queue of the process's output and the cleanup of the process say in it comes from outside. -/

set_option autoImplicit false

namespace Bastet.Agy

open Fallible EventStream Bastet.Core Bastet.Adapter

/-- The last instant of the monotonic clock. -/
class MonotonicClock where
  last : Nat

/-- `Instant::checked_add`. -/
def checkedAdd [MonotonicClock] (instant duration : Nat) : Option Nat :=
  if instant + duration ≤ MonotonicClock.last then some (instant + duration) else none

inductive AgyProcessError where
  | invalidRequest
  | unavailable
  | timedOut
  | cancelled
  | cleanupUncertain
  | stream (error : AgyStreamError)
  | workspace (error : Codex.WorkspaceEvidenceError)
  deriving DecidableEq, Repr

/-- What `recv_timeout` gives: a line, a line that could not be read, the end of the output or nothing in time. -/
inductive Received where
  | line (line : String)
  | unreadable
  | disconnected
  | timeout
  deriving DecidableEq, Repr

/-- One pass of the loop: the clock when it begins and when a line has arrived, whether the queue has failed, and
whether the process can be shut down. -/
structure Pass where
  now : Nat
  received : Received
  receivedAt : Nat
  queueFailed : Bool
  cleaned : Bool

/-- A call of `poll_update`, with what the queue and the shutdown of the process say when it begins, and what a scan
of the workspace gives. -/
structure Poll where
  occurredAt : String
  maxWait : Nat
  begun : Nat
  queueFailed : Bool
  cleaned : Bool
  passes : List Pass
  scan : Except Codex.WorkspaceEvidenceError Files

structure AgyProcess where
  stream : AgyRunStream
  timeout : Nat
  inactivityDeadline : Nat
  cancellationRequested : Bool
  pending : Option AgyRunUpdate
  pendingTerminal : Option AgyRunUpdate
  before : Option WorkspaceSnapshot

inductive Call where
  | poll (poll : Poll)
  | requestCancellation (occurredAt : String) (cleaned : Bool)
  | cancelAndClose (cleaned : Bool)

/-- The calls that find the output of the process in order and ask for an update. -/
def Call.asks : Call → Bool
  | .poll call => !call.queueFailed
  | .requestCancellation _ _ | .cancelAndClose _ => false

def isTerminal : AgyRunUpdate → Bool
  | .lifecycle event _ =>
    decide (event.state ∈ [NormalizedRunState.succeeded, .failed, .cancelled, .blocked, .uncertain])
  | .cost _ | .writeReceipt _ => false

/-- `terminate` and `reap`, which differ in the time they give the process. -/
def shutdown (cleaned : Bool) : Except AgyProcessError Unit :=
  if cleaned then .ok () else .error .cleanupUncertain

/-- What the passes of a poll end with: nothing in time, an update, or one that ends the run. -/
inductive Observed where
  | nothing
  | update (update : AgyRunUpdate)
  | terminal (update : AgyRunUpdate)

namespace AgyProcess

section Opening

variable [SerdeJson] [MonotonicClock]

/-- The stream of a run; one that is resumed begins with an update of its own. -/
def openStream (runId : RunId) (conversationId : Option String) :
    Except AgyProcessError (AgyRunStream × Option AgyRunUpdate) :=
  match conversationId with
  | none => .ok (AgyRunStream.new runId, none)
  | some conversationId => do
    let stream ← (AgyRunStream.resuming runId conversationId).mapError .stream
    match stream.recoveryStarted "locally-observed" with
    | (.error error, _) => .error (.stream error)
    | (.ok update, stream) => .ok (stream, some update)

/-- The end of `spawn_with_launcher_and_cancel`. -/
def opened (runId : RunId) (conversationId : Option String) (timeout spawnedAt : Nat)
    (before : Option WorkspaceSnapshot) : Except AgyProcessError AgyProcess := do
  let (stream, pending) ← openStream runId conversationId
  let inactivityDeadline ← okOr (checkedAdd spawnedAt timeout) .invalidRequest
  return ⟨stream, timeout, inactivityDeadline, false, pending, none, before⟩

end Opening

/-- An event of the process's own side that ends the run. -/
def ownTerminal (self : AgyProcess) (answer : Except AgyStreamError AgyRunUpdate × AgyRunStream) :
    Option (Except AgyProcessError Observed) × AgyProcess :=
  (some ((answer.1.mapError .stream).map .terminal), { self with stream := answer.2 })

section Polling

variable [SerdeJson]

/-- The output has ended, or cannot be read on. -/
def outputEnded (self : AgyProcess) (occurredAt : String) (pass : Pass) :
    Option (Except AgyProcessError Observed) × AgyProcess :=
  if pass.queueFailed then (some ((shutdown pass.cleaned).bind fun _ => .error .unavailable), self)
  else match shutdown pass.cleaned with
    | .error error => (some (.error error), self)
    | .ok () =>
      self.ownTerminal (if self.cancellationRequested then self.stream.cancelled occurredAt
        else self.stream.crashed occurredAt)

variable [ReadJson] [MonotonicClock]

/-- The loop of `poll_update`, up to the update it ends with; without a result the poll still waits. -/
def observe (self : AgyProcess) (occurredAt : String) (observationDeadline : Option Nat) :
    List Pass → Option (Except AgyProcessError Observed) × AgyProcess
  | [] => (none, self)
  | pass :: rest =>
    if self.inactivityDeadline ≤ pass.now then
      match shutdown pass.cleaned with
      | .error error => (some (.error error), self)
      | .ok () => self.ownTerminal (self.stream.timedOut occurredAt)
    else if observationDeadline.any fun deadline => decide (deadline ≤ pass.now) then (some (.ok .nothing), self)
    else match pass.received with
      | .line line =>
        match checkedAdd pass.receivedAt self.timeout with
        | none => (some ((shutdown pass.cleaned).bind fun _ => .error .invalidRequest), self)
        | some inactivityDeadline =>
          match self.stream.consumeLine line occurredAt with
          | (.error error, stream) => (some (.error (.stream error)), { self with inactivityDeadline, stream })
          | (.ok none, stream) => { self with inactivityDeadline, stream }.observe occurredAt observationDeadline rest
          | (.ok (some update), stream) =>
            if isTerminal update then
              (some ((shutdown pass.cleaned).map fun _ => .terminal update), { self with inactivityDeadline, stream })
            else (some (.ok (.update update)), { self with inactivityDeadline, stream })
      | .unreadable | .disconnected => self.outputEnded occurredAt pass
      | .timeout => self.observe occurredAt observationDeadline rest

/-- A terminal update waits for the receipt of what the run changed. -/
def orderTerminal (self : AgyProcess) (terminal : AgyRunUpdate) (scan : Except Codex.WorkspaceEvidenceError Files) :
    Except AgyProcessError AgyRunUpdate × AgyProcess :=
  match WorkspaceSnapshot.shown self.before scan with
  | .error error => (.error (.workspace error), { self with before := none })
  | .ok none => (.ok terminal, { self with before := none })
  | .ok (some receipt) => (.ok (.writeReceipt receipt), { self with before := none, pendingTerminal := some terminal })

def pollUpdate (self : AgyProcess) (poll : Poll) :
    Option (Except AgyProcessError (Option AgyRunUpdate)) × AgyProcess :=
  if poll.queueFailed then (some ((shutdown poll.cleaned).bind fun _ => .error .unavailable), self)
  else match self.pending, self.pendingTerminal with
    | some update, _ => (some (.ok (some update)), { self with pending := none })
    | none, some terminal => (some (.ok (some terminal)), { self with pendingTerminal := none })
    | none, none =>
      match self.observe poll.occurredAt (checkedAdd poll.begun poll.maxWait) poll.passes with
      | (none, after) => (none, after)
      | (some (.error error), after) => (some (.error error), after)
      | (some (.ok .nothing), after) => (some (.ok none), after)
      | (some (.ok (.update update)), after) => (some (.ok (some update)), after)
      | (some (.ok (.terminal terminal)), after) =>
        (some ((after.orderTerminal terminal poll.scan).1.map some), (after.orderTerminal terminal poll.scan).2)

def requestCancellation (self : AgyProcess) (occurredAt : String) (cleaned : Bool) :
    Except AgyProcessError AgyRunUpdate × AgyProcess :=
  match self.stream.cancellationStarted occurredAt with
  | (.error error, stream) => (.error (.stream error), { self with stream })
  | (.ok update, stream) =>
    ((shutdown cleaned).map fun _ => update, { self with stream, cancellationRequested := true })

def cancelAndClose (self : AgyProcess) (cleaned : Bool) : Except AgyProcessError Unit × AgyProcess :=
  (shutdown cleaned, { self with cancellationRequested := true })

/-- The process after a call, and the update the call hands out. -/
def next (self : AgyProcess) : Call → AgyProcess × Option AgyRunUpdate
  | .poll poll => ((self.pollUpdate poll).2, ((self.pollUpdate poll).1.bind Except.toOption).join)
  | .requestCancellation occurredAt cleaned =>
    ((self.requestCancellation occurredAt cleaned).2, (self.requestCancellation occurredAt cleaned).1.toOption)
  | .cancelAndClose cleaned => ((self.cancelAndClose cleaned).2, none)

/-- The terminal update that a poll consumes, once the process is shut down. -/
def consumes (self : AgyProcess) (poll : Poll) : Option AgyRunUpdate :=
  if poll.queueFailed then none
  else match self.pending, self.pendingTerminal with
    | none, none =>
      match (self.observe poll.occurredAt (checkedAdd poll.begun poll.maxWait) poll.passes).1 with
      | some (.ok (.terminal terminal)) => some terminal
      | _ => none
    | _, _ => none

end Polling

end AgyProcess

def AgyRunUpdate.isReceipt : AgyRunUpdate → Bool
  | .writeReceipt _ => true
  | .lifecycle _ _ | .cost _ => false

/-- An update that does not end the run and is no receipt. -/
structure Ordinary (update : AgyRunUpdate) : Prop where
  goes : isTerminal update = false
  noReceipt : update.isReceipt = false

namespace AgyRunStream

variable {stream : AgyRunStream} {update : AgyRunUpdate} {occurredAt : String}

/-- The updates of a stream are its events and costs. -/
theorem always_isReceipt {answer : Except AgyStreamError AgyRunUpdate × AgyRunStream}
    (plain : ∀ update, answer.1 = .ok update → update.isReceipt = false)
    (given : (always answer).1 = .ok (some update)) : update.isReceipt = false := by
  obtain ⟨result, after⟩ := answer
  cases result with
  | error => cases given
  | ok result =>
    cases given
    exact plain _ rfl

variable [SerdeJson]

theorem lifecycleWithEvidence_update {state : NormalizedRunState} {eventType : String}
    {failure : Option AdapterFailure} {evidenceClass : EvidenceClass}
    (given : (stream.lifecycleWithEvidence state eventType occurredAt failure evidenceClass).1 = .ok update) :
    update.isReceipt = false ∧
      isTerminal update = decide (state ∈ [NormalizedRunState.succeeded, .failed, .cancelled, .blocked, .uncertain]) := by
  unfold lifecycleWithEvidence at given
  split at given
  next => cases given
  next =>
    cases given
    exact ⟨rfl, rfl⟩

theorem recoveryStarted_ordinary (given : (stream.recoveryStarted occurredAt).1 = .ok update) : Ordinary update := by
  unfold recoveryStarted at given
  split at given
  next => cases given
  next =>
    obtain ⟨plain, goes⟩ := lifecycleWithEvidence_update given
    exact ⟨goes, plain⟩

theorem cancellationStarted_ordinary (given : (stream.cancellationStarted occurredAt).1 = .ok update) :
    Ordinary update := by
  unfold cancellationStarted at given
  split at given
  next => cases given
  next =>
    obtain ⟨plain, goes⟩ := lifecycleWithEvidence_update given
    exact ⟨goes, plain⟩

theorem consumeResult_isReceipt {value : Value} (given : (stream.consumeResult value occurredAt).1 = .ok update) :
    update.isReceipt = false := by
  unfold consumeResult at given
  split at given
  next => cases given
  next => exact (lifecycleWithEvidence_update given).1

theorem consumeInit_isReceipt {value : Value} (given : (stream.consumeInit value occurredAt).1 = .ok update) :
    update.isReceipt = false := by
  unfold consumeInit at given
  split at given
  next => cases given
  next =>
    split at given
    next => cases given
    next =>
      split at given
      next => cases given
      next => exact (lifecycleWithEvidence_update given).1

omit [SerdeJson] in
theorem consumeStep_isReceipt {value : Value} (given : (stream.consumeStep value).1 = .ok (some update)) :
    update.isReceipt = false := by
  unfold consumeStep at given
  split at given
  next => cases given
  next =>
    split at given
    next => cases given
    next =>
      split at given
      next => cases given
      next =>
        obtain ⟨cost, -, same⟩ := map_ok.mp given
        cases same
        rfl

theorem consumeLine_isReceipt [ReadJson] {line : String}
    (given : (stream.consumeLine line occurredAt).1 = .ok (some update)) : update.isReceipt = false := by
  unfold consumeLine at given
  split at given
  next => cases given
  next =>
    split at given
    next => cases given
    next =>
      split at given
      next => exact always_isReceipt (fun _ => consumeInit_isReceipt) given
      next =>
        split at given
        next => exact consumeStep_isReceipt given
        next =>
          split at given
          next => exact always_isReceipt (fun _ => consumeResult_isReceipt) given
          next => cases given

/-- A local end of an open stream ends the run. -/
theorem localTerminal_ends {state : NormalizedRunState} {eventType messageKey : String} {kind : AdapterFailureKind}
    (last : state ∈ [NormalizedRunState.succeeded, .failed, .cancelled, .blocked, .uncertain])
    (given : (stream.localTerminal state eventType kind messageKey occurredAt).1 = .ok update) :
    isTerminal update = true ∧ stream.closed = false ∧
      (stream.localTerminal state eventType kind messageKey occurredAt).2.closed = true := by
  unfold localTerminal at given ⊢
  cases opened : stream.closed with
  | true =>
    rw [opened] at given
    cases given
  | false =>
    rw [opened] at given
    refine ⟨(lifecycleWithEvidence_update given).2.trans (decide_eq_true last), rfl, ?_⟩
    rw [if_neg Bool.false_ne_true]
    unfold lifecycleWithEvidence
    split <;> rfl

end AgyRunStream

namespace AgyProcess

variable [SerdeJson] {process : AgyProcess}

/-- What the passes of a poll do to a process: they only change what reads the output, and close it with the update
that ends the run. -/
structure Observes (process : AgyProcess) (given : Option Observed) (after : AgyProcess) : Prop where
  pending : after.pending = process.pending
  pendingTerminal : after.pendingTerminal = process.pendingTerminal
  before : after.before = process.before
  closes : process.stream.closed = true → after.stream.closed = true
  update : ∀ update, given = some (.update update) → Ordinary update
  terminal : ∀ update, given = some (.terminal update) →
    isTerminal update = true ∧ process.stream.closed = false ∧ after.stream.closed = true

namespace Observes

variable {middle after : AgyProcess} {given : Option Observed}

omit [SerdeJson] in
/-- Nothing but the stream has changed, if anything. -/
theorem silent (pending : after.pending = process.pending)
    (pendingTerminal : after.pendingTerminal = process.pendingTerminal) (before : after.before = process.before)
    (closes : process.stream.closed = true → after.stream.closed = true) : process.Observes none after where
  pending := pending
  pendingTerminal := pendingTerminal
  before := before
  closes := closes
  update _ answered := by cases answered
  terminal _ answered := by cases answered

omit [SerdeJson] in
theorem refl (process : AgyProcess) : process.Observes none process :=
  .silent rfl rfl rfl id

omit [SerdeJson] in
theorem trans (first : process.Observes none middle) (second : middle.Observes given after) :
    process.Observes given after where
  pending := second.pending.trans first.pending
  pendingTerminal := second.pendingTerminal.trans first.pendingTerminal
  before := second.before.trans first.before
  closes shut := second.closes (first.closes shut)
  update := second.update
  terminal update answered := by
    obtain ⟨last, opened, shut⟩ := second.terminal update answered
    refine ⟨last, ?_, shut⟩
    rw [Bool.eq_false_iff]
    intro closed
    rw [first.closes closed] at opened
    cases opened

end Observes

/-- The result of a loop that has ended, if it is no error. -/
def ending (result : Option (Except AgyProcessError Observed)) : Option Observed :=
  result.bind Except.toOption

theorem localTerminal_observes {state : NormalizedRunState} {eventType messageKey occurredAt : String}
    {kind : AdapterFailureKind}
    (last : state ∈ [NormalizedRunState.succeeded, .failed, .cancelled, .blocked, .uncertain]) :
    process.Observes (ending (process.ownTerminal
        (process.stream.localTerminal state eventType kind messageKey occurredAt)).1)
      (process.ownTerminal (process.stream.localTerminal state eventType kind messageKey occurredAt)).2 := by
  have ends := fun update => @AgyRunStream.localTerminal_ends process.stream update occurredAt _ state eventType
    messageKey kind last
  have shut : process.stream.closed = true →
      (process.stream.localTerminal state eventType kind messageKey occurredAt).2.closed = true := by
    intro closed
    unfold AgyRunStream.localTerminal
    rw [if_pos closed]
    exact closed
  generalize process.stream.localTerminal state eventType kind messageKey occurredAt = answer at ends shut ⊢
  obtain ⟨result, stream⟩ := answer
  cases result with
  | error => exact .silent rfl rfl rfl shut
  | ok update =>
    refine ⟨rfl, rfl, rfl, shut, fun other answered => (by cases answered), fun other answered => ?_⟩
    cases answered
    exact ends update rfl

variable [ReadJson] [MonotonicClock]

omit [MonotonicClock] in
/-- A line of the output read by the stream. -/
theorem consumeLine_observes {line occurredAt : String} {inactivityDeadline : Nat} {update : AgyRunUpdate}
    {stream : AgyRunStream} (read : process.stream.consumeLine line occurredAt = (.ok (some update), stream)) :
    update.isReceipt = false ∧ process.stream.closed = false ∧ (isTerminal update = true → stream.closed = true) := by
  have reacts := AgyRunStream.next_reacts process.stream (.consumeLine line occurredAt)
  change AgyRunStream.Reacts _ _ (process.stream.consumeLine line occurredAt).1.toOption.join
    (process.stream.consumeLine line occurredAt).2 at reacts
  rw [read] at reacts
  refine ⟨AgyRunStream.consumeLine_isReceipt (congrArg Prod.fst read), reacts.opened rfl, fun last => ?_⟩
  refine reacts.closes update rfl ?_
  cases update with
  | lifecycle event =>
    simp only [isTerminal, List.mem_cons, List.not_mem_nil, or_false, decide_eq_true_eq] at last
    change event.state.isTerminal = true
    rcases last with same | same | same | same | same <;> rw [same] <;> rfl
  | cost | writeReceipt => cases last

omit [MonotonicClock] in
theorem consumeLine_closes (line occurredAt : String) (shut : process.stream.closed = true) :
    (process.stream.consumeLine line occurredAt).2.closed = true :=
  (AgyRunStream.next_reacts process.stream (.consumeLine line occurredAt)).shut shut

omit [SerdeJson] [ReadJson] [MonotonicClock] in
/-- A refusal gives nothing, whether the process can be shut down or not. -/
theorem ending_refused (cleaned : Bool) (error : AgyProcessError) :
    ending (some ((shutdown cleaned).bind fun _ => .error error)) = none := by
  cases cleaned <;> rfl

omit [ReadJson] [MonotonicClock] in
theorem outputEnded_observes (process : AgyProcess) (occurredAt : String) (pass : Pass) :
    process.Observes (ending (process.outputEnded occurredAt pass).1) (process.outputEnded occurredAt pass).2 := by
  unfold outputEnded
  split
  next =>
    rw [ending_refused]
    exact .refl process
  next =>
    cases shutdown pass.cleaned with
    | error => exact .refl process
    | ok =>
      dsimp only
      split
      next => exact localTerminal_observes (by decide)
      next => exact localTerminal_observes (by decide)

theorem observe_observes (process : AgyProcess) (occurredAt : String) (observationDeadline : Option Nat)
    (passes : List Pass) :
    process.Observes (ending (process.observe occurredAt observationDeadline passes).1)
      (process.observe occurredAt observationDeadline passes).2 := by
  induction passes generalizing process with
  | nil => exact .refl process
  | cons pass rest ih =>
    rw [observe.eq_def]
    dsimp only
    split
    next =>
      cases shutdown pass.cleaned with
      | error => exact .refl process
      | ok => exact localTerminal_observes (by decide)
    next =>
      split
      next => exact ⟨rfl, rfl, rfl, id, fun _ answered => (by cases answered), fun _ answered => (by cases answered)⟩
      next =>
        -- what has arrived in this pass
        split
        next line _ =>
          cases checkedAdd pass.receivedAt process.timeout with
          | none =>
            dsimp only
            rw [ending_refused]
            exact .refl process
          | some inactivityDeadline =>
            have closes := @consumeLine_closes _ process _ line occurredAt
            cases read : process.stream.consumeLine line occurredAt with
            | mk result stream =>
              rw [read] at closes
              dsimp only
              cases result with
              | error => exact .silent rfl rfl rfl closes
              | ok update =>
                cases update with
                | none =>
                  have unread : process.Observes none { process with inactivityDeadline, stream } :=
                    .silent rfl rfl rfl closes
                  exact unread.trans (ih _)
                | some update =>
                  obtain ⟨plain, opened, ends⟩ := @consumeLine_observes _ process _ line occurredAt
                    inactivityDeadline update stream read
                  dsimp only
                  cases last : isTerminal update with
                  | true =>
                    rw [if_pos rfl]
                    cases shutdown pass.cleaned with
                    | error => exact .silent rfl rfl rfl closes
                    | ok =>
                      refine ⟨rfl, rfl, rfl, closes, fun other answered => (by cases answered), fun other answered => ?_⟩
                      cases answered
                      exact ⟨last, opened, ends last⟩
                  | false =>
                    rw [if_neg Bool.false_ne_true]
                    refine ⟨rfl, rfl, rfl, closes, fun other answered => ?_, fun other answered => (by cases answered)⟩
                    cases answered
                    exact ⟨last, plain⟩
        next => exact outputEnded_observes process occurredAt pass
        next => exact outputEnded_observes process occurredAt pass
        next => exact ih process

/-- What a call does to a process, and the update it hands out. -/
inductive Steps (process : AgyProcess) (call : Call) : AgyProcess × Option AgyRunUpdate → Prop
  | begun {update : AgyRunUpdate} (asks : call.asks = true) (held : process.pending = some update) :
      Steps process call ({ process with pending := none }, some update)
  | released {terminal : AgyRunUpdate} (asks : call.asks = true) (held : process.pendingTerminal = some terminal) :
      Steps process call ({ process with pendingTerminal := none }, some terminal)
  | silent {given : Option Observed} {after : AgyProcess}
      (free : call.asks = true → process.pending = none ∧ process.pendingTerminal = none)
      (observes : process.Observes given after) : Steps process call (after, none)
  | other {update : AgyRunUpdate} {after : AgyProcess}
      (free : call.asks = true → process.pending = none ∧ process.pendingTerminal = none)
      (opened : call.asks = false → process.stream.closed = false)
      (observes : process.Observes (some (.update update)) after) : Steps process call (after, some update)
  | unshown {terminal : AgyRunUpdate} {after : AgyProcess} (asks : call.asks = true)
      (free : process.pending = none ∧ process.pendingTerminal = none)
      (observes : process.Observes (some (.terminal terminal)) after) :
      Steps process call ({ after with before := none }, none)
  | ended {terminal : AgyRunUpdate} {after : AgyProcess} (asks : call.asks = true)
      (free : process.pending = none ∧ process.pendingTerminal = none)
      (observes : process.Observes (some (.terminal terminal)) after) :
      Steps process call ({ after with before := none }, some terminal)
  | behind {terminal : AgyRunUpdate} {after : AgyProcess} (receipt : String) (asks : call.asks = true)
      (free : process.pending = none ∧ process.pendingTerminal = none)
      (observes : process.Observes (some (.terminal terminal)) after) :
      Steps process call ({ after with before := none, pendingTerminal := some terminal }, some (.writeReceipt receipt))

theorem requestCancellation_steps (process : AgyProcess) (occurredAt : String) (cleaned : Bool) :
    Steps process (.requestCancellation occurredAt cleaned)
      (process.next (.requestCancellation occurredAt cleaned)) := by
  have free : (Call.requestCancellation occurredAt cleaned).asks = true →
      process.pending = none ∧ process.pendingTerminal = none := fun asks => by cases asks
  have reacts := AgyRunStream.next_reacts process.stream (.cancellationStarted occurredAt)
  have goes := fun update => @AgyRunStream.cancellationStarted_ordinary process.stream update occurredAt _
  change AgyRunStream.Reacts _ _ (AgyRunStream.always (process.stream.cancellationStarted occurredAt)).1.toOption.join
    (AgyRunStream.always (process.stream.cancellationStarted occurredAt)).2 at reacts
  change Steps process _ ((process.requestCancellation occurredAt cleaned).2,
    (process.requestCancellation occurredAt cleaned).1.toOption)
  unfold requestCancellation
  generalize process.stream.cancellationStarted occurredAt = answer at reacts goes ⊢
  obtain ⟨result, stream⟩ := answer
  cases result with
  | error => exact .silent free (.silent rfl rfl rfl reacts.shut)
  | ok update =>
    cases cleaned with
    | false => exact .silent free (.silent rfl rfl rfl reacts.shut)
    | true =>
      refine .other free (fun _ => reacts.opened rfl) ⟨rfl, rfl, rfl, reacts.shut, ?_, fun other answered => (by cases answered)⟩
      intro other answered
      cases answered
      exact goes update rfl

theorem next_steps (process : AgyProcess) (call : Call) : Steps process call (process.next call) := by
  cases call with
  | requestCancellation occurredAt cleaned => exact requestCancellation_steps process occurredAt cleaned
  | cancelAndClose cleaned => exact .silent (fun asks => by cases asks) (.silent rfl rfl rfl id)
  | poll poll =>
    change Steps process _ ((process.pollUpdate poll).2, ((process.pollUpdate poll).1.bind Except.toOption).join)
    unfold pollUpdate
    cases failed : poll.queueFailed with
    | true =>
      have quiet : (Call.poll poll).asks = false := by rw [Call.asks, failed]; rfl
      have nothing : ((some ((shutdown poll.cleaned).bind fun _ =>
          (.error .unavailable : Except AgyProcessError (Option AgyRunUpdate)))).bind Except.toOption).join = none := by
        cases poll.cleaned <;> rfl
      rw [if_pos rfl]
      dsimp only
      rw [nothing]
      refine .silent (fun asks => ?_) (.refl process)
      rw [quiet] at asks
      cases asks
    | false =>
      have asks : (Call.poll poll).asks = true := by rw [Call.asks, failed]; rfl
      rw [if_neg Bool.false_ne_true]
      cases pending : process.pending with
      | some update => exact .begun asks pending
      | none =>
        cases held : process.pendingTerminal with
        | some terminal =>
          have step := Steps.released asks held
          rw [pending] at step
          exact step
        | none =>
          have observes := observe_observes process poll.occurredAt (checkedAdd poll.begun poll.maxWait) poll.passes
          dsimp only
          generalize process.observe poll.occurredAt (checkedAdd poll.begun poll.maxWait) poll.passes = answer
            at observes ⊢
          obtain ⟨result, after⟩ := answer
          cases result with
          | none => exact .silent (fun _ => ⟨pending, held⟩) observes
          | some result =>
            cases result with
            | error => exact .silent (fun _ => ⟨pending, held⟩) observes
            | ok observed =>
              cases observed with
              | nothing => exact .silent (fun _ => ⟨pending, held⟩) observes
              | update update =>
                refine .other (fun _ => ⟨pending, held⟩) (fun quiet => ?_) observes
                rw [asks] at quiet
                cases quiet
              | terminal terminal =>
                dsimp only
                unfold orderTerminal
                cases WorkspaceSnapshot.shown after.before poll.scan with
                | error => exact .unshown asks ⟨pending, held⟩ observes
                | ok receipt =>
                  cases receipt with
                  | none => exact .ended asks ⟨pending, held⟩ observes
                  | some receipt => exact .behind receipt asks ⟨pending, held⟩ observes

/-- A process with the snapshot its run began with. -/
structure Sound (before : Option WorkspaceSnapshot) (process : AgyProcess) : Prop where
  begun : ∀ update, process.pending = some update → Ordinary update
  held : ∀ terminal, process.pendingTerminal = some terminal →
    process.stream.closed = true ∧ process.pending = none
  before : process.stream.closed = false → process.before = before

variable {before : Option WorkspaceSnapshot}

omit [SerdeJson] [ReadJson] [MonotonicClock] in
/-- What observing keeps, in a process that holds nothing back. -/
theorem Sound.observed {given : Option Observed} {after : AgyProcess} (sound : Sound before process)
    (observes : process.Observes given after) : Sound before after where
  begun update waiting := sound.begun update (observes.pending.symm.trans waiting)
  held terminal waiting := by
    obtain ⟨shut, nothing⟩ := sound.held terminal (observes.pendingTerminal.symm.trans waiting)
    exact ⟨observes.closes shut, observes.pending.trans nothing⟩
  before opened := by
    refine observes.before.trans (sound.before ?_)
    rw [Bool.eq_false_iff]
    intro shut
    rw [observes.closes shut] at opened
    cases opened

theorem Sound.next (sound : Sound before process) (call : Call) : Sound before (process.next call).1 := by
  have steps := next_steps process call
  generalize process.next call = step at steps ⊢
  cases steps with
  | begun _ held =>
    refine ⟨fun update waiting => (by cases waiting), fun terminal waiting => ?_, sound.before⟩
    have nothing := (sound.held terminal waiting).2
    rw [held] at nothing
    cases nothing
  | released => exact ⟨sound.begun, fun terminal waiting => (by cases waiting), sound.before⟩
  | silent _ observes | other _ _ observes => exact sound.observed observes
  | unshown _ free observes | ended _ free observes =>
    have good := sound.observed observes
    refine ⟨good.begun, good.held, fun opened => ?_⟩
    rw [(observes.terminal _ rfl).2.2] at opened
    cases opened
  | behind _ _ free observes =>
    have good := sound.observed observes
    refine ⟨good.begun, fun _ _ => ⟨(observes.terminal _ rfl).2.2, observes.pending.trans free.1⟩, fun opened => ?_⟩
    rw [(observes.terminal _ rfl).2.2] at opened
    cases opened

theorem disciplined (before : Option WorkspaceSnapshot) :
    HeldBack.Disciplined AgyProcess.next (Sound before) Ordinary AgyProcess.pendingTerminal
      (fun process => process.stream.closed) Call.asks where
  kept process call sound := sound.next call
  closes process call sound shut := by
    have steps := next_steps process call
    generalize process.next call = step at steps ⊢
    cases steps with
    | begun | released => exact shut
    | silent _ observes | other _ _ observes | unshown _ _ observes | ended _ _ observes | behind _ _ _ observes =>
      exact observes.closes shut
  opened process call sound unfinished update answered := by
    have steps := next_steps process call
    generalize process.next call = step at steps unfinished answered
    cases steps with
    | begun _ held =>
      cases answered
      exact sound.begun _ held
    | released _ held =>
      rw [(sound.held _ held).1] at unfinished
      cases unfinished
    | silent | unshown => cases answered
    | other _ _ observes =>
      cases answered
      exact observes.update _ rfl
    | ended _ _ observes | behind _ _ _ observes =>
      rw [(observes.terminal _ rfl).2.2] at unfinished
      cases unfinished
  finished process call sound nothing shut := by
    have steps := next_steps process call
    generalize process.next call = step at steps ⊢
    cases steps with
    | begun _ held =>
      refine ⟨nothing, fun update answered => ?_⟩
      cases answered
      exact sound.begun _ held
    | released _ held =>
      rw [nothing] at held
      cases held
    | silent _ observes => exact ⟨observes.pendingTerminal.trans nothing, fun update answered => by cases answered⟩
    | other _ _ observes =>
      refine ⟨observes.pendingTerminal.trans nothing, fun update answered => ?_⟩
      cases answered
      exact observes.update _ rfl
    | unshown _ _ observes | ended _ _ observes | behind _ _ _ observes =>
      rw [(observes.terminal _ rfl).2.1] at shut
      cases shut
  waits process call terminal sound waiting quiet := by
    have steps := next_steps process call
    generalize process.next call = step at steps ⊢
    cases steps with
    | silent _ observes => exact ⟨observes.pendingTerminal.trans waiting, rfl⟩
    | other _ opened =>
      have shut := (sound.held terminal waiting).1
      rw [opened quiet] at shut
      cases shut
    | begun asks | released asks | unshown asks | ended asks | behind _ asks =>
      rw [quiet] at asks
      cases asks
  released process call terminal sound waiting asks := by
    obtain ⟨shut, nothing⟩ := sound.held terminal waiting
    have steps := next_steps process call
    generalize process.next call = step at steps ⊢
    cases steps with
    | begun _ held =>
      rw [nothing] at held
      cases held
    | released _ held => exact ⟨rfl, shut, held.symm.trans waiting⟩
    | silent free | other free =>
      rw [(free asks).2] at waiting
      cases waiting
    | unshown _ free | ended _ free | behind _ _ free =>
      rw [free.2] at waiting
      cases waiting

omit [ReadJson] in
theorem opened_ok {runId : RunId} {conversationId : Option String} {timeout spawnedAt : Nat}
    (spawned : AgyProcess.opened runId conversationId timeout spawnedAt before = .ok process) :
    Sound before process := by
  unfold opened at spawned
  simp only [bind_ok, pure_ok] at spawned
  obtain ⟨⟨stream, pending⟩, streamed, inactivityDeadline, -, rfl⟩ := spawned
  unfold openStream at streamed
  refine ⟨fun update waiting => ?_, fun terminal waiting => (by cases waiting), fun _ => rfl⟩
  obtain rfl : pending = some update := waiting
  cases conversationId with
  | none => cases streamed
  | some conversationId =>
    simp only [bind_ok] at streamed
    obtain ⟨resumed, -, started⟩ := streamed
    cases given : resumed.recoveryStarted "locally-observed" with
    | mk result after =>
      rw [given] at started
      cases result with
      | error => cases started
      | ok recovering =>
        cases started
        exact AgyRunStream.recoveryStarted_ordinary (congrArg Prod.fst given)

/-- A poll that consumes the terminal update ends the run, behind a receipt if there is one. -/
theorem consumes_ends {poll : Poll} {terminal : AgyRunUpdate} {receipt : Option String} (sound : Sound before process)
    (consumed : process.consumes poll = some terminal) (told : WorkspaceSnapshot.shown before poll.scan = .ok receipt) :
    HeldBack.Ends AgyProcess.next AgyProcess.pendingTerminal (fun process => process.stream.closed) process (.poll poll)
      (receipt.map .writeReceipt) terminal ∧ isTerminal terminal = true ∧ process.stream.closed = false := by
  unfold consumes at consumed
  have next : process.next (.poll poll) =
      ((process.pollUpdate poll).2, ((process.pollUpdate poll).1.bind Except.toOption).join) := rfl
  unfold pollUpdate at next
  split at consumed
  next => cases consumed
  next working =>
    rw [if_neg working] at next
    split at consumed
    next pending held =>
      rw [pending, held] at next
      have observes := observe_observes process poll.occurredAt (checkedAdd poll.begun poll.maxWait) poll.passes
      generalize process.observe poll.occurredAt (checkedAdd poll.begun poll.maxWait) poll.passes = answer
        at observes consumed next
      obtain ⟨result, after⟩ := answer
      obtain rfl : result = some (.ok (.terminal terminal)) := by
        dsimp only at consumed
        split at consumed
        next => exact congrArg _ (congrArg _ (congrArg _ (Option.some.inj consumed)))
        next => cases consumed
      obtain ⟨last, opened, shut⟩ := observes.terminal terminal rfl
      dsimp only at next
      unfold orderTerminal at next
      rw [observes.before, sound.before opened, told] at next
      refine ⟨?_, last, opened⟩
      cases receipt with
      | none =>
        exact ⟨by rw [next]; rfl, by rw [next]; exact observes.pendingTerminal.trans held, by rw [next]; exact shut⟩
      | some text => exact ⟨by rw [next]; rfl, by rw [next]; rfl, by rw [next]; exact shut⟩
    next => cases consumed

/-- A poll that finds the queue failed hands out nothing and leaves the process as it was. -/
theorem next_failed {poll : Poll} (failed : poll.queueFailed = true) (process : AgyProcess) :
    process.next (.poll poll) = (process, none) := by
  change ((process.pollUpdate poll).2, ((process.pollUpdate poll).1.bind Except.toOption).join) = _
  unfold pollUpdate
  rw [if_pos failed]
  cases poll.cleaned <;> rfl

end AgyProcess

end Bastet.Agy
