import Bastet.Adapter.CodexLifecycle
import Bastet.Adapter.AgyStream
import Bastet.Library.EventStream

/-! Both event streams number what they emit and close with a terminal event, and what follows a cancellation. -/

set_option autoImplicit false

namespace Bastet.Codex

open Fallible EventStream Bastet.Core Bastet.Adapter

variable [SerdeJson]

namespace CodexEventNormalizer

variable {self after : CodexEventNormalizer} {event : NormalizedCodexEvent} {state : NormalizedRunState}

/-- An event takes the next number. -/
structure Emits (normalizer : CodexEventNormalizer) (entered : NormalizedRunState) (event : NormalizedCodexEvent)
    (after : CodexEventNormalizer) : Prop where
  state : event.event.state = entered
  sequence : event.event.sequence = normalizer.nextSequence
  counted : after.nextSequence = normalizer.nextSequence + 1

theorem event_ok {eventType occurredAt : String} {evidenceClass : EvidenceClass} {providerEventId : Option String}
    {payload : Json} {failure : Option AdapterFailure}
    (accepted : self.event state eventType occurredAt evidenceClass providerEventId payload failure =
      .ok (event, after)) : self.Emits state event after := by
  unfold CodexEventNormalizer.event at accepted
  simp only [bind_ok, rejectIf_ok, exists_unit, Except.ok.injEq, Prod.mk.injEq] at accepted
  obtain ⟨_, _, rfl, rfl⟩ := accepted
  exact ⟨rfl, rfl, rfl⟩

theorem recoveryStarted_ok {providerThreadId occurredAt : String}
    (accepted : self.recoveryStarted providerThreadId occurredAt = .ok (event, after)) :
    self.Emits .recovering event after := by
  unfold CodexEventNormalizer.recoveryStarted at accepted
  simp only [bind_ok, rejectIf_ok, exists_unit] at accepted
  exact event_ok accepted.2

theorem turnStarted_ok {params : Value} {occurredAt : String}
    (accepted : self.turnStarted params occurredAt = .ok (event, after)) : self.Emits .running event after := by
  unfold CodexEventNormalizer.turnStarted at accepted
  simp only [bind_ok, rejectIf_ok, exists_unit] at accepted
  obtain ⟨turn, _, turnId, _, status, _, _, emitted⟩ := accepted
  exact event_ok emitted

omit [SerdeJson] in
theorem completion_terminal {turn : List (String × Value)} {providerStatus : String}
    {ended : NormalizedRunState × Option AdapterFailure} (accepted : completion turn providerStatus = .ok ended) :
    ended.1.isTerminal = true := by
  unfold completion at accepted
  split at accepted
  next => cases accepted; rfl
  next =>
    split at accepted
    next => cases accepted; rfl
    next =>
      split at accepted
      next => cases accepted; rfl
      next => cases accepted

theorem turnCompleted_ok {params : Value} {occurredAt : String}
    (accepted : self.turnCompleted params occurredAt = .ok (event, after)) :
    ∃ state, state.isTerminal = true ∧ self.Emits state event after := by
  unfold CodexEventNormalizer.turnCompleted at accepted
  simp only [bind_ok] at accepted
  obtain ⟨turn, _, turnId, _, status, _, ended, completed, emitted⟩ := accepted
  exact ⟨ended.1, completion_terminal completed, event_ok emitted⟩

end CodexEventNormalizer

/-- The inputs a turn goes on after. -/
def StreamInput.goesOn : StreamInput → Bool
  | .ingest notification _ => notification.method == "turn/started"
  | .cancellationRequested _ | .recoveryStarted _ _ => true
  | .deadlineExceeded _ | .transportLost _ => false

namespace CodexRunStream

variable {stream after : CodexRunStream} {event : NormalizedCodexEvent}

/-- An open stream answers with the next number, and closes with a terminal event. -/
structure Answers (stream : CodexRunStream) (goesOn : Bool) (event : NormalizedCodexEvent)
    (after : CodexRunStream) : Prop where
  opened : stream.terminal = false
  sequence : event.event.sequence = stream.normalizer.nextSequence
  counted : after.normalizer.nextSequence = stream.normalizer.nextSequence + 1
  state : event.event.state.isTerminal = !goesOn
  closes : after.terminal = !goesOn

theorem ingest_none {notification : AppServerNotification} {occurredAt : String}
    (accepted : stream.ingest notification occurredAt = .ok (none, after)) : after = stream := by
  unfold CodexRunStream.ingest at accepted
  split at accepted
  next => cases accepted; rfl
  next related =>
    simp only [bind_ok] at accepted
    obtain ⟨turn, _, turnId, _, rest⟩ := accepted
    split at rest
    next => cases rest; rfl
    next =>
      simp only [bind_ok, rejectIf_ok, exists_unit] at rest
      obtain ⟨_, ⟨given, normalizer⟩, normalized, same⟩ := rest
      cases same
      -- both methods the stream reads give an event
      unfold CodexEventNormalizer.normalizeNotification at normalized
      split at normalized
      next => simp [always_ok] at normalized
      next notStarted =>
        split at normalized
        next => simp [always_ok] at normalized
        next notCompleted => simp [notStarted, notCompleted] at related

theorem ingest_some {notification : AppServerNotification} {occurredAt : String}
    (accepted : stream.ingest notification occurredAt = .ok (some event, after)) :
    stream.Answers (notification.method == "turn/started") event after := by
  unfold CodexRunStream.ingest at accepted
  split at accepted
  next => cases accepted
  next related =>
    simp only [bind_ok] at accepted
    obtain ⟨turn, _, turnId, _, rest⟩ := accepted
    split at rest
    next => cases rest
    next =>
      simp only [bind_ok, rejectIf_ok, exists_unit] at rest
      obtain ⟨opened, ⟨given, normalizer⟩, normalized, same⟩ := rest
      cases same
      unfold CodexEventNormalizer.normalizeNotification at normalized
      split at normalized
      next started =>
        obtain ⟨_, same, emitted⟩ := always_ok.mp normalized
        obtain rfl := Option.some.inj same
        have emits := CodexEventNormalizer.turnStarted_ok emitted
        exact ⟨opened, emits.sequence, emits.counted, by rw [emits.state, started]; rfl, by simp [started, opened]⟩
      next notStarted =>
        split at normalized
        next completed =>
          obtain ⟨_, same, emitted⟩ := always_ok.mp normalized
          obtain rfl := Option.some.inj same
          obtain ⟨state, terminal, emits⟩ := CodexEventNormalizer.turnCompleted_ok emitted
          refine ⟨opened, emits.sequence, emits.counted, ?_, ?_⟩
          · rw [emits.state, terminal, completed]
            rfl
          · simp [completed]
        next => cases normalized

theorem cancellationRequested_ok {occurredAt : String}
    (accepted : stream.cancellationRequested occurredAt = .ok (event, after)) :
    stream.Answers true event after ∧ event.event.state = .cancelling := by
  unfold CodexRunStream.cancellationRequested at accepted
  simp only [bind_ok, rejectIf_ok, exists_unit, Prod.exists, pure_ok, Prod.mk.injEq] at accepted
  obtain ⟨opened, _, _, emitted, rfl, rfl⟩ := accepted
  have emits := CodexEventNormalizer.event_ok emitted
  exact ⟨⟨opened, emits.sequence, emits.counted, by rw [emits.state]; rfl, opened⟩, emits.state⟩

theorem recoveryStarted_ok {providerThreadId occurredAt : String}
    (accepted : stream.recoveryStarted providerThreadId occurredAt = .ok (event, after)) :
    stream.Answers true event after := by
  unfold CodexRunStream.recoveryStarted at accepted
  simp only [bind_ok, rejectIf_ok, exists_unit, Prod.exists, pure_ok, Prod.mk.injEq] at accepted
  obtain ⟨opened, _, _, emitted, rfl, rfl⟩ := accepted
  have emits := CodexEventNormalizer.recoveryStarted_ok emitted
  exact ⟨opened, emits.sequence, emits.counted, by rw [emits.state]; rfl, opened⟩

theorem localTerminal_ok {state : NormalizedRunState} {eventType occurredAt : String} {kind : AdapterFailureKind}
    {messageKey : String} {retryable : Bool} (terminal : state.isTerminal = true)
    (accepted : stream.localTerminal state eventType occurredAt kind messageKey retryable = .ok (event, after)) :
    stream.Answers false event after := by
  unfold CodexRunStream.localTerminal at accepted
  simp only [bind_ok, rejectIf_ok, exists_unit, Prod.exists, pure_ok, Prod.mk.injEq] at accepted
  obtain ⟨opened, _, _, emitted, rfl, rfl⟩ := accepted
  have emits := CodexEventNormalizer.event_ok emitted
  exact ⟨opened, emits.sequence, emits.counted, by rw [emits.state, terminal]; rfl, rfl⟩

theorem feed_none {input : StreamInput} (accepted : stream.feed input = .ok (none, after)) : after = stream := by
  cases input with
  | ingest notification occurredAt => exact ingest_none accepted
  | cancellationRequested | recoveryStarted | deadlineExceeded | transportLost =>
    simp [CodexRunStream.feed, always_ok] at accepted

theorem feed_some {input : StreamInput} (accepted : stream.feed input = .ok (some event, after)) :
    stream.Answers input.goesOn event after := by
  cases input with
  | ingest notification occurredAt => exact ingest_some accepted
  | cancellationRequested occurredAt =>
    obtain ⟨_, same, emitted⟩ := always_ok.mp accepted
    obtain rfl := Option.some.inj same
    exact (cancellationRequested_ok emitted).1
  | recoveryStarted providerThreadId occurredAt =>
    obtain ⟨_, same, emitted⟩ := always_ok.mp accepted
    obtain rfl := Option.some.inj same
    exact recoveryStarted_ok emitted
  | deadlineExceeded occurredAt =>
    obtain ⟨_, same, emitted⟩ := always_ok.mp accepted
    obtain rfl := Option.some.inj same
    exact localTerminal_ok rfl emitted
  | transportLost occurredAt =>
    obtain ⟨_, same, emitted⟩ := always_ok.mp accepted
    obtain rfl := Option.some.inj same
    exact localTerminal_ok rfl emitted

theorem next_none {input : StreamInput} (silent : (stream.next input).2 = none) : (stream.next input).1 = stream := by
  unfold CodexRunStream.next at silent ⊢
  split at silent
  next given reached accepted =>
    have unanswered : given = none := silent
    subst unanswered
    exact feed_none accepted
  next => rfl

theorem next_some {input : StreamInput} (answered : (stream.next input).2 = some event) :
    stream.Answers input.goesOn event (stream.next input).1 := by
  unfold CodexRunStream.next at answered ⊢
  split at answered
  next given reached accepted =>
    have given : given = some event := answered
    subst given
    exact feed_some accepted
  next => cases answered

theorem disciplined : Disciplined CodexRunStream.next (fun event => some event.event.sequence)
    (fun event => event.event.state.isTerminal) (fun stream => stream.normalizer.nextSequence)
    CodexRunStream.terminal where
  silent stream input unanswered := by
    rw [next_none unanswered]
    exact ⟨rfl, id⟩
  answered stream input event given := by
    have answers := next_some given
    refine ⟨answers.opened, ?_, .inr ⟨congrArg some answers.sequence, answers.counted⟩⟩
    intro terminal
    rw [answers.closes, ← answers.state]
    exact terminal

end CodexRunStream

end Bastet.Codex

namespace Bastet.Agy

open Fallible EventStream Bastet.Core Bastet.Adapter

/-- The updates that are lifecycle events carry their number. -/
def AgyRunUpdate.sequence? : AgyRunUpdate → Option Nat
  | .lifecycle event _ => some event.sequence
  | .cost _ | .writeReceipt _ => none

def AgyRunUpdate.state? : AgyRunUpdate → Option NormalizedRunState
  | .lifecycle event _ => some event.state
  | .cost _ | .writeReceipt _ => none

/-- The input that begins a cancellation. -/
def StreamInput.cancels : StreamInput → Bool
  | .cancellationStarted _ => true
  | .recoveryStarted _ | .cancelled _ | .timedOut _ | .crashed _ | .consumeLine _ _ => false

def AgyRunUpdate.isTerminal (update : AgyRunUpdate) : Bool :=
  update.state?.any NormalizedRunState.isTerminal

namespace AgyRunStream

/-- What an input may do to a stream. -/
structure Reacts (stream : AgyRunStream) (input : StreamInput) (answer : Option AgyRunUpdate)
    (after : AgyRunStream) : Prop where
  opened : answer.isSome = true → stream.closed = false
  shut : stream.closed = true → after.closed = true
  started : stream.initialized = true → after.initialized = true
  unnumbered : answer.bind AgyRunUpdate.sequence? = none → after.sequence = stream.sequence
  numbered : ∀ number, answer.bind AgyRunUpdate.sequence? = some number →
    number = stream.sequence + 1 ∧ after.sequence = stream.sequence + 1
  closes : ∀ update, answer = some update → update.isTerminal = true → after.closed = true
  cancelling : answer.bind AgyRunUpdate.state? = some .cancelling → after.initialized = true
  state : stream.initialized = true → ∀ entered, answer.bind AgyRunUpdate.state? = some entered →
    (entered.isTerminal = true ↔ input.cancels = false)

variable {stream after : AgyRunStream} {input : StreamInput}

theorem Reacts.silent (shut : stream.closed = true → after.closed = true)
    (started : stream.initialized = true → after.initialized = true) (same : after.sequence = stream.sequence) :
    Reacts stream input none after where
  opened answered := by cases answered
  shut := shut
  started := started
  unnumbered _ := same
  numbered _ answered := by cases answered
  closes _ answered := by cases answered
  cancelling answered := by cases answered
  state _ _ answered := by cases answered

theorem Reacts.refused : Reacts stream input none stream :=
  .silent id id rfl

variable [SerdeJson]

/-- A lifecycle event of a stream that an input may already have changed. -/
theorem Reacts.lifecycle {middle : AgyRunStream} {entered : NormalizedRunState} {eventType occurredAt : String}
    {failure : Option AdapterFailure} {evidenceClass : EvidenceClass} (opened : stream.closed = false)
    (same : middle.sequence = stream.sequence) (started : stream.initialized = true → middle.initialized = true)
    (closes : entered.isTerminal = true → middle.closed = true)
    (cancelling : entered = .cancelling → middle.initialized = true)
    (state : stream.initialized = true → (entered.isTerminal = true ↔ input.cancels = false)) :
    Reacts stream input
      (always (middle.lifecycleWithEvidence entered eventType occurredAt failure evidenceClass)).1.toOption.join
      (always (middle.lifecycleWithEvidence entered eventType occurredAt failure evidenceClass)).2 := by
  have open_ : stream.closed = true → middle.closed = true := by
    rw [opened]
    exact fun shut => by cases shut
  unfold lifecycleWithEvidence
  split
  next => exact .silent open_ started same
  next =>
    constructor
    case opened => exact fun _ => opened
    case shut => exact open_
    case started => exact started
    case unnumbered => exact fun answered => by cases answered
    case numbered =>
      intro number answered
      cases answered
      exact ⟨congrArg (· + 1) same, congrArg (· + 1) same⟩
    case closes =>
      intro update answered terminal
      cases answered
      exact closes terminal
    case cancelling =>
      intro answered
      exact cancelling (Option.some.inj answered)
    case state =>
      intro running other answered
      obtain rfl := Option.some.inj answered
      exact state running

theorem localTerminal_reacts {entered : NormalizedRunState} {eventType : String} {kind : AdapterFailureKind}
    {messageKey occurredAt : String} (terminal : entered.isTerminal = true) (cancels : input.cancels = false) :
    Reacts stream input (always (stream.localTerminal entered eventType kind messageKey occurredAt)).1.toOption.join
      (always (stream.localTerminal entered eventType kind messageKey occurredAt)).2 := by
  unfold localTerminal
  split
  next => exact .refused
  next opened =>
    refine .lifecycle (by simpa using opened) rfl id (fun _ => rfl) ?_ fun _ => by simp [terminal, cancels]
    rintro rfl
    cases terminal

theorem consumeInit_reacts (value : Value) (occurredAt : String) (opened : stream.closed = false) :
    Reacts stream input (always (stream.consumeInit value occurredAt)).1.toOption.join
      (always (stream.consumeInit value occurredAt)).2 := by
  unfold consumeInit
  split
  next => exact .refused
  next fresh =>
    split
    next => exact .refused
    next =>
      split
      next => exact .refused
      next =>
        refine .lifecycle opened rfl (fun _ => rfl) (fun terminal => by cases terminal) (fun _ => rfl) ?_
        exact fun initialized => absurd initialized fresh

omit [SerdeJson] in
theorem verdict_terminal {result : List (String × Value)} {status : String}
    {read : NormalizedRunState × String × Option AdapterFailure} (accepted : stream.verdict result status = .ok read) :
    read.1.isTerminal = true := by
  unfold verdict at accepted
  split_ifs at accepted
  all_goals
    cases accepted
    rfl

omit [SerdeJson] in
theorem readResult_terminal {value : Value} {read : NormalizedRunState × String × Option AdapterFailure}
    (accepted : stream.readResult value = .ok read) : read.1.isTerminal = true := by
  unfold readResult at accepted
  simp only [bind_ok] at accepted
  obtain ⟨result, _, status, _, rest⟩ := accepted
  split at rest
  next =>
    simp only [bind_ok] at rest
    obtain ⟨_, _, _, _, judged⟩ := rest
    exact verdict_terminal judged
  next =>
    simp only [bind_ok] at rest
    obtain ⟨_, _, judged⟩ := rest
    exact verdict_terminal judged

theorem consumeResult_reacts (value : Value) (occurredAt : String) (opened : stream.closed = false)
    (cancels : input.cancels = false) :
    Reacts stream input (always (stream.consumeResult value occurredAt)).1.toOption.join
      (always (stream.consumeResult value occurredAt)).2 := by
  unfold consumeResult
  split
  next => exact .refused
  next entered eventType failure read =>
    have terminal : entered.isTerminal = true := readResult_terminal read
    refine .lifecycle opened rfl id (fun _ => rfl) ?_ fun _ => by simp [terminal, cancels]
    rintro rfl
    cases terminal

omit [SerdeJson] in
/-- Collecting output leaves the rest of the stream. -/
theorem collectResponse_frame (update : List (String × Value)) :
    (stream.collectResponse update).sequence = stream.sequence ∧
      (stream.collectResponse update).closed = stream.closed ∧
      (stream.collectResponse update).initialized = stream.initialized := by
  unfold collectResponse collect
  split
  next =>
    split
    next =>
      split
      next => exact ⟨rfl, rfl, rfl⟩
      next => split <;> exact ⟨rfl, rfl, rfl⟩
    next => exact ⟨rfl, rfl, rfl⟩
  next => exact ⟨rfl, rfl, rfl⟩

omit [SerdeJson] in
theorem consumeStep_reacts (value : Value) (opened : stream.closed = false) :
    Reacts stream input (stream.consumeStep value).1.toOption.join (stream.consumeStep value).2 := by
  unfold consumeStep
  split
  next => exact .refused
  next update _ =>
    obtain ⟨sequence, closed, initialized⟩ := @collectResponse_frame stream update
    split
    next => exact .refused
    next =>
      split
      next => exact .silent (by rw [closed]; exact id) (by rw [initialized]; exact id) sequence
      next usage _ =>
        cases parsed : parseUsage usage with
        | error => exact .silent (by rw [closed]; exact id) (by rw [initialized]; exact id) sequence
        | ok cost =>
          -- a cost carries no number and no state
          constructor
          case opened => exact fun _ => opened
          case shut => rw [closed]; exact id
          case started => rw [initialized]; exact id
          case unnumbered => exact fun _ => sequence
          case numbered => exact fun _ answered => by cases answered
          case closes =>
            intro update answered terminal
            cases answered
            cases terminal
          case cancelling => exact fun answered => by cases answered
          case state => exact fun _ _ answered => by cases answered

variable [ReadJson]

theorem consumeLine_reacts (line occurredAt : String) (cancels : input.cancels = false) :
    Reacts stream input (stream.consumeLine line occurredAt).1.toOption.join (stream.consumeLine line occurredAt).2 := by
  unfold consumeLine
  split
  next => exact .refused
  next opened =>
    have opened : stream.closed = false := by simpa using opened
    split
    next => exact .refused
    next value _ =>
      split
      next => exact consumeInit_reacts value occurredAt opened
      next =>
        split
        next => exact consumeStep_reacts value opened
        next =>
          split
          next => exact consumeResult_reacts value occurredAt opened cancels
          next => exact .refused

theorem next_reacts (stream : AgyRunStream) (input : StreamInput) :
    Reacts stream input (stream.next input).2 (stream.next input).1 := by
  cases input with
  | recoveryStarted occurredAt =>
    change Reacts stream _ (always (stream.recoveryStarted occurredAt)).1.toOption.join
      (always (stream.recoveryStarted occurredAt)).2
    unfold recoveryStarted
    split
    next => exact .refused
    next free =>
      simp only [not_or, Bool.not_eq_true] at free
      refine .lifecycle free.2.2 rfl id (fun terminal => by cases terminal) (fun same => by cases same) ?_
      rw [free.2.1]
      exact fun started => by cases started
  | cancellationStarted occurredAt =>
    change Reacts stream _ (always (stream.cancellationStarted occurredAt)).1.toOption.join
      (always (stream.cancellationStarted occurredAt)).2
    unfold cancellationStarted
    split
    next => exact .refused
    next free =>
      obtain ⟨initialized, opened⟩ := not_or.mp free
      have initialized : stream.initialized = true := by simpa using initialized
      have opened : stream.closed = false := by simpa using opened
      refine .lifecycle opened rfl id (fun terminal => by cases terminal) (fun _ => initialized) fun _ => ?_
      exact Iff.intro (fun terminal => by cases terminal) (fun quiet => by cases quiet)
  | cancelled occurredAt => exact localTerminal_reacts rfl rfl
  | timedOut occurredAt => exact localTerminal_reacts rfl rfl
  | crashed occurredAt => exact localTerminal_reacts rfl rfl
  | consumeLine line occurredAt => exact consumeLine_reacts line occurredAt rfl

theorem disciplined : Disciplined AgyRunStream.next AgyRunUpdate.sequence? AgyRunUpdate.isTerminal
    (fun stream => stream.sequence + 1) AgyRunStream.closed where
  silent stream input unanswered := by
    have reacts := next_reacts stream input
    rw [unanswered] at reacts
    exact ⟨congrArg (· + 1) (reacts.unnumbered rfl), reacts.shut⟩
  answered stream input update given := by
    have reacts := next_reacts stream input
    rw [given] at reacts
    refine ⟨reacts.opened rfl, reacts.closes update rfl, ?_⟩
    cases numbered : update.sequence? with
    | none => exact .inl ⟨rfl, congrArg (· + 1) (reacts.unnumbered numbered)⟩
    | some number =>
      obtain ⟨rfl, counted⟩ := reacts.numbered number numbered
      exact .inr ⟨rfl, congrArg (· + 1) counted⟩

/-- A stream that has answered with a cancellation has been initialized, and stays so. -/
theorem initialized_of_cancelling {inputs : List StreamInput}
    (cancelling : some NormalizedRunState.cancelling ∈ (updates AgyRunStream.next stream inputs).map AgyRunUpdate.state?) :
    (EventStream.after AgyRunStream.next stream inputs).initialized = true := by
  have keeps : ∀ (current : AgyRunStream) (later : List StreamInput), current.initialized = true →
      (EventStream.after AgyRunStream.next current later).initialized = true := by
    intro current later started
    exact Machine.run_preserves (fun reached input initialized => (next_reacts reached input).started initialized)
      started later
  induction inputs generalizing stream with
  | nil => cases cancelling
  | cons input rest ih =>
    rw [updates_cons, List.map_append, List.mem_append] at cancelling
    rcases cancelling with now | later
    · refine keeps (AgyRunStream.next stream input).1 rest ((next_reacts stream input).cancelling ?_)
      cases answer : (AgyRunStream.next stream input).2 with
      | none => rw [answer] at now; cases now
      | some update =>
        rw [answer] at now
        simpa [eq_comm] using now
    · exact ih later

end AgyRunStream

end Bastet.Agy

namespace Bastet.Adapter

open Fallible EventStream Bastet.Core

variable [SerdeJson] [ReadJson]

/-- Every stream numbers its events 1, 2, 3, ..., with at most one terminal update and nothing after it. -/
theorem streams_wellFormed (runId : RunId) :
    (∀ providerTurnId stream inputs, Codex.CodexRunStream.new runId providerTurnId = .ok stream →
      let events := updates Codex.CodexRunStream.next stream inputs
      WellFormed (fun event => some event.event.sequence) (fun event => event.event.state.isTerminal) 1 events ∧
      events.countP (fun event => event.event.state.isTerminal) ≤ 1) ∧
    (∀ stream inputs, (stream = Agy.AgyRunStream.new runId ∨
        ∃ conversationId, Agy.AgyRunStream.resuming runId conversationId = .ok stream) →
      let events := updates Agy.AgyRunStream.next stream inputs
      WellFormed Agy.AgyRunUpdate.sequence? Agy.AgyRunUpdate.isTerminal 1 events ∧
      events.countP Agy.AgyRunUpdate.isTerminal ≤ 1) := by
  constructor
  · intro providerTurnId stream inputs created
    have numbered := Codex.CodexRunStream.disciplined.wellFormed stream inputs
    unfold Codex.CodexRunStream.new at created
    simp only [bind_ok, rejectIf_ok, exists_unit, Except.ok.injEq] at created
    obtain ⟨_, rfl⟩ := created
    exact ⟨numbered, numbered.countP_terminal_le⟩
  · intro stream inputs created
    have numbered := Agy.AgyRunStream.disciplined.wellFormed stream inputs
    have fresh : stream.sequence = 0 := by
      rcases created with rfl | ⟨conversationId, resumed⟩
      · rfl
      · unfold Agy.AgyRunStream.resuming at resumed
        simp only [bind_ok, rejectIf_ok, exists_unit, pure_ok] at resumed
        obtain ⟨_, rfl⟩ := resumed
        rfl
    rw [fresh] at numbered
    exact ⟨numbered, numbered.countP_terminal_le⟩

/-- What follows a cancellation: a later lifecycle event of a Codex stream is terminal unless it answers another
cancellation, a recovery or a start of the turn, and one of an Agy stream unless it answers another cancellation. -/
theorem events_after_cancelling :
    (∀ (stream : Codex.CodexRunStream) first rest input event,
      NormalizedRunState.cancelling ∈
        (updates Codex.CodexRunStream.next stream first).map (fun event => event.event.state) →
      ((after Codex.CodexRunStream.next stream (first ++ rest)).next input).2 = some event →
      (event.event.state.isTerminal = true ↔ input.goesOn = false)) ∧
    (∀ (stream : Agy.AgyRunStream) first rest input update state,
      some NormalizedRunState.cancelling ∈
        (updates Agy.AgyRunStream.next stream first).map Agy.AgyRunUpdate.state? →
      ((after Agy.AgyRunStream.next stream (first ++ rest)).next input).2 = some update →
      update.state? = some state → (state.isTerminal = true ↔ input.cancels = false)) := by
  constructor
  · intro stream first rest input event _ answered
    rw [(Codex.CodexRunStream.next_some answered).state]
    simp
  · intro stream first rest input update state cancelling answered entered
    have initialized : (after Agy.AgyRunStream.next stream (first ++ rest)).initialized = true := by
      apply Agy.AgyRunStream.initialized_of_cancelling
      rw [updates_append, List.map_append]
      exact List.mem_append_left _ cancelling
    have reacts := Agy.AgyRunStream.next_reacts (after Agy.AgyRunStream.next stream (first ++ rest)) input
    rw [answered] at reacts
    exact reacts.state initialized state entered

/-- The parse of one line. -/
abbrev ReadJson.single (line : String) (value : Value) : ReadJson :=
  ⟨fun text => if text = line then some value else none⟩

def initLine : String := "\x7b\"event\":\"init\",\"conversation_id\":\"agy_1\"\x7d"

def initValue : Value := .object [("event", .string "init"), ("conversation_id", .string "agy_1")]

def turnStartedNotification : Codex.AppServerNotification :=
  ⟨"turn/started", .object [("turn", .object [("id", .string "turn_1"), ("status", .string "inProgress")])]⟩

omit [SerdeJson] [ReadJson] in
/-- A turn that starts late, a recovery and a second request each follow a cancellation. -/
theorem cancelling_not_final :
    (updates (@Codex.CodexRunStream.next .compact) ⟨"turn_1", .new ⟨7⟩, false⟩
      [.cancellationRequested "now", .ingest turnStartedNotification "now", .recoveryStarted "thr_1" "now",
        .cancellationRequested "now"]).map (fun event => event.event.state) =
      [.cancelling, .running, .recovering, .cancelling] ∧
    (updates (@Agy.AgyRunStream.next .compact (.single initLine initValue)) (.new ⟨7⟩)
      [.consumeLine initLine "now", .cancellationStarted "now", .cancellationStarted "now"]).filterMap
        Agy.AgyRunUpdate.state? = [.running, .cancelling, .cancelling] := by
  decide +kernel

end Bastet.Adapter
