import Mathlib.Algebra.Order.BigOperators.Group.List
import Mathlib.Algebra.Order.Ring.Nat
import Bastet.Adapter.CodexTracker

/-! Which notifications of other runs a tracker of a Codex run can tell: exactly those that name its own turn on
another thread. -/

set_option autoImplicit false

namespace Bastet.Codex

open Fallible Bastet.Core Bastet.Adapter

/-- The turn a lifecycle notification names. -/
def AppServerNotification.turnId (notification : AppServerNotification) : Option String :=
  (turn notification.params >>= fun turn => requiredString turn "id").toOption

/-- The thread and turn an item notification names. -/
def AppServerNotification.itemIds (notification : AppServerNotification) : Option (String × String) :=
  (do
    let threadId ← Evidence.requiredString notification.params "threadId"
    let turnId ← Evidence.requiredString notification.params "turnId"
    return (threadId, turnId)).toOption

def AppServerNotification.isLifecycle (notification : AppServerNotification) : Bool :=
  notification.method ∈ ["turn/started", "turn/completed"]

def AppServerNotification.isItem (notification : AppServerNotification) : Bool :=
  notification.method ∈ ["item/completed", "turn/diff/updated", "thread/tokenUsage/updated"]

/-- A lifecycle notification with a thread that is not the run's. -/
def AppServerNotification.otherThread (providerThreadId : String) (notification : AppServerNotification) : Bool :=
  ((notification.params.get "threadId").bind Value.asStr).any fun threadId => threadId != providerThreadId

/-- A well-formed notification that names another thread or another turn. -/
def AppServerNotification.isForeign (providerThreadId providerTurnId : String)
    (notification : AppServerNotification) : Bool :=
  (notification.isLifecycle && notification.turnId.any fun turnId =>
    turnId != providerTurnId || notification.otherThread providerThreadId) ||
  (notification.isItem && notification.itemIds.any fun ids =>
    ids.1 != providerThreadId || ids.2 != providerTurnId)

/-- A lifecycle notification of the run's turn id on another thread. -/
def AppServerNotification.crosses (providerThreadId providerTurnId : String)
    (notification : AppServerNotification) : Bool :=
  notification.isLifecycle && notification.turnId == some providerTurnId && notification.otherThread providerThreadId

theorem AppServerNotification.foreign_of_crosses {providerThreadId providerTurnId : String}
    {notification : AppServerNotification} (crossing : notification.crosses providerThreadId providerTurnId = true) :
    notification.isForeign providerThreadId providerTurnId = true := by
  unfold AppServerNotification.crosses at crossing
  simp only [Bool.and_eq_true, beq_iff_eq] at crossing
  obtain ⟨⟨lifecycle, named⟩, other⟩ := crossing
  simp [AppServerNotification.isForeign, lifecycle, named, other]

/-- What the run is sent apart from the notifications of other runs. -/
def ownArrivals (providerThreadId providerTurnId : String) (arrivals : List Arrival) : List Arrival :=
  arrivals.filter fun arrival => !arrival.notification.isForeign providerThreadId providerTurnId

section Readers

variable {notification : AppServerNotification} {providerThreadId providerTurnId : String}

theorem AppServerNotification.turnId_some {turnId : String} (named : notification.turnId = some turnId) :
    ∃ fields, turn notification.params = .ok fields ∧ requiredString fields "id" = .ok turnId := by
  unfold AppServerNotification.turnId at named
  cases read : turn notification.params with
  | error => rw [read] at named; cases named
  | ok fields =>
    rw [read, ok_bind] at named
    cases required : requiredString fields "id" with
    | error => rw [required] at named; cases named
    | ok id =>
      rw [required] at named
      obtain rfl := Option.some.inj named
      exact ⟨fields, rfl, required⟩

theorem AppServerNotification.itemIds_some {ids : String × String} (named : notification.itemIds = some ids) :
    Evidence.requiredString notification.params "threadId" = .ok ids.1 ∧
      Evidence.requiredString notification.params "turnId" = .ok ids.2 := by
  unfold AppServerNotification.itemIds at named
  cases thread : Evidence.requiredString notification.params "threadId" with
  | error => rw [thread] at named; cases named
  | ok threadId =>
    cases turn : Evidence.requiredString notification.params "turnId" with
    | error => rw [thread, turn] at named; cases named
    | ok turnId =>
      rw [thread, turn] at named
      obtain rfl := Option.some.inj named
      exact ⟨rfl, rfl⟩

/-- A foreign notification is one of a lifecycle or names its thread and turn. -/
theorem AppServerNotification.foreign_cases
    (foreign : notification.isForeign providerThreadId providerTurnId = true) :
    notification.isLifecycle = true ∧ (∃ turnId, notification.turnId = some turnId ∧
      (turnId ≠ providerTurnId ∨ notification.otherThread providerThreadId = true)) ∨
    notification.isItem = true ∧ ∃ ids, notification.itemIds = some ids ∧
      (ids.1 ≠ providerThreadId ∨ ids.2 ≠ providerTurnId) := by
  unfold AppServerNotification.isForeign at foreign
  rw [Bool.or_eq_true, Bool.and_eq_true, Bool.and_eq_true] at foreign
  rcases foreign with ⟨lifecycle, named⟩ | ⟨item, named⟩
  · obtain ⟨turnId, found, other⟩ := (Option.any_eq_true _ _).mp named
    exact .inl ⟨lifecycle, turnId, found, by simpa using other⟩
  · obtain ⟨ids, found, other⟩ := (Option.any_eq_true _ _).mp named
    exact .inr ⟨item, ids, found, by simpa using other⟩

theorem AppServerNotification.not_lifecycle_of_item (item : notification.isItem = true) :
    notification.isLifecycle = false := by
  unfold AppServerNotification.isItem at item
  unfold AppServerNotification.isLifecycle
  simp only [List.mem_cons, List.not_mem_nil, or_false, decide_eq_true_eq, decide_eq_false_iff_not] at item ⊢
  rcases item with same | same | same <;> simp [same]

theorem AppServerNotification.not_item_of_lifecycle (lifecycle : notification.isLifecycle = true) :
    notification.isItem = false := by
  rw [Bool.eq_false_iff]
  intro item
  rw [not_lifecycle_of_item item] at lifecycle
  cases lifecycle

theorem Evidence.requiredString_value {value : Value} {key text : String}
    (read : Evidence.requiredString value key = .ok text) :
    CodexFinalOutput.requiredValueString value key = .ok text := by
  unfold Evidence.requiredString at read
  unfold CodexFinalOutput.requiredValueString
  rw [okOr_ok, Option.filter_eq_some_iff] at read
  rw [okOr_ok]
  exact read.1

/-- The text a notification adds to the final output of a run. -/
def CodexFinalOutput.answerText (providerThreadId providerTurnId : String) (notification : AppServerNotification) :
    Except RunTrackerError (Option String) := do
  if notification.method ≠ "item/completed" then return none
  let params := notification.params
  if (← requiredValueString params "threadId") ≠ providerThreadId then return none
  if (← requiredValueString params "turnId") ≠ providerTurnId then return none
  let item ← okOr (params.get "item") .protocolDrift
  if (← requiredValueString item "type") ≠ "agentMessage" then return none
  if (item.get "phase").bind Value.asStr ≠ some "final_answer" then return none
  return some (← requiredValueString item "text")

theorem CodexFinalOutput.ingest_eq (self : CodexFinalOutput) :
    self.ingest notification =
      (answerText self.providerThreadId self.providerTurnId notification).map fun text =>
        text.elim self self.collect := by
  unfold CodexFinalOutput.ingest answerText
  dsimp only
  split_ifs
  next => rfl
  next =>
    rcases requiredValueString notification.params "threadId" with _ | threadId
    · rfl
    simp only [ok_bind]
    split_ifs
    next => rfl
    next =>
      rcases requiredValueString notification.params "turnId" with _ | turnId
      · rfl
      simp only [ok_bind]
      split_ifs
      next => rfl
      next =>
        rcases (okOr (notification.params.get "item") .protocolDrift : Except RunTrackerError Value) with _ | item
        · rfl
        simp only [ok_bind]
        rcases requiredValueString item "type" with _ | kind
        · rfl
        simp only [ok_bind]
        split_ifs
        next => rfl
        next => rfl
        next =>
          rcases requiredValueString item "text" with _ | text
          · rfl
          · rfl

/-- The final output passes over what another run sends. -/
theorem CodexFinalOutput.ingest_foreign {self : CodexFinalOutput} (thread : self.providerThreadId = providerThreadId)
    (turn : self.providerTurnId = providerTurnId)
    (foreign : notification.isForeign providerThreadId providerTurnId = true) :
    self.ingest notification = .ok self := by
  unfold CodexFinalOutput.ingest
  split
  next => rfl
  next answer =>
    rw [not_not] at answer
    rcases notification.foreign_cases foreign with ⟨lifecycle, _⟩ | ⟨_, ids, named, other⟩
    · simp [AppServerNotification.isLifecycle, answer] at lifecycle
    · obtain ⟨threadId, turnId⟩ := AppServerNotification.itemIds_some named
      simp only [Evidence.requiredString_value threadId, ok_bind, thread]
      split
      next => rfl
      next sameThread =>
        have otherTurn : ids.2 ≠ self.providerTurnId := by
          rw [turn]
          exact other.resolve_left (fun differs => differs (not_not.mp sameThread))
        simp only [Evidence.requiredString_value turnId, ok_bind, if_pos otherTurn]
        rfl

section Streams

variable [SerdeJson]

theorem CodexRunEvidence.ingest_foreign
    (foreign : notification.isForeign providerThreadId providerTurnId = true) :
    CodexRunEvidence.ingest ⟨providerThreadId, providerTurnId⟩ notification = .ok none := by
  rcases notification.foreign_cases foreign with ⟨lifecycle, _⟩ | ⟨_, ids, named, other⟩
  · have item := AppServerNotification.not_item_of_lifecycle lifecycle
    simp only [AppServerNotification.isItem, List.mem_cons, List.not_mem_nil, or_false, decide_eq_false_iff_not,
      not_or] at item
    unfold CodexRunEvidence.ingest
    rw [if_neg item.2.1, if_neg item.1, if_neg item.2.2]
  · obtain ⟨threadId, turnId⟩ := AppServerNotification.itemIds_some named
    have unmatched : CodexRunEvidence.matchesRun ⟨providerThreadId, providerTurnId⟩ notification.params =
        .ok false := by
      unfold CodexRunEvidence.matchesRun
      rw [threadId, ok_bind, turnId, ok_bind]
      rcases other with differs | differs <;> simp [differs, pure, Except.pure]
    unfold CodexRunEvidence.ingest
    split
    next =>
      unfold CodexRunEvidence.diffUpdated
      rw [unmatched]
      rfl
    next =>
      split
      next =>
        unfold CodexRunEvidence.fileChangeCompleted
        rw [unmatched]
        rfl
      next =>
        split
        next =>
          unfold CodexRunEvidence.tokenUsageUpdated
          rw [unmatched]
          rfl
        next => rfl

variable {stream after : CodexRunStream} {occurredAt : String}

theorem CodexRunStream.ingest_turn {event : Option NormalizedCodexEvent}
    (accepted : stream.ingest notification occurredAt = .ok (event, after)) :
    after.providerTurnId = stream.providerTurnId := by
  unfold CodexRunStream.ingest at accepted
  split at accepted
  next => cases accepted; rfl
  next =>
    simp only [bind_ok] at accepted
    obtain ⟨_, _, _, _, rest⟩ := accepted
    split at rest
    next => cases rest; rfl
    next =>
      simp only [bind_ok] at rest
      obtain ⟨_, _, ⟨_, _⟩, _, same⟩ := rest
      cases same
      rfl

/-- The stream passes over notifications of other kinds and of other turns. -/
theorem CodexRunStream.ingest_ignored
    (ignored : notification.isLifecycle = false ∨
      ∃ turnId, notification.turnId = some turnId ∧ turnId ≠ stream.providerTurnId) :
    stream.ingest notification occurredAt = .ok (none, stream) := by
  unfold CodexRunStream.ingest
  split
  next => rfl
  next related =>
    rcases ignored with unrelated | ⟨turnId, named, other⟩
    · rw [not_not] at related
      simp [AppServerNotification.isLifecycle, related] at unrelated
    · obtain ⟨fields, read, required⟩ := AppServerNotification.turnId_some named
      simp only [read, ok_bind, required, if_pos other]
      rfl

/-- Any other lifecycle notification is answered or refused. -/
theorem CodexRunStream.ingest_heeded (lifecycle : notification.isLifecycle = true)
    (named : ∀ turnId, notification.turnId = some turnId → turnId = stream.providerTurnId) :
    stream.ingest notification occurredAt ≠ .ok (none, after) := by
  intro accepted
  have related : notification.method ∈ ["turn/started", "turn/completed"] := of_decide_eq_true lifecycle
  unfold CodexRunStream.ingest at accepted
  rw [if_neg (not_not.mpr related)] at accepted
  simp only [bind_ok] at accepted
  obtain ⟨fields, read, turnId, required, rest⟩ := accepted
  have own : turnId = stream.providerTurnId := by
    apply named
    unfold AppServerNotification.turnId
    rw [read, ok_bind, required]
    rfl
  rw [if_neg (not_not.mpr own)] at rest
  simp only [bind_ok] at rest
  obtain ⟨_, _, ⟨given, normalizer⟩, normalized, same⟩ := rest
  cases same
  unfold CodexEventNormalizer.normalizeNotification at normalized
  split at normalized
  next => simp [always_ok] at normalized
  next notStarted =>
    split at normalized
    next => simp [always_ok] at normalized
    next notCompleted => simp [notStarted, notCompleted] at related

end Streams

end Readers

namespace CodexRunTracker

/-- Every reader of the tracker follows the same thread and turn. -/
structure Bound (providerThreadId providerTurnId : String) (tracker : CodexRunTracker) : Prop where
  stream : tracker.stream.providerTurnId = providerTurnId
  evidence : tracker.evidence = ⟨providerThreadId, providerTurnId⟩
  thread : tracker.finalOutput.providerThreadId = providerThreadId
  turn : tracker.finalOutput.providerTurnId = providerTurnId

variable [SerdeJson] {providerThreadId providerTurnId : String} {tracker after : CodexRunTracker} {arrival : Arrival}
  {arrivals : List Arrival}

/-- What another run sends goes by without a trace, unless it names the tracker's turn. -/
theorem observe_foreign (bound : Bound providerThreadId providerTurnId tracker)
    (foreign : arrival.notification.isForeign providerThreadId providerTurnId = true)
    (apart : arrival.notification.crosses providerThreadId providerTurnId = false) :
    tracker.observe arrival = (.ok none, tracker) := by
  have passed : tracker.stream.ingest arrival.notification arrival.occurredAt = .ok (none, tracker.stream) := by
    apply CodexRunStream.ingest_ignored
    rcases arrival.notification.foreign_cases foreign with ⟨lifecycle, turnId, named, other⟩ | ⟨item, _⟩
    · refine .inr ⟨turnId, named, ?_⟩
      rw [bound.stream]
      rintro rfl
      have elsewhere := other.resolve_left (fun differs => differs rfl)
      simp [AppServerNotification.crosses, lifecycle, named, elsewhere] at apart
    · exact .inl (AppServerNotification.not_lifecycle_of_item item)
  have output := CodexFinalOutput.ingest_foreign bound.thread bound.turn foreign
  have evidence : tracker.evidence.ingest arrival.notification = .ok none := by
    rw [bound.evidence]
    exact CodexRunEvidence.ingest_foreign foreign
  unfold observe
  rw [output]
  simp only [passed, evidence]

omit [SerdeJson] in
theorem Bound.collect {output : CodexFinalOutput} (bound : Bound providerThreadId providerTurnId tracker)
    (read : tracker.finalOutput.ingest arrival.notification = .ok output) :
    output.providerThreadId = providerThreadId ∧ output.providerTurnId = providerTurnId := by
  rw [CodexFinalOutput.ingest_eq] at read
  cases added : CodexFinalOutput.answerText tracker.finalOutput.providerThreadId tracker.finalOutput.providerTurnId
      arrival.notification with
  | error => rw [added] at read; cases read
  | ok text =>
    rw [added] at read
    cases read
    cases text with
    | none => exact ⟨bound.thread, bound.turn⟩
    | some text =>
      dsimp only [Option.elim]
      unfold CodexFinalOutput.collect
      split
      next => exact ⟨bound.thread, bound.turn⟩
      next => split <;> exact ⟨bound.thread, bound.turn⟩

theorem Bound.observe (bound : Bound providerThreadId providerTurnId tracker) (arrival : Arrival) :
    Bound providerThreadId providerTurnId (tracker.observe arrival).2 := by
  unfold CodexRunTracker.observe
  split
  next => exact bound
  next output read =>
    obtain ⟨thread, turn⟩ := bound.collect read
    dsimp only
    split
    next => exact ⟨bound.stream, bound.evidence, thread, turn⟩
    next event stream ingested =>
      exact ⟨(CodexRunStream.ingest_turn ingested).trans bound.stream, bound.evidence, thread, turn⟩
    next stream ingested =>
      have same := (CodexRunStream.ingest_turn ingested).trans bound.stream
      split <;> exact ⟨same, bound.evidence, thread, turn⟩

omit [SerdeJson] in
theorem Bound.orderUpdate (bound : Bound providerThreadId providerTurnId tracker) (update : CodexRunUpdate)
    (workspace : Except WorkspaceEvidenceError (Option String)) :
    Bound providerThreadId providerTurnId (tracker.orderUpdate update workspace).2 := by
  unfold CodexRunTracker.orderUpdate
  split
  next => exact ⟨bound.stream, bound.evidence, bound.thread, bound.turn⟩
  next =>
    split
    next => exact bound
    next =>
      split
      next => exact bound
      next => split <;> exact ⟨bound.stream, bound.evidence, bound.thread, bound.turn⟩

theorem Bound.readUpdate (bound : Bound providerThreadId providerTurnId tracker) (arrivals : List Arrival) :
    Bound providerThreadId providerTurnId (tracker.readUpdate arrivals).2.1 := by
  induction arrivals generalizing tracker with
  | nil => exact bound
  | cons arrival rest ih =>
    have observed := bound.observe arrival
    unfold CodexRunTracker.readUpdate
    split
    next seen => rw [seen] at observed; exact observed
    next update _ seen => rw [seen] at observed; exact observed.orderUpdate update arrival.workspace
    next seen => rw [seen] at observed; exact ih observed

theorem Bound.nextUpdate (bound : Bound providerThreadId providerTurnId tracker) (arrivals : List Arrival) :
    Bound providerThreadId providerTurnId (tracker.nextUpdate arrivals).2.1 := by
  unfold CodexRunTracker.nextUpdate
  split
  next => exact ⟨bound.stream, bound.evidence, bound.thread, bound.turn⟩
  next => exact bound.readUpdate arrivals

section Isolation

/-- A call on what the run is sent and one on the same without the notifications of other runs. -/
theorem readUpdate_own (bound : Bound providerThreadId providerTurnId tracker)
    (apart : ∀ arrival ∈ arrivals, arrival.notification.crosses providerThreadId providerTurnId = false) :
    tracker.readUpdate (ownArrivals providerThreadId providerTurnId arrivals) =
      ((tracker.readUpdate arrivals).1, (tracker.readUpdate arrivals).2.1,
        ownArrivals providerThreadId providerTurnId (tracker.readUpdate arrivals).2.2) := by
  induction arrivals generalizing tracker with
  | nil => rfl
  | cons arrival rest ih =>
    have later := fun other inside => apart other (List.mem_cons_of_mem arrival inside)
    unfold ownArrivals
    rw [List.filter_cons]
    cases foreign : arrival.notification.isForeign providerThreadId providerTurnId with
    | true =>
      have silent := observe_foreign bound foreign (apart arrival List.mem_cons_self)
      simp only [Bool.not_true, Bool.false_eq_true, if_false, CodexRunTracker.readUpdate, silent]
      exact ih bound later
    | false =>
      have observed := bound.observe arrival
      simp only [Bool.not_false, if_true, CodexRunTracker.readUpdate]
      split
      next => rfl
      next => rfl
      next seen =>
        rw [seen] at observed
        exact ih observed later

theorem nextUpdate_own (bound : Bound providerThreadId providerTurnId tracker)
    (apart : ∀ arrival ∈ arrivals, arrival.notification.crosses providerThreadId providerTurnId = false) :
    tracker.nextUpdate (ownArrivals providerThreadId providerTurnId arrivals) =
      ((tracker.nextUpdate arrivals).1, (tracker.nextUpdate arrivals).2.1,
        ownArrivals providerThreadId providerTurnId (tracker.nextUpdate arrivals).2.2) := by
  unfold CodexRunTracker.nextUpdate
  split
  next => rfl
  next => exact readUpdate_own bound apart

/-- What a call leaves is the end of what it was given. -/
theorem readUpdate_suffix (tracker : CodexRunTracker) (arrivals : List Arrival) :
    (tracker.readUpdate arrivals).2.2 <:+ arrivals := by
  induction arrivals generalizing tracker with
  | nil => exact List.suffix_rfl
  | cons arrival rest ih =>
    unfold CodexRunTracker.readUpdate
    split
    next => exact List.suffix_cons arrival rest
    next => exact List.suffix_cons arrival rest
    next => exact (ih _).trans (List.suffix_cons arrival rest)

theorem nextUpdate_suffix (tracker : CodexRunTracker) (arrivals : List Arrival) :
    (tracker.nextUpdate arrivals).2.2 <:+ arrivals := by
  unfold CodexRunTracker.nextUpdate
  split
  next => exact List.suffix_rfl
  next => exact readUpdate_suffix tracker arrivals

theorem calls_own (bound : Bound providerThreadId providerTurnId tracker)
    (apart : ∀ arrival ∈ arrivals, arrival.notification.crosses providerThreadId providerTurnId = false)
    (count : Nat) :
    (calls count tracker (ownArrivals providerThreadId providerTurnId arrivals)).1 = (calls count tracker arrivals).1 ∧
      (calls count tracker (ownArrivals providerThreadId providerTurnId arrivals)).2.1 =
        (calls count tracker arrivals).2.1 := by
  induction count generalizing tracker arrivals with
  | zero => exact ⟨rfl, rfl⟩
  | succ more ih =>
    have same := nextUpdate_own bound apart
    have kept := bound.nextUpdate arrivals
    have later : ∀ arrival ∈ (tracker.nextUpdate arrivals).2.2,
        arrival.notification.crosses providerThreadId providerTurnId = false :=
      fun arrival member => apart arrival ((nextUpdate_suffix tracker arrivals).subset member)
    unfold CodexRunTracker.calls
    rw [same]
    rcases given : tracker.nextUpdate arrivals with ⟨result, reached, rest⟩
    rw [given] at kept later
    cases result with
    | none => exact ⟨rfl, rfl⟩
    | some result =>
      obtain ⟨results, ended⟩ := ih kept later
      exact ⟨congrArg (result :: ·) results, ended⟩

end Isolation

section Counting

/-- Whether a result is a lifecycle event or an error. -/
def decides : Except RunTrackerError CodexRunUpdate → Bool
  | .error _ | .ok (.lifecycle _) => true
  | .ok (.evidence _) => false

def weighs : Except RunTrackerError (Option CodexRunUpdate) → Nat
  | .error _ | .ok (some (.lifecycle _)) => 1
  | .ok none | .ok (some (.evidence _)) => 0

/-- Whether a notification gives the tracker a lifecycle event or an error. -/
def weight (tracker : CodexRunTracker) (arrival : Arrival) : Nat :=
  weighs (tracker.observe arrival).1

/-- A lifecycle event that waits behind a receipt. -/
def due (tracker : CodexRunTracker) : Nat :=
  match tracker.pendingTerminal with
  | some (.lifecycle _) => 1
  | some (.evidence _) | none => 0

theorem weight_heeded (lifecycle : arrival.notification.isLifecycle = true)
    (named : ∀ turnId, arrival.notification.turnId = some turnId → turnId = tracker.stream.providerTurnId) :
    tracker.weight arrival = 1 := by
  unfold weight CodexRunTracker.observe
  cases tracker.finalOutput.ingest arrival.notification with
  | error => rfl
  | ok output =>
    cases heeded : tracker.stream.ingest arrival.notification arrival.occurredAt with
    | error => rfl
    | ok answer =>
      obtain ⟨event, after⟩ := answer
      cases event with
      | none => exact absurd heeded (CodexRunStream.ingest_heeded lifecycle named)
      | some event => rfl

theorem weight_ignored
    (passed : tracker.stream.ingest arrival.notification arrival.occurredAt = .ok (none, tracker.stream)) :
    tracker.weight arrival =
      if (isOk (CodexFinalOutput.answerText tracker.finalOutput.providerThreadId tracker.finalOutput.providerTurnId
        arrival.notification) && isOk (tracker.evidence.ingest arrival.notification)) = true then 0 else 1 := by
  unfold weight CodexRunTracker.observe
  rw [CodexFinalOutput.ingest_eq]
  cases CodexFinalOutput.answerText tracker.finalOutput.providerThreadId tracker.finalOutput.providerTurnId
      arrival.notification with
  | error => rfl
  | ok text =>
    simp only [Except.map, passed]
    cases tracker.evidence.ingest arrival.notification with
    | error => rfl
    | ok update => cases update <;> rfl

/-- Trackers of one run give a notification the same weight, whatever they have seen. -/
theorem weight_congr {other : CodexRunTracker} (bound : Bound providerThreadId providerTurnId tracker)
    (alike : Bound providerThreadId providerTurnId other) (arrival : Arrival) :
    tracker.weight arrival = other.weight arrival := by
  by_cases ignored : arrival.notification.isLifecycle = false ∨
      ∃ turnId, arrival.notification.turnId = some turnId ∧ turnId ≠ providerTurnId
  · rw [weight_ignored (CodexRunStream.ingest_ignored (bound.stream ▸ ignored)),
      weight_ignored (CodexRunStream.ingest_ignored (alike.stream ▸ ignored)), bound.thread, bound.turn, bound.evidence,
      alike.thread, alike.turn, alike.evidence]
  · obtain ⟨lifecycle, named⟩ := not_or.mp ignored
    have lifecycle : arrival.notification.isLifecycle = true := by simpa using lifecycle
    have named : ∀ turnId, arrival.notification.turnId = some turnId → turnId = providerTurnId := by
      intro turnId found
      by_contra differs
      exact named ⟨turnId, found, differs⟩
    rw [weight_heeded lifecycle (bound.stream ▸ named), weight_heeded lifecycle (alike.stream ▸ named)]

theorem weight_crossing (bound : Bound providerThreadId providerTurnId tracker)
    (crossing : arrival.notification.crosses providerThreadId providerTurnId = true) :
    tracker.weight arrival = 1 := by
  unfold AppServerNotification.crosses at crossing
  simp only [Bool.and_eq_true, beq_iff_eq] at crossing
  refine weight_heeded crossing.1.1 fun turnId named => ?_
  rw [crossing.1.2] at named
  rw [bound.stream]
  exact (Option.some.inj named).symm

theorem observe_pending (tracker : CodexRunTracker) (arrival : Arrival) :
    (tracker.observe arrival).2.pendingTerminal = tracker.pendingTerminal := by
  unfold CodexRunTracker.observe
  split
  next => rfl
  next =>
    dsimp only
    split
    next => rfl
    next => rfl
    next => split <;> rfl

omit [SerdeJson] in
/-- An update is reported at once, or waits for the receipt in front of it. -/
theorem orderUpdate_due (idle : tracker.pendingTerminal = none) (update : CodexRunUpdate)
    (workspace : Except WorkspaceEvidenceError (Option String)) :
    (if decides (tracker.orderUpdate update workspace).1 then 1 else 0) + (tracker.orderUpdate update workspace).2.due =
      if decides (.ok update) then 1 else 0 := by
  have quiet : tracker.due = 0 := by
    unfold due
    rw [idle]
  have silent : ({ tracker with providerWriteReceipt := true } : CodexRunTracker).due = 0 := by
    unfold due
    rw [idle]
  unfold CodexRunTracker.orderUpdate
  split
  next => rw [silent]; rfl
  next =>
    split
    next => rw [quiet]; rfl
    next held =>
      split
      next => rw [quiet]; rfl
      next =>
        cases update with
        | evidence update => simp [ends] at held
        | lifecycle event =>
          split
          next => rw [quiet]; rfl
          next => rw [quiet]; rfl
          next => rfl

/-- The lifecycle events and errors one call reports, leaves waiting and leaves to read. -/
theorem readUpdate_count {reference : CodexRunTracker} (alike : Bound providerThreadId providerTurnId reference)
    (bound : Bound providerThreadId providerTurnId tracker) (idle : tracker.pendingTerminal = none) :
    ((tracker.readUpdate arrivals).1.toList.countP decides + (tracker.readUpdate arrivals).2.1.due +
      ((tracker.readUpdate arrivals).2.2.map reference.weight).sum) = (arrivals.map reference.weight).sum := by
  induction arrivals generalizing tracker with
  | nil =>
    simp only [CodexRunTracker.readUpdate, due, idle]
    rfl
  | cons arrival rest ih =>
    have observed := bound.observe arrival
    have pending := (observe_pending tracker arrival).trans idle
    have weighed := weight_congr alike bound arrival
    rw [List.map_cons, List.sum_cons, weighed, weight]
    unfold CodexRunTracker.readUpdate
    rcases seen : tracker.observe arrival with ⟨answer, after⟩
    rw [seen] at observed pending
    rcases answer with error | ⟨_ | update⟩
    · have quiet : after.due = 0 := by
        unfold due
        rw [pending]
      simp [quiet, decides, weighs]
    · simpa [weighs] using ih observed pending
    · have ordered := orderUpdate_due pending update arrival.workspace
      dsimp only
      rw [Option.toList_some, List.countP_singleton, ordered]
      cases update <;> rfl

theorem nextUpdate_count {reference : CodexRunTracker} (alike : Bound providerThreadId providerTurnId reference)
    (bound : Bound providerThreadId providerTurnId tracker) :
    ((tracker.nextUpdate arrivals).1.toList.countP decides + (tracker.nextUpdate arrivals).2.1.due +
      ((tracker.nextUpdate arrivals).2.2.map reference.weight).sum) =
        tracker.due + (arrivals.map reference.weight).sum := by
  unfold CodexRunTracker.nextUpdate
  cases pending : tracker.pendingTerminal with
  | none =>
    have quiet : tracker.due = 0 := by
      unfold due
      rw [pending]
    rw [quiet, Nat.zero_add]
    exact readUpdate_count alike bound pending
  | some terminal =>
    have waiting : (if decides (.ok terminal) then 1 else 0) = tracker.due := by
      unfold due
      rw [pending]
      cases terminal <;> rfl
    dsimp only
    rw [Option.toList_some, List.countP_singleton, waiting]
    rfl

theorem calls_count {reference : CodexRunTracker} (alike : Bound providerThreadId providerTurnId reference)
    (bound : Bound providerThreadId providerTurnId tracker) (count : Nat) :
    (calls count tracker arrivals).1.countP decides + (calls count tracker arrivals).2.1.due +
      ((calls count tracker arrivals).2.2.map reference.weight).sum =
        tracker.due + (arrivals.map reference.weight).sum := by
  induction count generalizing tracker arrivals with
  | zero =>
    unfold CodexRunTracker.calls
    rw [List.countP_nil, Nat.zero_add]
  | succ more ih =>
    have counted := @nextUpdate_count _ _ _ tracker arrivals reference alike bound
    have kept := bound.nextUpdate arrivals
    unfold CodexRunTracker.calls
    rcases given : tracker.nextUpdate arrivals with ⟨result, reached, rest⟩
    rw [given] at counted kept
    cases result with
    | none => exact counted
    | some result =>
      have later := @ih reached rest kept
      simp only [Option.toList_some, List.countP_singleton] at counted
      simp only [List.countP_cons]
      omega

/-- How far the calls still have to go. -/
def remaining (tracker : CodexRunTracker) (arrivals : List Arrival) : Nat :=
  2 * arrivals.length + tracker.pendingTerminal.toList.length

theorem readUpdate_done (idle : tracker.pendingTerminal = none)
    (unreported : (tracker.readUpdate arrivals).1 = none) :
    (tracker.readUpdate arrivals).2.2 = [] ∧ (tracker.readUpdate arrivals).2.1.due = 0 := by
  induction arrivals generalizing tracker with
  | nil =>
    refine ⟨rfl, ?_⟩
    simp only [CodexRunTracker.readUpdate, due, idle]
  | cons arrival rest ih =>
    have pending := (observe_pending tracker arrival).trans idle
    unfold CodexRunTracker.readUpdate at unreported ⊢
    rcases seen : tracker.observe arrival with ⟨answer, after⟩
    rw [seen] at unreported pending
    rcases answer with error | ⟨_ | update⟩
    · cases unreported
    · exact ih pending unreported
    · cases unreported

theorem readUpdate_remaining {result : Except RunTrackerError CodexRunUpdate} (idle : tracker.pendingTerminal = none)
    (reported : (tracker.readUpdate arrivals).1 = some result) :
    remaining (tracker.readUpdate arrivals).2.1 (tracker.readUpdate arrivals).2.2 < remaining tracker arrivals := by
  induction arrivals generalizing tracker with
  | nil => cases reported
  | cons arrival rest ih =>
    have pending := (observe_pending tracker arrival).trans idle
    have atMost : ∀ other : CodexRunTracker, other.pendingTerminal.toList.length ≤ 1 := by
      intro other
      cases other.pendingTerminal <;> simp
    unfold CodexRunTracker.readUpdate at reported ⊢
    rcases seen : tracker.observe arrival with ⟨answer, after⟩
    rw [seen] at reported pending
    rcases answer with error | ⟨_ | update⟩
    · have := atMost after
      simp only [remaining, List.length_cons]
      omega
    · have shorter := ih pending reported
      dsimp only at pending
      simp only [remaining, List.length_cons, pending, idle, Option.toList_none, List.length_nil] at shorter ⊢
      omega
    · have := atMost (after.orderUpdate update arrival.workspace).2
      simp only [remaining, List.length_cons]
      omega

theorem nextUpdate_remaining {result : Except RunTrackerError CodexRunUpdate}
    (reported : (tracker.nextUpdate arrivals).1 = some result) :
    remaining (tracker.nextUpdate arrivals).2.1 (tracker.nextUpdate arrivals).2.2 < remaining tracker arrivals := by
  unfold CodexRunTracker.nextUpdate at reported ⊢
  cases pending : tracker.pendingTerminal with
  | none =>
    rw [pending] at reported
    exact readUpdate_remaining pending reported
  | some terminal => simp [remaining, pending]

/-- Enough calls leave nothing to read and nothing waiting. -/
theorem calls_done {count : Nat} (enough : remaining tracker arrivals < count) :
    (calls count tracker arrivals).2.2 = [] ∧ (calls count tracker arrivals).2.1.due = 0 := by
  induction count generalizing tracker arrivals with
  | zero => exact absurd enough (Nat.not_lt_zero _)
  | succ more ih =>
    unfold CodexRunTracker.calls
    rcases given : tracker.nextUpdate arrivals with ⟨result, reached, rest⟩
    cases result with
    | none =>
      have unreported : (tracker.nextUpdate arrivals).1 = none := by rw [given]
      unfold CodexRunTracker.nextUpdate at given unreported
      cases pending : tracker.pendingTerminal with
      | none =>
        rw [pending] at given unreported
        have done := readUpdate_done pending unreported
        dsimp only at given
        rw [given] at done
        exact done
      | some terminal =>
        rw [pending] at unreported
        cases unreported
    | some result =>
      have reported : (tracker.nextUpdate arrivals).1 = some result := by rw [given]
      have shorter := nextUpdate_remaining reported
      rw [given] at shorter
      dsimp only at shorter
      exact ih (by omega)

omit [SerdeJson] in
theorem sum_filter_lt {measure : Arrival → Nat} {keep : Arrival → Bool} (member : arrival ∈ arrivals)
    (dropped : keep arrival = false) (counts : 0 < measure arrival) :
    ((arrivals.filter keep).map measure).sum < (arrivals.map measure).sum := by
  have sublist : ((arrivals.filter keep).map measure).sum + measure arrival ≤ (arrivals.map measure).sum := by
    induction arrivals with
    | nil => cases member
    | cons first rest ih =>
      rw [List.filter_cons, List.map_cons, List.sum_cons]
      rcases List.mem_cons.mp member with rfl | inside
      · have shorter : ((rest.filter keep).map measure).sum ≤ (rest.map measure).sum :=
          List.Sublist.sum_le_sum (List.filter_sublist.map measure) fun _ _ => Nat.zero_le _
        rw [dropped, if_neg Bool.false_ne_true]
        omega
      · have shorter := ih inside
        split
        next => rw [List.map_cons, List.sum_cons]; omega
        next => omega
  omega

end Counting

/-- A tracker reports the same, call by call, and collects the same output, whether or not the notifications of
other runs reach it, exactly when none of them names its own turn on another thread. -/
theorem tracker_isolated_iff (tracker : CodexRunTracker) (bound : Bound providerThreadId providerTurnId tracker)
    (arrivals : List Arrival) :
    (∀ count,
      (calls count tracker arrivals).1 = (calls count tracker (ownArrivals providerThreadId providerTurnId arrivals)).1 ∧
      (calls count tracker arrivals).2.1.finalOutput =
        (calls count tracker (ownArrivals providerThreadId providerTurnId arrivals)).2.1.finalOutput) ↔
    ∀ arrival ∈ arrivals, arrival.notification.crosses providerThreadId providerTurnId = false := by
  constructor
  · intro same arrival member
    by_contra crossing
    have crossing : arrival.notification.crosses providerThreadId providerTurnId = true := by simpa using crossing
    let own := ownArrivals providerThreadId providerTurnId arrivals
    let enough := remaining tracker arrivals + remaining tracker own + 1
    have whole := @calls_count _ _ _ tracker arrivals tracker bound bound enough
    have part := @calls_count _ _ _ tracker own tracker bound bound enough
    have wholeDone := @calls_done _ tracker arrivals enough (by omega)
    have partDone := @calls_done _ tracker own enough (by omega)
    have fewer : (own.map tracker.weight).sum < (arrivals.map tracker.weight).sum := by
      apply sum_filter_lt member
      · rw [AppServerNotification.foreign_of_crosses crossing]
        rfl
      · rw [weight_crossing bound crossing]
        exact Nat.one_pos
    have results : (calls enough tracker arrivals).1 = (calls enough tracker own).1 := (same enough).1
    rw [wholeDone.1, wholeDone.2, results] at whole
    rw [partDone.1, partDone.2] at part
    rw [List.map_nil, List.sum_nil] at whole part
    omega
  · intro apart count
    obtain ⟨results, ended⟩ := calls_own bound apart count
    exact ⟨results.symm, congrArg CodexRunTracker.finalOutput ended.symm⟩

/-- A tracker as it starts. -/
def firstTracker : CodexRunTracker :=
  ⟨⟨"turn_1", .new ⟨7⟩, false⟩, ⟨"thr_1", "turn_1"⟩, false, false, none, ⟨"thr_1", "turn_1", "", false⟩⟩

def turnCompletion (threadId turnId : String) : Arrival where
  notification :=
    { method := "turn/completed"
      params := .object [("threadId", .string threadId),
        ("turn", .object [("id", .string turnId), ("status", .string "completed")])] }
  occurredAt := "now"
  workspace := .ok none

omit [SerdeJson] in
/-- The completion of a turn of another thread ends the run whose turn has the same id. -/
theorem foreign_completion_ends_run :
    (turnCompletion "thr_2" "turn_1").notification.isForeign "thr_1" "turn_1" = true ∧
    (@calls .compact 1 firstTracker [turnCompletion "thr_2" "turn_1"]).1.map (fun result => result.toOption.map ends) =
      [some true] ∧
    (@calls .compact 1 firstTracker (ownArrivals "thr_1" "turn_1" [turnCompletion "thr_2" "turn_1"])).1.map
      (fun result => result.toOption.map ends) = [] := by
  decide +kernel

omit [SerdeJson] in
/-- The completions of other turns leave a run alone. -/
theorem tracker_isolated_iff_completions :
    (@calls .compact 3 firstTracker [turnCompletion "thr_2" "turn_2", turnCompletion "thr_1" "turn_1"]).1 =
      (@calls .compact 3 firstTracker (ownArrivals "thr_1" "turn_1"
        [turnCompletion "thr_2" "turn_2", turnCompletion "thr_1" "turn_1"])).1 ∧
    (@calls .compact 3 firstTracker
      [turnCompletion "thr_2" "turn_2", turnCompletion "thr_1" "turn_1"]).2.1.finalOutput =
      (@calls .compact 3 firstTracker (ownArrivals "thr_1" "turn_1"
        [turnCompletion "thr_2" "turn_2", turnCompletion "thr_1" "turn_1"])).2.1.finalOutput :=
  (@tracker_isolated_iff .compact "thr_1" "turn_1" firstTracker ⟨rfl, rfl, rfl, rfl⟩ _).mpr (by decide +kernel) 3

end CodexRunTracker

end Bastet.Codex
