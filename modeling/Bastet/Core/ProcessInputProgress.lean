import Bastet.Library.Fairness
import Bastet.Core.ProcessInputSafety

/-! A write that is cancelled, or past its deadline, comes to an end: as long as the caller and the worker both get
their turns, the call returns, whatever the child does with its pipe. -/

set_option autoImplicit false

namespace Bastet.Core

open Fallible

/-- The two threads of a writer. -/
inductive InputThread where
  | caller
  | worker
  deriving DecidableEq, Repr

def InputAction.thread : InputAction → Option InputThread
  | .caller => some .caller
  | .worker _ => some .worker
  | .tick | .cancel _ | .write _ | .close => none

namespace ProcessInputWriter

variable {self : ProcessInputWriter} {request : WriteRequest}

/-- Steps of a call whose token is cancelled until it waits for the worker to exit. -/
def cancelledRank : Calling → Nat
  | .entering _ => 7
  | .offeringClock _ => 6
  | .sending _ | .receiving _ => 5
  | .startingClock _ | .returned _ | .expiring _ => 4
  | .starting _ | .offering _ | .awaiting _ => 3
  | .stopping _ => 2
  | .dropping _ => 1
  | .idle | .joining _ => 0

/-- The same for a call whose deadline has passed. -/
def expiredRank : Calling → Nat
  | .entering _ => 10
  | .starting _ => 9
  | .startingClock _ => 8
  | .offering _ => 8
  | .offeringClock _ => 7
  | .sending _ => 6
  | .returned _ | .awaiting _ => 5
  | .receiving _ => 4
  | .expiring _ => 3
  | .stopping _ => 2
  | .dropping _ => 1
  | .idle | .joining _ => 0

/-- Steps of a worker that has been stopped until it exits. -/
def workerRank : Writing → Nat
  | .clock _ _ => 6
  | .writing _ _ => 5
  | .checking _ _ => 4
  | .ending _ => 3
  | .answering _ => 2
  | .answered _ | .receiving => 1
  | .exited => 0

/-- The call waits for the worker to exit. -/
def joins (self : ProcessInputWriter) : Bool :=
  match self.calling with
  | .joining _ => true
  | _ => false

/-- What is left of a call: its own steps, and then those of the worker. -/
def remaining (rank : Calling → Nat) (self : ProcessInputWriter) : Nat :=
  if self.joins then workerRank self.writing else 7 + rank self.calling

/-- The thread that has to act next. -/
def awaits (self : ProcessInputWriter) : InputThread :=
  if self.joins && !decide (self.writing = .exited) then .worker else .caller

/-- A call of this request is under way, and no result has been added since. -/
structure Pending (request : WriteRequest) (count : Nat) (doomed : ProcessInputWriter → Prop)
    (writer : ProcessInputWriter) : Prop where
  sound : writer.Sound
  called : writer.calling.request = some request
  count : writer.results.length = count
  doomed : doomed writer

theorem results_grow (self : ProcessInputWriter) (action : InputAction) : ∃ later, (self.next action).results = self.results ++ later := by
  have unchanged : ∀ {after : ProcessInputWriter}, after.results = self.results → ∃ later,
      after.results = self.results ++ later := fun same => ⟨[], same.trans (List.append_nil _).symm⟩
  cases action with
  | tick | cancel => exact unchanged rfl
  | write request | close =>
    simp only [next]
    split
    all_goals exact unchanged rfl
  | worker reply => exact unchanged (self.work_frame reply).2.2.2.2
  | caller =>
    have finished : ∀ (writer : ProcessInputWriter) (request : WriteRequest) (result : InputResult),
        writer.results = self.results → ∃ later, (writer.finish request result).results = self.results ++ later :=
      fun writer request result same => ⟨[(request, result)], congrArg (· ++ _) same⟩
    simp only [next]
    unfold call
    split
    all_goals repeat' split
    all_goals first | exact unchanged rfl | exact finished _ _ _ rfl

/-- Neither thread sets the clock back, or takes a cancellation back. -/
theorem surroundings (action : InputAction) : self.now ≤ (self.next action).now ∧
    ∀ token, self.cancelled token = true → (self.next action).cancelled token = true := by
  cases action with
  | tick => exact ⟨Nat.le_succ _, fun _ => id⟩
  | cancel token => exact ⟨Nat.le_refl _, fun other known => by simp [next, known]⟩
  | write request | close =>
    simp only [next]
    split
    all_goals exact ⟨Nat.le_refl _, fun _ => id⟩
  | caller =>
    simp only [next]
    unfold call
    split
    all_goals repeat' split
    all_goals exact ⟨Nat.le_refl _, fun _ => id⟩
  | worker reply =>
    simp only [next]
    unfold work
    split
    all_goals repeat' split
    all_goals exact ⟨Nat.le_refl _, fun _ => id⟩

theorem finish_length (writer : ProcessInputWriter) (request : WriteRequest) (result : InputResult) :
    writer.results.length < (writer.finish request result).results.length := by
  simp [finish]

theorem workerRank_le (writing : Writing) : workerRank writing ≤ 6 := by
  cases writing <;> simp [workerRank]

theorem joins_remaining (rank : Calling → Nat) (joins : self.joins = true) : remaining rank self ≤ 6 := by
  rw [remaining, if_pos joins]
  exact workerRank_le self.writing

/-- A step of a call that does not yet join its worker ends it, or leaves it less to do: the call has been cancelled. -/
theorem cancelled_call (called : self.calling.request = some request) (cancelled : self.cancelled request.token = true)
    (apart : self.joins = false) : self.results.length < self.call.results.length ∨
      (self.call.calling.request = some request ∧ remaining cancelledRank self.call < remaining cancelledRank self) := by
  have before : remaining cancelledRank self = 7 + cancelledRank self.calling := by simp [remaining, apart]
  rw [before]
  cases calling : self.calling with
  | idle => simp [calling, Calling.request] at called
  | entering own =>
    obtain rfl : own = request := by simpa [calling, Calling.request] using called
    simp only [call, calling]
    repeat' split
    · exact .inl (finish_length _ _ _)
    · exact .inl (finish_length _ _ _)
    · exact .inr ⟨rfl, by simp [remaining, joins, cancelledRank]⟩
  | starting own | offering own | awaiting own =>
    obtain rfl : own = request := by simpa [calling, Calling.request] using called
    simp only [call, calling, cancelled, if_true]
    exact .inr ⟨rfl, by simp [poisonAndClose, remaining, joins, cancelledRank]⟩
  | startingClock own | offeringClock own | returned own | expiring own =>
    obtain rfl : own = request := by simpa [calling, Calling.request] using called
    simp only [call, calling]
    split
    all_goals exact .inr ⟨rfl, by simp [poisonAndClose, remaining, joins, cancelledRank]⟩
  | sending own =>
    obtain rfl : own = request := by simpa [calling, Calling.request] using called
    simp only [call, calling]
    split
    all_goals exact .inr ⟨rfl, by simp [poisonAndClose, remaining, joins, cancelledRank]⟩
  | receiving own =>
    obtain rfl : own = request := by simpa [calling, Calling.request] using called
    simp only [call, calling]
    repeat' split
    · exact .inl (finish_length { self with answer := none } _ _)
    all_goals exact .inr ⟨rfl, by simp [poisonAndClose, remaining, joins, cancelledRank]⟩
  | stopping failed =>
    simp only [call, calling]
    exact .inr ⟨by simpa [calling, Calling.request] using called, by simp [remaining, joins, cancelledRank]⟩
  | dropping failed =>
    simp only [call, calling]
    refine .inr ⟨by simpa [calling, Calling.request] using called, ?_⟩
    exact Nat.lt_of_le_of_lt (joins_remaining cancelledRank rfl) (by simp [cancelledRank])
  | joining failed => simp [joins, calling] at apart

/-- The same for a call whose deadline has passed. -/
theorem expired_call (called : self.calling.request = some request) (expired : request.deadline ≤ self.now)
    (apart : self.joins = false) : self.results.length < self.call.results.length ∨
      (self.call.calling.request = some request ∧ remaining expiredRank self.call < remaining expiredRank self) := by
  have before : remaining expiredRank self = 7 + expiredRank self.calling := by simp [remaining, apart]
  rw [before]
  cases calling : self.calling with
  | idle => simp [calling, Calling.request] at called
  | entering own =>
    obtain rfl : own = request := by simpa [calling, Calling.request] using called
    simp only [call, calling]
    repeat' split
    · exact .inl (finish_length _ _ _)
    · exact .inl (finish_length _ _ _)
    · exact .inr ⟨rfl, by simp [remaining, joins, expiredRank]⟩
  | starting own | offering own | awaiting own =>
    obtain rfl : own = request := by simpa [calling, Calling.request] using called
    simp only [call, calling]
    split
    all_goals exact .inr ⟨rfl, by simp [poisonAndClose, remaining, joins, expiredRank]⟩
  | startingClock own | offeringClock own | returned own =>
    obtain rfl : own = request := by simpa [calling, Calling.request] using called
    simp only [call, calling, expired, if_true]
    exact .inr ⟨rfl, by simp [poisonAndClose, remaining, joins, expiredRank]⟩
  | expiring own =>
    obtain rfl : own = request := by simpa [calling, Calling.request] using called
    simp only [call, calling, if_neg (Nat.not_lt.mpr expired)]
    exact .inr ⟨rfl, by simp [poisonAndClose, remaining, joins, expiredRank]⟩
  | sending own =>
    obtain rfl : own = request := by simpa [calling, Calling.request] using called
    simp only [call, calling]
    split
    all_goals exact .inr ⟨rfl, by simp [poisonAndClose, remaining, joins, expiredRank]⟩
  | receiving own =>
    obtain rfl : own = request := by simpa [calling, Calling.request] using called
    simp only [call, calling]
    repeat' split
    · exact .inl (finish_length { self with answer := none } _ _)
    all_goals exact .inr ⟨rfl, by simp [poisonAndClose, remaining, joins, expiredRank]⟩
  | stopping failed =>
    simp only [call, calling]
    exact .inr ⟨by simpa [calling, Calling.request] using called, by simp [remaining, joins, expiredRank]⟩
  | dropping failed =>
    simp only [call, calling]
    refine .inr ⟨by simpa [calling, Calling.request] using called, ?_⟩
    exact Nat.lt_of_le_of_lt (joins_remaining expiredRank rfl) (by simp [expiredRank])
  | joining failed => simp [joins, calling] at apart

/-- A worker that has been stopped comes closer to its exit with every step. -/
theorem stopped_work (reply : WriteReply) (stopped : self.stopped = true) (sender : self.sender = false)
    (working : self.writing ≠ .exited) : workerRank (self.work reply).writing < workerRank self.writing := by
  cases writing : self.writing with
  | receiving => simp [work, writing, sender, workerRank]
  | checking request offset =>
    simp only [work, writing, stopped, if_true]
    split
    all_goals simp [workerRank]
  | clock request offset | ending request =>
    simp only [work, writing]
    split
    all_goals simp [workerRank]
  | writing request offset =>
    simp only [work, writing]
    split
    all_goals simp [workerRank]
  | answering result => simp [work, writing, workerRank]
  | answered terminal => simp [work, writing, stopped, workerRank]
  | exited => exact absurd writing working

/-- While a call joins its worker, the worker has been stopped, and nobody else can hand it a frame. -/
theorem Sound.joining (sound : self.Sound) (joins : self.joins = true) :
    self.stopped = true ∧ self.sender = false := by
  unfold Sound at sound
  unfold ProcessInputWriter.joins at joins
  cases calling : self.calling with
  | joining failed =>
    cases failed with
    | none =>
      simp only [calling] at sound
      exact ⟨sound.1.stopped, sound.2⟩
    | some failed =>
      simp only [calling] at sound
      exact ⟨sound.2.1, sound.2.2.2⟩
  | _ => simp [calling] at joins

section Descent

variable {count : Nat} {rank : Calling → Nat} {doomed : ProcessInputWriter → Prop}

theorem joins_eq {later : ProcessInputWriter} (same : later.calling = self.calling) : later.joins = self.joins := by
  rw [joins, same, joins]

theorem Pending.caller (lowers : ∀ writer : ProcessInputWriter, writer.calling.request = some request → doomed writer →
      writer.joins = false → writer.results.length < writer.call.results.length ∨
        (writer.call.calling.request = some request ∧ remaining rank writer.call < remaining rank writer))
    (stays : ∀ (writer : ProcessInputWriter) (action : InputAction), doomed writer → doomed (writer.next action))
    (pending : self.Pending request count doomed) (waits : self.awaits = .caller) :
    count < (self.next .caller).results.length ∨
      ((self.next .caller).Pending request count doomed ∧ remaining rank (self.next .caller) < remaining rank self) := by
  have grow : self.call.results.length = count ∨ count < self.call.results.length := by
    obtain ⟨later, known⟩ := self.results_grow .caller
    have length := congrArg List.length known
    rw [List.length_append, pending.count] at length
    change self.call.results.length = _ at length
    omega
  obtain same | grown := grow
  · cases joins : self.joins with
    | false =>
      obtain returned | ⟨called, lower⟩ := lowers self pending.called pending.doomed joins
      · rw [pending.count] at returned
        exact .inl returned
      · exact .inr ⟨⟨next_sound .caller pending.sound, called, same, stays self .caller pending.doomed⟩, lower⟩
    | true =>
      have exited : self.writing = .exited := by simpa [awaits, joins] using waits
      unfold ProcessInputWriter.joins at joins
      split at joins
      · rename_i failed calling
        have called := pending.called
        rw [calling] at called
        obtain ⟨failed, rfl, rfl⟩ := Option.map_eq_some_iff.mp called
        left
        have returned : self.call = self.finish failed.1 (.error failed.2) := by simp [call, calling, exited]
        have length := finish_length self failed.1 (.error failed.2)
        rw [pending.count, ← returned] at length
        exact length
      · cases joins
  · exact .inl grown

theorem Pending.worker (stays : ∀ (writer : ProcessInputWriter) (action : InputAction), doomed writer →
      doomed (writer.next action)) (pending : self.Pending request count doomed) (reply : WriteReply) :
    (self.next (.worker reply)).Pending request count doomed := by
  obtain ⟨calling, _, _, _, results⟩ := self.work_frame reply
  refine ⟨next_sound _ pending.sound, ?_, ?_, stays self _ pending.doomed⟩
  · exact (congrArg Calling.request calling).trans pending.called
  · exact (congrArg List.length results).trans pending.count

theorem call_descends (count : Nat) (rank : Calling → Nat)
    (lowers : ∀ writer : ProcessInputWriter, writer.calling.request = some request → doomed writer →
      writer.joins = false → writer.results.length < writer.call.results.length ∨
        (writer.call.calling.request = some request ∧ remaining rank writer.call < remaining rank writer))
    (stays : ∀ (writer : ProcessInputWriter) (action : InputAction), doomed writer → doomed (writer.next action)) :
    Machine.Descends next InputAction.thread (Pending request count doomed)
      (fun writer => count < writer.results.length) (remaining rank) awaits where
  kept := by
    intro writer action pending
    have busy : writer.calling ≠ .idle := by
      intro idle
      have called := pending.called
      rw [idle] at called
      cases called
    cases action with
    | tick | cancel =>
      exact .inr ⟨⟨next_sound _ pending.sound, pending.called, pending.count, stays writer _ pending.doomed⟩, .inr ⟨rfl, rfl⟩⟩
    | write | close =>
      simp only [next, if_neg busy]
      exact .inr ⟨pending, .inr ⟨trivial, trivial⟩⟩
    | caller =>
      cases waits : writer.awaits with
      | caller =>
        obtain returned | ⟨still, lower⟩ := pending.caller lowers stays waits
        · exact .inl returned
        · exact .inr ⟨still, .inl lower⟩
      | worker =>
        -- a call that joins a worker which has not exited waits
        obtain ⟨joins, working⟩ : writer.joins = true ∧ writer.writing ≠ .exited := by
          unfold awaits at waits
          split at waits
          · rename_i both
            simpa using both
          · cases waits
        have same : writer.call = writer := by
          unfold ProcessInputWriter.joins at joins
          split at joins
          · rename_i failed calling
            cases exited : writer.writing with
            | exited => exact absurd exited working
            | _ => simp only [call, calling, exited]
          · cases joins
        simp only [next, same]
        exact .inr ⟨pending, .inr ⟨trivial, waits⟩⟩
    | worker reply =>
      obtain ⟨calling, _⟩ := writer.work_frame reply
      have still := pending.worker stays reply
      have same : (writer.next (.worker reply)).joins = writer.joins := joins_eq calling
      cases joins : writer.joins with
      | false =>
        refine .inr ⟨still, .inr ⟨?_, ?_⟩⟩
        · simp only [remaining, same, joins]
          exact congrArg (7 + rank ·) calling
        · simp [awaits, same, joins]
      | true =>
        by_cases exited : writer.writing = .exited
        · have idle : writer.next (.worker reply) = writer := work_exited reply exited
          simp only [idle]
          exact .inr ⟨pending, .inr ⟨trivial, trivial⟩⟩
        · obtain ⟨stopped, sender⟩ := pending.sound.joining joins
          refine .inr ⟨still, .inl ?_⟩
          simp only [remaining, same, joins, if_true]
          exact stopped_work reply stopped sender exited
  helps := by
    intro writer action pending performs
    cases action with
    | caller => exact pending.caller lowers stays (Option.some.inj performs).symm
    | worker reply =>
      have waits : writer.awaits = .worker := (Option.some.inj performs).symm
      obtain ⟨joins, working⟩ : writer.joins = true ∧ writer.writing ≠ .exited := by
        unfold awaits at waits
        split at waits
        · rename_i both
          simpa using both
        · cases waits
      obtain ⟨calling, _⟩ := writer.work_frame reply
      have same : (writer.next (.worker reply)).joins = writer.joins := joins_eq calling
      obtain ⟨stopped, sender⟩ := pending.sound.joining joins
      refine .inr ⟨pending.worker stays reply, ?_⟩
      simp only [remaining, same, joins, if_true]
      exact stopped_work reply stopped sender working
    | tick | cancel | write | close => cases performs
  stays := by
    intro writer action returned
    obtain ⟨later, known⟩ := writer.results_grow action
    rw [known, List.length_append]
    omega

end Descent

/-- A call whose token is cancelled, or whose deadline has passed, returns within twenty rounds in which the caller and
the worker each take a step, whatever else happens and whatever the child does with its pipe. -/
theorem doomed_call_returns (actions : List InputAction)
    (called : (Machine.run next spawn actions).calling.request = some request)
    (doomed : (Machine.run next spawn actions).cancelled request.token = true ∨
      request.deadline ≤ (Machine.run next spawn actions).now)
    {rounds : List (List InputAction)}
    (fair : ∀ round ∈ rounds, ∀ thread, ∃ action ∈ round, action.thread = some thread) (enough : 20 ≤ rounds.length) :
    (Machine.run next spawn actions).results.length <
      (Machine.run next spawn (actions ++ rounds.flatten)).results.length := by
  have sound := run_sound actions
  rw [Machine.run_append]
  generalize Machine.run next spawn actions = reached at *
  have bounded : ∀ rank : Calling → Nat, (∀ calling, rank calling ≤ 10) → remaining rank reached < rounds.length := by
    intro rank small
    have own := small reached.calling
    have worker := workerRank_le reached.writing
    unfold remaining
    split
    all_goals omega
  obtain cancelled | expired := doomed
  · have stays : ∀ (writer : ProcessInputWriter) (action : InputAction), writer.cancelled request.token = true →
        (writer.next action).cancelled request.token = true :=
      fun _ action => (surroundings action).2 request.token
    have descends := call_descends reached.results.length cancelledRank
      (fun writer called cancelled apart => cancelled_call called cancelled apart) stays
    refine descends.rounds ⟨sound, called, rfl, cancelled⟩ fair (bounded cancelledRank fun calling => ?_)
    cases calling <;> simp [cancelledRank]
  · have stays : ∀ (writer : ProcessInputWriter) (action : InputAction), request.deadline ≤ writer.now →
        request.deadline ≤ (writer.next action).now :=
      fun _ action expired => expired.trans (surroundings action).1
    have descends := call_descends reached.results.length expiredRank
      (fun writer called expired apart => expired_call called expired apart) stays
    refine descends.rounds ⟨sound, called, rfl, expired⟩ fair (bounded expiredRank fun calling => ?_)
    cases calling <;> simp [expiredRank]

/-- A call that is cancelled while a child does not take its bytes. -/
def blockedWrite : List InputAction :=
  [.write ⟨[1, 2, 3], 9, 0⟩] ++ List.replicate 6 .caller ++
    [.worker .wouldBlock, .worker .wouldBlock, .worker .wouldBlock, .cancel 0]

theorem doomed_call_returns_blockedWrite :
    (Machine.run next spawn blockedWrite).results.length <
      (Machine.run next spawn (blockedWrite ++
        (List.replicate 20 [.worker .wouldBlock, .caller, .tick]).flatten)).results.length := by
  have called : (Machine.run next spawn blockedWrite).calling.request = some ⟨[1, 2, 3], 9, 0⟩ := by decide +kernel
  refine doomed_call_returns blockedWrite called (.inl (by decide +kernel)) (fun round member thread => ?_) (by decide)
  obtain rfl := List.eq_of_mem_replicate member
  cases thread with
  | caller => exact ⟨.caller, by decide, rfl⟩
  | worker => exact ⟨.worker .wouldBlock, by decide, rfl⟩

end ProcessInputWriter

end Bastet.Core
