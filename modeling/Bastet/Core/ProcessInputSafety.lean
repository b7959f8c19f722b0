import Bastet.Core.ProcessInput

/-! What a child can have been given: the frames whose writes have returned, one after the other, and then a part of
one more at most. Once a write has failed, nothing more. -/

set_option autoImplicit false

namespace Bastet.Core

open Fallible

namespace ProcessInputWriter

variable {self : ProcessInputWriter} {request : WriteRequest}

/-- The frames whose writes have returned without an error. -/
def completed (self : ProcessInputWriter) : List UInt8 :=
  (self.results.filter fun result => isOk result.2).flatMap fun result => result.1.frame

/-- What the worker knows of a request that it has been handed, of which the pipe has taken `sent`. -/
def Carried (writing : Writing) (answer : Option InputResult) (request : WriteRequest) (sent : List UInt8) : Prop :=
  match writing with
  | .checking held offset | .clock held offset | .writing held offset =>
    held = request ∧ offset ≤ request.frame.length ∧ sent = request.frame.take offset ∧ answer = none
  | .ending held => held = request ∧ sent = request.frame ∧ answer = none
  | .answering result => answer = none ∧ sent <+: request.frame ∧ (result = .ok () → sent = request.frame)
  | .answered terminal => ∃ result, answer = some result ∧ terminal = !isOk result ∧ sent <+: request.frame ∧
      (result = .ok () → sent = request.frame)
  | .receiving => answer = some (.ok ()) ∧ sent = request.frame
  | .exited => ∃ error, answer = some (.error error) ∧ sent <+: request.frame

/-- What is left of a request once its caller no longer waits for it. -/
def Left (writing : Writing) (request : WriteRequest) (sent : List UInt8) : Prop :=
  match writing with
  | .checking held offset | .clock held offset | .writing held offset =>
    held = request ∧ offset ≤ request.frame.length ∧ sent = request.frame.take offset
  | .ending held => held = request ∧ sent = request.frame
  | .answering _ | .answered _ | .receiving | .exited => sent <+: request.frame

/-- The worker waits for a frame, or is about to. -/
def resting (writing : Writing) : Prop :=
  writing = .receiving ∨ writing = .answered false

structure Open (writer : ProcessInputWriter) : Prop where
  poisoned : writer.poisoned = false
  sender : writer.sender = true
  stopped : writer.stopped = false

/-- The writer takes frames, and the pipe has taken whole ones. -/
structure Usable (writer : ProcessInputWriter) : Prop where
  isOpen : writer.Open
  rests : resting writer.writing
  whole : writer.stdin = writer.completed

/-- A part of a frame whose write has failed. -/
def Torn (self : ProcessInputWriter) (tail : List UInt8) : Prop :=
  (self.poisoned = false → tail = []) ∧
    (tail = [] ∨ ∃ request error, (request, .error error) ∈ self.results ∧ tail <+: request.frame)

/-- The writer takes no more frames, and nobody writes to the pipe. -/
structure Spent (writer : ProcessInputWriter) : Prop where
  sender : writer.sender = false
  exited : writer.writing = .exited
  torn : ∃ tail, writer.stdin = writer.completed ++ tail ∧ writer.Torn tail

/-- A close under way with no frame. -/
structure Closing (writer : ProcessInputWriter) : Prop where
  stopped : writer.stopped = true
  rests : writer.writing = .receiving ∨ writer.writing = .answered false ∨ writer.writing = .exited
  torn : ∃ tail, writer.stdin = writer.completed ++ tail ∧ writer.Torn tail

/-- A frame that the worker has been handed. -/
def Delivered (self : ProcessInputWriter) (request : WriteRequest) : Prop :=
  self.Open ∧ ∃ sent, self.stdin = self.completed ++ sent ∧ Carried self.writing self.answer request sent

/-- A frame whose write fails. -/
def Failing (self : ProcessInputWriter) (request : WriteRequest) : Prop :=
  ∃ sent, self.stdin = self.completed ++ sent ∧ Left self.writing request sent

/-- What holds at each step of a call. -/
def Sound (self : ProcessInputWriter) : Prop :=
  match self.calling with
  | .idle | .entering _ | .stopping none => self.Usable ∨ self.Spent
  | .starting _ | .startingClock _ | .offering _ | .offeringClock _ | .sending _ | .returned _ => self.Usable
  | .awaiting request | .receiving request | .expiring request => self.Delivered request
  | .stopping (some (request, _)) => self.Failing request
  | .dropping (some (request, _)) => self.Failing request ∧ self.stopped = true ∧ self.poisoned = true
  | .joining (some (request, _)) =>
    self.Failing request ∧ self.stopped = true ∧ self.poisoned = true ∧ self.sender = false
  | .dropping none => self.Closing
  | .joining none => self.Closing ∧ self.sender = false

theorem Carried.left {writing : Writing} {answer : Option InputResult} {sent : List UInt8}
    (carried : Carried writing answer request sent) : Left writing request sent := by
  cases writing with
  | checking | clock | writing => exact ⟨carried.1, carried.2.1, carried.2.2.1⟩
  | ending => exact ⟨carried.1, carried.2.1⟩
  | answering => exact carried.2.1
  | answered =>
    obtain ⟨_, _, _, part, _⟩ := carried
    exact part
  | receiving => exact carried.2 ▸ List.prefix_refl _
  | exited =>
    obtain ⟨_, _, part⟩ := carried
    exact part

/-- Nothing more than a part of the frame has been sent. -/
theorem Left.part {writing : Writing} {sent : List UInt8} (left : Left writing request sent) : sent <+: request.frame := by
  cases writing with
  | checking | clock | writing => exact left.2.2 ▸ List.take_prefix _ _
  | ending => exact left.2 ▸ List.prefix_refl _
  | answering | answered | receiving | exited => exact left

theorem Usable.failing (usable : self.Usable) (request : WriteRequest) : self.Failing request := by
  refine ⟨[], by rw [usable.whole, List.append_nil], ?_⟩
  obtain rests | rests := usable.rests
  all_goals rw [rests]; exact List.nil_prefix

/-- The bytes that the pipe takes of a piece are the next ones of the frame. -/
theorem take_append_taken (frame : List UInt8) (offset count : Nat) :
    frame.take offset ++ (frame.drop offset).take count =
      frame.take (offset + ((frame.drop offset).take count).length) := by
  rw [List.take_add, List.length_take]
  congr 1
  rw [List.take_eq_take_iff]
  omega

theorem completed_finish (request : WriteRequest) (result : InputResult) :
    (self.finish request result).completed = self.completed ++ if isOk result then request.frame else [] := by
  cases result with
  | error error => simp [completed, finish]
  | ok value => simp [completed, finish, List.filter]

/-- States that differ at most in the call, the clock and the tokens. -/
structure Same (first second : ProcessInputWriter) : Prop where
  writing : second.writing = first.writing
  poisoned : second.poisoned = first.poisoned
  sender : second.sender = first.sender
  stopped : second.stopped = first.stopped
  answer : second.answer = first.answer
  stdin : second.stdin = first.stdin
  results : second.results = first.results

variable {later : ProcessInputWriter}

theorem Same.completed (same : Same self later) : later.completed = self.completed := by
  rw [ProcessInputWriter.completed, same.results, ProcessInputWriter.completed]

theorem Same.isOpen (same : Same self later) (isOpen : self.Open) : later.Open :=
  ⟨same.poisoned.trans isOpen.poisoned, same.sender.trans isOpen.sender, same.stopped.trans isOpen.stopped⟩

theorem Same.usable (same : Same self later) (usable : self.Usable) : later.Usable :=
  ⟨same.isOpen usable.isOpen, same.writing ▸ usable.rests, by rw [same.stdin, same.completed, usable.whole]⟩

theorem Same.torn (same : Same self later) {tail : List UInt8} (torn : self.Torn tail) : later.Torn tail := by
  rw [Torn, same.poisoned, same.results]
  exact torn

theorem Same.ending (same : Same self later) (torn : ∃ tail, self.stdin = self.completed ++ tail ∧ self.Torn tail) :
    ∃ tail, later.stdin = later.completed ++ tail ∧ later.Torn tail := by
  obtain ⟨tail, given, torn⟩ := torn
  exact ⟨tail, by rw [same.stdin, same.completed, given], same.torn torn⟩

theorem Same.spent (same : Same self later) (spent : self.Spent) : later.Spent :=
  ⟨same.sender.trans spent.sender, same.writing.trans spent.exited, same.ending spent.torn⟩

theorem Same.closing (same : Same self later) (closing : self.Closing) : later.Closing :=
  ⟨same.stopped.trans closing.stopped, same.writing ▸ closing.rests, same.ending closing.torn⟩

theorem Same.delivered (same : Same self later) (delivered : self.Delivered request) : later.Delivered request := by
  obtain ⟨isOpen, sent, given, carried⟩ := delivered
  refine ⟨same.isOpen isOpen, sent, by rw [same.stdin, same.completed, given], ?_⟩
  rw [same.writing, same.answer]
  exact carried

theorem Same.failing (same : Same self later) (failing : self.Failing request) : later.Failing request := by
  obtain ⟨sent, given, left⟩ := failing
  refine ⟨sent, by rw [same.stdin, same.completed, given], ?_⟩
  rw [same.writing]
  exact left

/-- The clock and the tokens do not matter to what holds. -/
theorem Same.sound (same : Same self later) (called : later.calling = self.calling) (sound : self.Sound) : later.Sound := by
  unfold Sound at sound ⊢
  rw [called]
  cases call : self.calling with
  | idle | entering =>
    simp only [call] at sound
    exact sound.imp same.usable same.spent
  | starting | startingClock | offering | offeringClock | sending | returned =>
    simp only [call] at sound
    exact same.usable sound
  | awaiting | receiving | expiring =>
    simp only [call] at sound
    exact same.delivered sound
  | stopping failed =>
    cases failed with
    | none =>
      simp only [call] at sound
      exact sound.imp same.usable same.spent
    | some failed =>
      simp only [call] at sound
      exact same.failing sound
  | dropping failed =>
    cases failed with
    | none =>
      simp only [call] at sound
      exact same.closing sound
    | some failed =>
      simp only [call] at sound
      exact ⟨same.failing sound.1, same.stopped.trans sound.2.1, same.poisoned.trans sound.2.2⟩
  | joining failed =>
    cases failed with
    | none =>
      simp only [call] at sound
      exact ⟨same.closing sound.1, same.sender.trans sound.2⟩
    | some failed =>
      simp only [call] at sound
      exact ⟨same.failing sound.1, same.stopped.trans sound.2.1, same.poisoned.trans sound.2.2.1,
        same.sender.trans sound.2.2.2⟩

/-- A call that is refused leaves the writer as it was. -/
theorem Usable.refused (usable : self.Usable) (request : WriteRequest) (error : InputError) :
    (self.finish request (.error error)).Usable := by
  refine ⟨⟨usable.isOpen.poisoned, usable.isOpen.sender, usable.isOpen.stopped⟩, usable.rests, ?_⟩
  rw [completed_finish]
  exact usable.whole.trans (List.append_nil _).symm

theorem Spent.refused (spent : self.Spent) (request : WriteRequest) (error : InputError) :
    (self.finish request (.error error)).Spent := by
  obtain ⟨tail, given, usable, torn⟩ := spent.torn
  refine ⟨spent.sender, spent.exited, tail, ?_, usable, torn.imp_right ?_⟩
  · rw [completed_finish]
    exact given.trans (by simp)
  · rintro ⟨earlier, failure, known, part⟩
    exact ⟨earlier, failure, List.mem_append_left _ known, part⟩

/-- A frame whose worker answers that it has been written. -/
theorem Delivered.accepted (delivered : self.Delivered request) (answered : self.answer = some (.ok ())) :
    ({ self with answer := none }.finish request (.ok ())).Usable := by
  obtain ⟨isOpen, sent, given, carried⟩ := delivered
  obtain ⟨rests, whole⟩ : resting self.writing ∧ sent = request.frame := by
    cases writing : self.writing with
    | checking | clock | writing =>
      simp only [writing, Carried] at carried
      cases carried.2.2.2.symm.trans answered
    | ending =>
      simp only [writing, Carried] at carried
      cases carried.2.2.symm.trans answered
    | answering =>
      simp only [writing, Carried] at carried
      cases carried.1.symm.trans answered
    | answered terminal =>
      simp only [writing, Carried] at carried
      obtain ⟨result, known, ends, _, whole⟩ := carried
      obtain rfl : result = .ok () := Option.some.inj (known.symm.trans answered)
      exact ⟨.inr (by rw [ends]; rfl), whole rfl⟩
    | receiving =>
      simp only [writing, Carried] at carried
      exact ⟨.inl rfl, carried.2⟩
    | exited =>
      simp only [writing, Carried] at carried
      obtain ⟨error, known, _⟩ := carried
      cases known.symm.trans answered
  refine ⟨⟨isOpen.poisoned, isOpen.sender, isOpen.stopped⟩, rests, ?_⟩
  rw [completed_finish]
  exact given.trans (congrArg _ whole)

theorem Delivered.failing (delivered : self.Delivered request) : self.Failing request := by
  obtain ⟨_, sent, given, carried⟩ := delivered
  exact ⟨sent, given, carried.left⟩

/-- After a failed write the worker has exited, with a part of the frame in the pipe. -/
theorem Failing.spent (failing : self.Failing request) (poisoned : self.poisoned = true) (sender : self.sender = false)
    (exited : self.writing = .exited) (error : InputError) : (self.finish request (.error error)).Spent := by
  obtain ⟨sent, given, left⟩ := failing
  refine ⟨sender, exited, sent, ?_, ?_, .inr ⟨request, error, ?_, left.part⟩⟩
  · rw [completed_finish]
    exact given.trans (by simp)
  · intro unpoisoned
    cases poisoned.symm.trans unpoisoned
  · exact List.mem_append_right _ (List.mem_singleton_self _)

theorem call_sound (sound : self.Sound) : self.call.Sound := by
  have here : ∀ calling, Same self { self with calling := calling } := fun _ => ⟨rfl, rfl, rfl, rfl, rfl, rfl, rfl⟩
  unfold Sound at sound
  cases called : self.calling with
  | idle =>
    simp only [called] at sound
    simpa only [call, called, Sound] using sound
  | entering request =>
    simp only [called] at sound
    simp only [call, called]
    split
    · rename_i closed
      obtain usable | spent := sound
      · simp [usable.isOpen.poisoned, usable.isOpen.sender] at closed
      · exact .inr (spent.refused request .brokenPipe)
    · rename_i isOpen
      obtain usable | spent := sound
      · split
        · exact .inl (usable.refused request .invalidInput)
        · exact (here _).usable usable
      · simp [spent.sender] at isOpen
  | starting request | startingClock request | offering request | offeringClock request | returned request =>
    simp only [called] at sound
    simp only [call, called]
    split
    · exact (here _).failing (sound.failing request)
    · exact (here _).usable sound
  | sending request =>
    simp only [called] at sound
    simp only [call, called]
    -- the worker takes the frame with nothing of it written yet
    split
    · exact ⟨⟨sound.isOpen.poisoned, sound.isOpen.sender, sound.isOpen.stopped⟩, [],
        sound.whole.trans (List.append_nil _).symm, rfl, Nat.zero_le _, rfl, rfl⟩
    · exact (here _).failing (sound.failing request)
    · exact (here _).usable sound
  | awaiting request =>
    simp only [called] at sound
    simp only [call, called]
    split
    · exact (here _).failing sound.failing
    · exact (here _).delivered sound
  | receiving request =>
    simp only [called] at sound
    simp only [call, called]
    split
    · rename_i answered
      exact .inl (sound.accepted answered)
    · obtain ⟨sent, given, left⟩ := sound.failing
      exact ⟨sent, given, left⟩
    · split
      · exact (here _).failing sound.failing
      · exact (here _).delivered sound
  | expiring request =>
    simp only [called] at sound
    simp only [call, called]
    split
    · exact (here _).delivered sound
    · exact (here _).failing sound.failing
  | stopping failed =>
    cases failed with
    | none =>
      simp only [called] at sound
      simp only [call, called, Option.isSome_none, Bool.or_false]
      obtain usable | spent := sound
      -- a writer that is closed between two writes has torn no frame
      · refine ⟨rfl, usable.rests.imp id .inl, [], usable.whole.trans (List.append_nil _).symm, fun _ => rfl, .inl rfl⟩
      · exact ⟨rfl, .inr (.inr spent.exited), spent.torn⟩
    | some failed =>
      simp only [called] at sound
      simp only [call, called, Option.isSome_some, Bool.or_true]
      exact ⟨sound, rfl, rfl⟩
  | dropping failed =>
    cases failed with
    | none =>
      simp only [called] at sound
      simp only [call, called]
      exact ⟨⟨sound.stopped, sound.rests, sound.torn⟩, rfl⟩
    | some failed =>
      simp only [called] at sound
      simp only [call, called]
      exact ⟨sound.1, sound.2.1, sound.2.2, rfl⟩
  | joining failed =>
    cases failed with
    | none =>
      simp only [called] at sound
      cases exited : self.writing with
      | exited =>
        simp only [call, called, exited]
        exact .inr ⟨sound.2, rfl, sound.1.torn⟩
      | _ => simpa only [call, called, exited, Sound] using sound
    | some failed =>
      simp only [called] at sound
      cases exited : self.writing with
      | exited =>
        simp only [call, called, exited]
        exact .inr (sound.1.spent sound.2.2.1 sound.2.2.2 exited failed.2)
      | _ => simpa only [call, called, exited, Sound] using sound

variable (reply : WriteReply)

/-- The worker writes to the pipe, and to nothing else that the owner reads but the answer. -/
theorem work_frame (self : ProcessInputWriter) : (self.work reply).calling = self.calling ∧ (self.work reply).poisoned = self.poisoned ∧
    (self.work reply).sender = self.sender ∧ (self.work reply).stopped = self.stopped ∧
    (self.work reply).results = self.results := by
  unfold work
  split
  all_goals repeat' split
  all_goals exact ⟨rfl, rfl, rfl, rfl, rfl⟩

theorem work_completed : (self.work reply).completed = self.completed := by
  obtain ⟨_, _, _, _, results⟩ := self.work_frame reply
  rw [completed, results, completed]

theorem work_open (isOpen : self.Open) : (self.work reply).Open := by
  obtain ⟨_, poisoned, sender, stopped, _⟩ := self.work_frame reply
  exact ⟨poisoned.trans isOpen.poisoned, sender.trans isOpen.sender, stopped.trans isOpen.stopped⟩

theorem Usable.work (usable : self.Usable) : (self.work reply).Usable := by
  obtain rests | rests := usable.rests
  · have same : self.work reply = self := by simp [ProcessInputWriter.work, rests, usable.isOpen.sender]
    rw [same]
    exact usable
  · have waiting : self.work reply = { self with writing := .receiving } := by
      simp [ProcessInputWriter.work, rests, usable.isOpen.stopped]
    rw [waiting]
    exact ⟨⟨usable.isOpen.poisoned, usable.isOpen.sender, usable.isOpen.stopped⟩, .inl rfl, usable.whole⟩

/-- A worker that has exited makes no further step. -/
theorem work_exited (exited : self.writing = .exited) : self.work reply = self := by
  simp [work, exited]

theorem Closing.work (closing : self.Closing) : (self.work reply).Closing := by
  obtain rests | rests | rests := closing.rests
  · cases sender : self.sender with
    | true =>
      have same : self.work reply = self := by simp [ProcessInputWriter.work, rests, sender]
      rw [same]
      exact closing
    | false =>
      have exits : self.work reply = { self with writing := .exited } := by
        simp [ProcessInputWriter.work, rests, sender]
      rw [exits]
      exact ⟨closing.stopped, .inr (.inr rfl), closing.torn⟩
  · have exits : self.work reply = { self with writing := .exited } := by
      simp [ProcessInputWriter.work, rests, closing.stopped]
    rw [exits]
    exact ⟨closing.stopped, .inr (.inr rfl), closing.torn⟩
  · rw [work_exited reply rests]
    exact closing

/-- What the worker does with a frame that it holds. -/
theorem Delivered.work (delivered : self.Delivered request) : (self.work reply).Delivered request := by
  obtain ⟨isOpen, sent, given, carried⟩ := delivered
  refine ⟨work_open reply isOpen, ?_⟩
  rw [work_completed]
  cases writing : self.writing with
  | receiving =>
    simp only [ProcessInputWriter.work, writing, isOpen.sender, if_true]
    rw [writing] at carried
    exact ⟨sent, given, carried⟩
  | checking held offset =>
    rw [writing] at carried
    obtain ⟨rfl, within, taken, unanswered⟩ := carried
    simp only [ProcessInputWriter.work, writing, isOpen.stopped]
    split
    · rename_i whole
      refine ⟨sent, given, rfl, ?_, unanswered⟩
      rw [taken, List.take_of_length_le whole]
    · exact ⟨sent, given, rfl, within, taken, unanswered⟩
  | clock held offset =>
    rw [writing] at carried
    obtain ⟨rfl, within, taken, unanswered⟩ := carried
    simp only [ProcessInputWriter.work, writing]
    split
    · exact ⟨sent, given, unanswered, taken ▸ List.take_prefix _ _, by simp⟩
    · exact ⟨sent, given, rfl, within, taken, unanswered⟩
  | writing held offset =>
    rw [writing] at carried
    obtain ⟨rfl, within, taken, unanswered⟩ := carried
    simp only [ProcessInputWriter.work, writing]
    split
    · exact ⟨sent, given, unanswered, taken ▸ List.take_prefix _ _, by simp⟩
    · rename_i count _
      refine ⟨sent ++ (held.frame.drop offset).take count, ?_, rfl, ?_, ?_, unanswered⟩
      · simp only [given, List.append_assoc]
      · simp only [List.length_take, List.length_drop]
        omega
      · rw [taken, take_append_taken]
    · exact ⟨sent, given, rfl, within, taken, unanswered⟩
    · exact ⟨sent, given, rfl, within, taken, unanswered⟩
    · exact ⟨sent, given, unanswered, taken ▸ List.take_prefix _ _, by simp⟩
  | ending held =>
    rw [writing] at carried
    obtain ⟨rfl, whole, unanswered⟩ := carried
    simp only [ProcessInputWriter.work, writing]
    split
    · exact ⟨sent, given, unanswered, whole ▸ List.prefix_refl _, by simp⟩
    · exact ⟨sent, given, unanswered, whole ▸ List.prefix_refl _, fun _ => whole⟩
  | answering result =>
    rw [writing] at carried
    obtain ⟨_, part, whole⟩ := carried
    simp only [ProcessInputWriter.work, writing]
    exact ⟨sent, given, result, rfl, rfl, part, whole⟩
  | answered terminal =>
    rw [writing] at carried
    obtain ⟨result, known, ends, part, whole⟩ := carried
    simp only [ProcessInputWriter.work, writing, isOpen.stopped, Bool.or_false]
    cases result with
    | ok value =>
      rw [if_neg (by simp [ends])]
      exact ⟨sent, given, known, whole rfl⟩
    | error error =>
      rw [if_pos (by simp [ends])]
      exact ⟨sent, given, error, known, part⟩
  | exited =>
    rw [writing] at carried
    simp only [ProcessInputWriter.work, writing]
    exact ⟨sent, given, carried⟩

theorem Failing.work (failing : self.Failing request) : (self.work reply).Failing request := by
  obtain ⟨sent, given, left⟩ := failing
  unfold Failing
  rw [work_completed]
  cases writing : self.writing with
  | receiving =>
    rw [writing] at left
    simp only [ProcessInputWriter.work, writing]
    split
    · exact ⟨sent, given, by rwa [writing]⟩
    · exact ⟨sent, given, left⟩
  | checking held offset =>
    rw [writing] at left
    obtain ⟨rfl, within, taken⟩ := left
    simp only [ProcessInputWriter.work, writing]
    split
    · rename_i whole
      refine ⟨sent, given, rfl, ?_⟩
      rw [taken, List.take_of_length_le whole]
    · split
      · exact ⟨sent, given, taken ▸ List.take_prefix _ _⟩
      · exact ⟨sent, given, rfl, within, taken⟩
  | clock held offset =>
    rw [writing] at left
    obtain ⟨rfl, within, taken⟩ := left
    simp only [ProcessInputWriter.work, writing]
    split
    · exact ⟨sent, given, taken ▸ List.take_prefix _ _⟩
    · exact ⟨sent, given, rfl, within, taken⟩
  | writing held offset =>
    rw [writing] at left
    obtain ⟨rfl, within, taken⟩ := left
    simp only [ProcessInputWriter.work, writing]
    split
    · exact ⟨sent, given, taken ▸ List.take_prefix _ _⟩
    · rename_i count _
      refine ⟨sent ++ (held.frame.drop offset).take count, ?_, rfl, ?_, ?_⟩
      · simp only [given, List.append_assoc]
      · simp only [List.length_take, List.length_drop]
        omega
      · rw [taken, take_append_taken]
    · exact ⟨sent, given, rfl, within, taken⟩
    · exact ⟨sent, given, rfl, within, taken⟩
    · exact ⟨sent, given, taken ▸ List.take_prefix _ _⟩
  | ending held =>
    rw [writing] at left
    obtain ⟨rfl, whole⟩ := left
    simp only [ProcessInputWriter.work, writing]
    split
    all_goals exact ⟨sent, given, whole ▸ List.prefix_refl _⟩
  | answering result =>
    rw [writing] at left
    simp only [ProcessInputWriter.work, writing]
    exact ⟨sent, given, left⟩
  | answered terminal =>
    rw [writing] at left
    simp only [ProcessInputWriter.work, writing]
    split
    all_goals exact ⟨sent, given, left⟩
  | exited =>
    rw [writing] at left
    simp only [ProcessInputWriter.work, writing]
    exact ⟨sent, given, left⟩

theorem work_sound (sound : self.Sound) : (self.work reply).Sound := by
  obtain ⟨calling, poisoned, sender, stopped, _⟩ := self.work_frame reply
  have spent : self.Spent → (self.work reply).Spent := fun spent => (work_exited reply spent.exited).symm ▸ spent
  unfold Sound at sound ⊢
  rw [calling]
  cases called : self.calling with
  | idle | entering =>
    simp only [called] at sound
    exact sound.imp (Usable.work reply) spent
  | starting | startingClock | offering | offeringClock | sending | returned =>
    simp only [called] at sound
    exact sound.work reply
  | awaiting | receiving | expiring =>
    simp only [called] at sound
    exact sound.work reply
  | stopping failed =>
    cases failed with
    | none =>
      simp only [called] at sound
      exact sound.imp (Usable.work reply) spent
    | some failed =>
      simp only [called] at sound
      exact sound.work reply
  | dropping failed =>
    cases failed with
    | none =>
      simp only [called] at sound
      exact sound.work reply
    | some failed =>
      simp only [called] at sound
      exact ⟨sound.1.work reply, stopped.trans sound.2.1, poisoned.trans sound.2.2⟩
  | joining failed =>
    cases failed with
    | none =>
      simp only [called] at sound
      exact ⟨sound.1.work reply, sender.trans sound.2⟩
    | some failed =>
      simp only [called] at sound
      exact ⟨sound.1.work reply, stopped.trans sound.2.1, poisoned.trans sound.2.2.1, sender.trans sound.2.2.2⟩

theorem next_sound (action : InputAction) (sound : self.Sound) : (self.next action).Sound := by
  cases action with
  | tick =>
    have same : Same self (self.next .tick) := ⟨rfl, rfl, rfl, rfl, rfl, rfl, rfl⟩
    exact same.sound rfl sound
  | cancel token =>
    have same : Same self (self.next (.cancel token)) := ⟨rfl, rfl, rfl, rfl, rfl, rfl, rfl⟩
    exact same.sound rfl sound
  | write request =>
    simp only [next]
    split
    · rename_i idle
      have same : Same self { self with calling := .entering request } := ⟨rfl, rfl, rfl, rfl, rfl, rfl, rfl⟩
      simp only [Sound, idle] at sound ⊢
      exact sound.imp same.usable same.spent
    · exact sound
  | close =>
    simp only [next]
    split
    · rename_i idle
      have same : Same self { self with calling := .stopping none } := ⟨rfl, rfl, rfl, rfl, rfl, rfl, rfl⟩
      simp only [Sound, idle] at sound ⊢
      exact sound.imp same.usable same.spent
    · exact sound
  | caller => exact call_sound sound
  | worker reply => exact work_sound reply sound

theorem run_sound (actions : List InputAction) : (Machine.run next spawn actions).Sound := by
  refine Machine.run_preserves (fun _ action sound => next_sound action sound) ?_ actions
  exact .inl ⟨⟨rfl, rfl, rfl⟩, .inl rfl, rfl⟩

end ProcessInputWriter

/-- The frame a call is about. -/
def Calling.request : Calling → Option WriteRequest
  | .idle => none
  | .entering request | .starting request | .startingClock request | .offering request | .offeringClock request
  | .sending request | .returned request | .awaiting request | .receiving request | .expiring request => some request
  | .stopping failed | .dropping failed | .joining failed => failed.map Prod.fst

namespace ProcessInputWriter

variable {self : ProcessInputWriter}

/-- A part of a frame whose write is under way, or has failed. -/
def Broken (self : ProcessInputWriter) (tail : List UInt8) : Prop :=
  tail = [] ∨ ∃ request, tail <+: request.frame ∧
    (self.calling.request = some request ∨ ∃ error, (request, .error error) ∈ self.results)

/-- Whole frames, and then a broken one at most. -/
def Framed (self : ProcessInputWriter) : Prop :=
  ∃ tail, self.stdin = self.completed ++ tail ∧ self.Broken tail ∧
    (self.calling = .idle → self.poisoned = false → tail = [])

theorem Torn.broken {tail : List UInt8} (torn : self.Torn tail) : self.Broken tail :=
  torn.2.imp_right fun ⟨request, error, known, part⟩ => ⟨request, part, .inr ⟨error, known⟩⟩

theorem Usable.framed (usable : self.Usable) : self.Framed :=
  ⟨[], usable.whole.trans (List.append_nil _).symm, .inl rfl, fun _ _ => rfl⟩

theorem Torn.framed (torn : ∃ tail, self.stdin = self.completed ++ tail ∧ self.Torn tail) : self.Framed := by
  obtain ⟨tail, given, torn⟩ := torn
  exact ⟨tail, given, torn.broken, fun _ => torn.1⟩

theorem Failing.framed {request : WriteRequest} (failing : self.Failing request)
    (called : self.calling.request = some request) : self.Framed := by
  obtain ⟨sent, given, left⟩ := failing
  refine ⟨sent, given, .inr ⟨request, left.part, .inl called⟩, fun idle => ?_⟩
  rw [idle] at called
  cases called

theorem Sound.framed (sound : self.Sound) : self.Framed := by
  unfold Sound at sound
  cases called : self.calling with
  | idle | entering =>
    simp only [called] at sound
    exact sound.elim Usable.framed fun spent => Torn.framed spent.torn
  | starting | startingClock | offering | offeringClock | sending | returned =>
    simp only [called] at sound
    exact sound.framed
  | awaiting request | receiving request | expiring request =>
    simp only [called] at sound
    exact sound.failing.framed (by rw [called]; rfl)
  | stopping failed =>
    cases failed with
    | none =>
      simp only [called] at sound
      exact sound.elim Usable.framed fun spent => Torn.framed spent.torn
    | some failed =>
      simp only [called] at sound
      exact Failing.framed sound (by rw [called]; rfl)
  | dropping failed =>
    cases failed with
    | none =>
      simp only [called] at sound
      exact Torn.framed sound.torn
    | some failed =>
      simp only [called] at sound
      exact sound.1.framed (by rw [called]; rfl)
  | joining failed =>
    cases failed with
    | none =>
      simp only [called] at sound
      exact Torn.framed sound.1.torn
    | some failed =>
      simp only [called] at sound
      exact sound.1.framed (by rw [called]; rfl)

/-- In whatever order the caller, the worker, the clock and the cancellations step, the child has been given the
frames whose writes returned without an error, whole and in order, and then at most a part of one frame whose write is
under way or has failed. Between two calls of a writer that is not poisoned there is no such part. -/
theorem stdin_framed (actions : List InputAction) :
    ∃ tail, (Machine.run next spawn actions).stdin = (Machine.run next spawn actions).completed ++ tail ∧
      (tail = [] ∨ ∃ request, tail <+: request.frame ∧
        ((Machine.run next spawn actions).calling.request = some request ∨
          ∃ error, (request, .error error) ∈ (Machine.run next spawn actions).results)) ∧
      ((Machine.run next spawn actions).calling = .idle → (Machine.run next spawn actions).poisoned = false →
        tail = []) :=
  (run_sound actions).framed

/-- The writer is of no more use: its worker has exited, and no call can reach another. -/
structure Final (writer : ProcessInputWriter) : Prop where
  sender : writer.sender = false
  exited : writer.writing = .exited
  calling : writer.calling = .idle ∨ (∃ request, writer.calling = .entering request) ∨ writer.calling = .stopping none ∨
    writer.calling = .dropping none ∨ writer.calling = .joining none

/-- What a call of such a writer leaves to the child, and what it answers. -/
structure Refuses (before after : ProcessInputWriter) : Prop where
  stdin : after.stdin = before.stdin
  results : ∃ later, after.results = before.results ++ later ∧ ∀ result ∈ later, result.2 = .error .brokenPipe

theorem Refuses.refl (writer : ProcessInputWriter) : Refuses writer writer :=
  ⟨rfl, [], (List.append_nil _).symm, by simp⟩

theorem Refuses.trans {first second third : ProcessInputWriter} (one : Refuses first second)
    (two : Refuses second third) : Refuses first third := by
  obtain ⟨later, known, refused⟩ := one.results
  obtain ⟨further, more, also⟩ := two.results
  refine ⟨two.stdin.trans one.stdin, later ++ further, by rw [more, known, List.append_assoc], ?_⟩
  intro result member
  obtain member | member := List.mem_append.mp member
  · exact refused result member
  · exact also result member

theorem Final.call (final : self.Final) : self.call.Final ∧ Refuses self self.call := by
  obtain idle | ⟨request, entering⟩ | stopping | dropping | joining := final.calling
  · have same : self.call = self := by simp [ProcessInputWriter.call, idle]
    rw [same]
    exact ⟨final, .refl self⟩
  · have refused : self.call = self.finish request (.error .brokenPipe) := by
      simp [ProcessInputWriter.call, entering, final.sender]
    rw [refused]
    exact ⟨⟨final.sender, final.exited, .inl rfl⟩, rfl, [(request, .error .brokenPipe)], rfl, by simp⟩
  · simp only [ProcessInputWriter.call, stopping]
    exact ⟨⟨final.sender, final.exited, .inr (.inr (.inr (.inl rfl)))⟩, rfl, [], (List.append_nil _).symm, by simp⟩
  · simp only [ProcessInputWriter.call, dropping]
    exact ⟨⟨rfl, final.exited, .inr (.inr (.inr (.inr rfl)))⟩, rfl, [], (List.append_nil _).symm, by simp⟩
  · simp only [ProcessInputWriter.call, joining, final.exited]
    exact ⟨⟨final.sender, rfl, .inl rfl⟩, rfl, [], (List.append_nil _).symm, by simp⟩

theorem Final.next (final : self.Final) (action : InputAction) : (self.next action).Final ∧ Refuses self (self.next action) := by
  have unchanged : ∀ {later : ProcessInputWriter}, later.results = self.results → ∃ more,
      later.results = self.results ++ more ∧ ∀ result ∈ more, result.2 = .error .brokenPipe :=
    fun same => ⟨[], same.trans (List.append_nil _).symm, by simp⟩
  cases action with
  | tick | cancel => exact ⟨⟨final.sender, final.exited, final.calling⟩, rfl, unchanged rfl⟩
  | write request =>
    simp only [ProcessInputWriter.next]
    split
    · exact ⟨⟨final.sender, final.exited, .inr (.inl ⟨request, rfl⟩)⟩, rfl, unchanged rfl⟩
    · exact ⟨final, .refl self⟩
  | close =>
    simp only [ProcessInputWriter.next]
    split
    · exact ⟨⟨final.sender, final.exited, .inr (.inr (.inl rfl))⟩, rfl, unchanged rfl⟩
    · exact ⟨final, .refl self⟩
  | caller => exact final.call
  | worker reply =>
    simp only [ProcessInputWriter.next, work_exited reply final.exited]
    exact ⟨final, .refl self⟩

/-- Only a frame that is too long is refused without making the writer useless. -/
def Reported (self : ProcessInputWriter) : Prop :=
  ∀ request error, (request, .error error) ∈ self.results → error ≠ .invalidInput → self.Final

theorem call_reported (sound : self.Sound) (reported : self.Reported) (pending : ¬self.Final) : self.call.Reported := by
  have unfailed : ∀ request error, (request, .error error) ∈ self.results → error = .invalidInput := by
    intro request error known
    by_contra real
    exact pending (reported request error known real)
  have kept : self.call.results = self.results → self.call.Reported := by
    intro same request error known real
    exact absurd (unfailed request error (same ▸ known)) real
  unfold Sound at sound
  cases called : self.calling with
  | entering request =>
    simp only [called] at sound
    obtain usable | spent := sound
    · simp only [call, called, usable.isOpen.poisoned, usable.isOpen.sender, Bool.not_true, Bool.or_false,
        Bool.false_eq_true, if_false]
      split
      · intro other error known real
        simp only [finish, List.mem_append, List.mem_singleton, Prod.mk.injEq, Except.error.injEq] at known
        obtain known | ⟨_, rfl⟩ := known
        · exact absurd (unfailed other error known) real
        · exact absurd rfl real
      · exact fun other error known real => absurd (unfailed other error known) real
    · exact absurd ⟨spent.sender, spent.exited, .inr (.inl ⟨request, called⟩)⟩ pending
  | receiving request =>
    simp only [call, called]
    split
    · intro other error known real
      simp only [finish, List.mem_append, List.mem_singleton, Prod.mk.injEq, reduceCtorEq, and_false, or_false] at known
      exact absurd (unfailed other error known) real
    · exact fun other error known real => absurd (unfailed other error known) real
    · split
      all_goals exact fun other error known real => absurd (unfailed other error known) real
  | joining failed =>
    cases exited : self.writing with
    | exited =>
      cases failed with
      | none =>
        simp only [call, called, exited]
        exact fun other error known real => absurd (unfailed other error known) real
      | some failed =>
        simp only [called] at sound
        simp only [call, called, exited]
        exact fun _ _ _ _ => ⟨sound.2.2.2, exited, .inl rfl⟩
    | _ =>
      apply kept
      simp only [call, called, exited]
  | idle | starting | startingClock | offering | offeringClock | sending | returned | awaiting | expiring | stopping
  | dropping =>
    apply kept
    simp only [call, called]
    repeat' split
    all_goals rfl

theorem next_reported (sound : self.Sound) (reported : self.Reported) (action : InputAction) :
    (self.next action).Reported := by
  by_cases final : self.Final
  · exact fun _ _ _ _ => (final.next action).1
  · have unfailed : ∀ request error, (request, .error error) ∈ self.results → error = .invalidInput := by
      intro request error known
      by_contra real
      exact final (reported request error known real)
    have kept : (self.next action).results = self.results → (self.next action).Reported := by
      intro same request error known real
      exact absurd (unfailed request error (same ▸ known)) real
    cases action with
    | tick | cancel => exact kept rfl
    | write request | close =>
      apply kept
      simp only [next]
      split
      all_goals rfl
    | caller => exact call_reported sound reported final
    | worker reply => exact kept (work_frame reply _).2.2.2.2

theorem run_reported (actions : List InputAction) : (Machine.run next spawn actions).Reported := by
  have step : ∀ (before : ProcessInputWriter) (action : InputAction), before.Sound ∧ before.Reported →
      (before.next action).Sound ∧ (before.next action).Reported :=
    fun _ action both => ⟨next_sound action both.1, next_reported both.1 both.2 action⟩
  have initial : spawn.Sound ∧ spawn.Reported :=
    ⟨run_sound [], fun _ _ known => by simp [spawn] at known⟩
  exact (Machine.run_preserves step initial actions).2

/-- Once a call has returned an error, other than that its frame was too long, nothing more reaches the child, and
every later call is refused. -/
theorem failure_is_final {actions : List InputAction} {request : WriteRequest} {error : InputError}
    (failed : (request, .error error) ∈ (Machine.run next spawn actions).results) (real : error ≠ .invalidInput)
    (more : List InputAction) :
    (Machine.run next spawn (actions ++ more)).stdin = (Machine.run next spawn actions).stdin ∧
      ∃ later, (Machine.run next spawn (actions ++ more)).results = (Machine.run next spawn actions).results ++ later ∧
        ∀ result ∈ later, result.2 = .error .brokenPipe := by
  have final := run_reported actions request error failed real
  rw [Machine.run_append]
  have refuses := Machine.run_relates Final Refuses .refl (fun _ _ _ => Refuses.trans)
    (fun _ action final => (final.next action).1) (fun _ action final => (final.next action).2) final more
  exact ⟨refuses.stdin, refuses.results⟩

/-- A frame of which the pipe takes two bytes before it fails. -/
def failingWrite : List InputAction :=
  [.write ⟨[1, 2, 3], 9, 0⟩] ++ List.replicate 6 .caller ++
    [.worker (.accepted 2), .worker (.accepted 2), .worker (.accepted 2), .worker .failed, .worker .failed,
      .worker .failed, .worker .failed, .worker .failed] ++
    List.replicate 5 .caller

theorem failure_is_final_failingWrite :
    (Machine.run next spawn (failingWrite ++ [.write ⟨[4], 9, 1⟩, .caller])).stdin =
        (Machine.run next spawn failingWrite).stdin ∧
      ∃ later, (Machine.run next spawn (failingWrite ++ [.write ⟨[4], 9, 1⟩, .caller])).results =
          (Machine.run next spawn failingWrite).results ++ later ∧
        ∀ result ∈ later, result.2 = .error .brokenPipe :=
  failure_is_final (show ((⟨[1, 2, 3], 9, 0⟩ : WriteRequest), (.error .other : InputResult)) ∈ _ by decide +kernel)
    (by decide) _

end ProcessInputWriter

end Bastet.Core
