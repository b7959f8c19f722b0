import Mathlib.Algebra.BigOperators.Group.Finset.Basic
import Mathlib.Algebra.Order.BigOperators.Group.Finset
import Mathlib.Tactic.Abel
import Bastet.Library.Machine

/-! The nonblocking handoff of a process's output, with its limits on items and on retained bytes.
Each load, store, exchange and channel operation of the source is one action, and producers, the receiver and
the drops of envelopes take their actions in any order. -/

set_option autoImplicit false

namespace Bastet.Core

def outputQueueBytes : Nat := 16 * 1024 * 1024
def outputQueueItems : Nat := 128

structure Envelope (T : Type) where
  value : T
  size : Nat
  deriving DecidableEq, Repr

inductive RecvTimeoutError where
  | timeout
  | disconnected
  deriving DecidableEq, Repr

/-- Where a producer's call of `send` stands. -/
inductive Sending (T : Type) where
  | idle
  | permitted (value : T) (wireBytes : Nat)
  | reserved (envelope : Envelope T)
  | refused (envelope : Envelope T)
  | failing
  deriving DecidableEq, Repr

/-- Where the receiver's call of `recv_timeout` stands. -/
inductive Receiving (T : Type) where
  | idle
  | waiting
  | taken (envelope : Envelope T)
  | leaving (envelope : Envelope T)
  | dropped
  deriving DecidableEq, Repr

/-- The shared channel, counter and flag and the calls under way, with what the calls so far have accepted,
released and answered. -/
structure OutputQueue (Producer T : Type) where
  channel : List (Envelope T)
  used : Nat
  failed : Bool
  senderLives : Bool
  sending : Producer → Sending T
  receiving : Receiving T
  accepted : List (Envelope T)
  released : List (Envelope T)
  verdicts : List (Producer × Bool)
  answers : List (Except RecvTimeoutError T)

/-- One action of a thread. -/
inductive QueueAction (Producer T : Type) where
  | send (producer : Producer) (value : T) (wireBytes : Nat)
  | advance (producer : Producer)
  | recv
  | deliver
  | timeout
  | check
  | release
  | dropSender
  | dropReceiver
  | discard

namespace Sending

variable {T : Type}

/-- The envelope a call holds outside the channel. -/
def envelope? : Sending T → Option (Envelope T)
  | .reserved envelope | .refused envelope => some envelope
  | .idle | .permitted _ _ | .failing => none

def isIdle : Sending T → Bool
  | .idle => true
  | _ => false

end Sending

namespace Receiving

variable {T : Type}

def envelope? : Receiving T → Option (Envelope T)
  | .taken envelope | .leaving envelope => some envelope
  | .idle | .waiting | .dropped => none

def isDropped : Receiving T → Bool
  | .dropped => true
  | .idle | .waiting | .taken _ | .leaving _ => false

/-- No call is under way. -/
def isBetween : Receiving T → Bool
  | .idle | .dropped => true
  | .waiting | .taken _ | .leaving _ => false

/-- The item taken from the channel on which the flag has still to be checked. -/
def unchecked : Receiving T → List (Envelope T)
  | .taken envelope => [envelope]
  | .idle | .waiting | .leaving _ | .dropped => []

end Receiving

/-- `used.fetch_sub(self.size)` on a `usize`. -/
def fetchSub (used size : Nat) : Nat :=
  (used + 2 ^ 64 - size) % 2 ^ 64

/-- `used.checked_add(wire_bytes).filter(|total| *total <= OUTPUT_QUEUE_BYTES)`. -/
def reserve (used wireBytes : Nat) : Option Nat :=
  if used + wireBytes < 2 ^ 64 ∧ used + wireBytes ≤ outputQueueBytes then some (used + wireBytes) else none

namespace OutputQueue

variable {Producer T : Type} [DecidableEq Producer]

def outputQueue : OutputQueue Producer T :=
  ⟨[], 0, false, true, fun _ => .idle, .idle, [], [], [], []⟩

def move (queue : OutputQueue Producer T) (producer : Producer) (stage : Sending T) : OutputQueue Producer T :=
  { queue with sending := Function.update queue.sending producer stage }

/-- A call begins with a load of the flag. -/
def send (queue : OutputQueue Producer T) (producer : Producer) (value : T) (wireBytes : Nat) :
    OutputQueue Producer T :=
  if queue.failed then { queue with verdicts := queue.verdicts ++ [(producer, false)] }
  else queue.move producer (.permitted value wireBytes)

/-- The channel takes what it has room for while its receiver lives. -/
def trySend (queue : OutputQueue Producer T) (producer : Producer) (envelope : Envelope T) :
    OutputQueue Producer T :=
  if queue.receiving.isDropped = false ∧ queue.channel.length < outputQueueItems then
    { queue.move producer .idle with
      channel := queue.channel ++ [envelope]
      accepted := queue.accepted ++ [envelope]
      verdicts := queue.verdicts ++ [(producer, true)] }
  else queue.move producer (.refused envelope)

/-- The next operation of a call of `send` on what is shared. -/
def advance (queue : OutputQueue Producer T) (producer : Producer) : OutputQueue Producer T :=
  match queue.sending producer with
  | .idle => queue
  | .permitted value wireBytes =>
    match reserve queue.used wireBytes with
    | some total => { queue.move producer (.reserved ⟨value, wireBytes⟩) with used := total }
    | none => queue.move producer .failing
  | .reserved envelope => queue.trySend producer envelope
  -- the envelope the channel gives back is dropped before the flag is set
  | .refused envelope => { queue.move producer .failing with used := fetchSub queue.used envelope.size }
  | .failing =>
    { queue.move producer .idle with failed := true, verdicts := queue.verdicts ++ [(producer, false)] }

def answer (queue : OutputQueue Producer T) (stage : Receiving T) (result : Except RecvTimeoutError T) :
    OutputQueue Producer T :=
  { queue with receiving := stage, answers := queue.answers ++ [result] }

/-- A call begins with a load of the flag. -/
def recv (queue : OutputQueue Producer T) : OutputQueue Producer T :=
  if queue.failed then queue.answer .idle (.error .disconnected) else { queue with receiving := .waiting }

/-- The channel hands over its first item, or says that no more will come. -/
def deliver (queue : OutputQueue Producer T) : OutputQueue Producer T :=
  match queue.channel with
  | envelope :: rest => { queue with channel := rest, receiving := .taken envelope }
  | [] => if queue.senderLives then queue else queue.answer .idle (.error .disconnected)

/-- The second load of the flag decides whether the item is received. -/
def check (queue : OutputQueue Producer T) (envelope : Envelope T) : OutputQueue Producer T :=
  queue.answer (.leaving envelope) (if queue.failed then .error .disconnected else .ok envelope.value)

def release (queue : OutputQueue Producer T) (envelope : Envelope T) : OutputQueue Producer T :=
  { queue with
    receiving := .idle
    used := fetchSub queue.used envelope.size
    released := queue.released ++ [envelope] }

/-- The channel of a dropped receiver drops its items one after another. -/
def discard (queue : OutputQueue Producer T) : OutputQueue Producer T :=
  match queue.channel with
  | envelope :: rest =>
    { queue with
      channel := rest
      used := fetchSub queue.used envelope.size
      released := queue.released ++ [envelope] }
  | [] => queue

variable [Fintype Producer]

/-- One action; one that its thread cannot take now changes nothing. -/
def next (queue : OutputQueue Producer T) : QueueAction Producer T → OutputQueue Producer T
  | .send producer value wireBytes =>
    if queue.senderLives ∧ (queue.sending producer).isIdle then queue.send producer value wireBytes else queue
  | .advance producer => queue.advance producer
  | .dropSender =>
    if ∀ producer, (queue.sending producer).isIdle then { queue with senderLives := false } else queue
  | .recv => match queue.receiving with
    | .idle => queue.recv
    | .waiting | .taken _ | .leaving _ | .dropped => queue
  | .deliver => match queue.receiving with
    | .waiting => queue.deliver
    | .idle | .taken _ | .leaving _ | .dropped => queue
  | .timeout => match queue.receiving with
    | .waiting => queue.answer .idle (.error .timeout)
    | .idle | .taken _ | .leaving _ | .dropped => queue
  | .check => match queue.receiving with
    | .taken envelope => queue.check envelope
    | .idle | .waiting | .leaving _ | .dropped => queue
  | .release => match queue.receiving with
    | .leaving envelope => queue.release envelope
    | .idle | .waiting | .taken _ | .dropped => queue
  | .dropReceiver => match queue.receiving with
    | .idle => { queue with receiving := .dropped }
    | .waiting | .taken _ | .leaving _ | .dropped => queue
  | .discard => match queue.receiving with
    | .dropped => queue.discard
    | .idle | .waiting | .taken _ | .leaving _ => queue

/-- The items the receiver was given. -/
def received (queue : OutputQueue Producer T) : List T :=
  queue.answers.filterMap Except.toOption

/-- The accepted items whose envelopes still exist. -/
def unreleased (queue : OutputQueue Producer T) : Multiset (Envelope T) :=
  ↑(queue.channel ++ queue.receiving.envelope?.toList)

/-- The envelopes of calls of `send` that have reserved their bytes and are not answered. -/
def underway (queue : OutputQueue Producer T) : Multiset (Envelope T) :=
  ∑ producer, ↑(queue.sending producer).envelope?.toList

end OutputQueue

/-- The bytes that are accounted for envelopes. -/
def retainedBytes {T : Type} (envelopes : Multiset (Envelope T)) : Nat :=
  (envelopes.map Envelope.size).sum

section Bytes

variable {T : Type}

@[simp] theorem retainedBytes_zero : retainedBytes (0 : Multiset (Envelope T)) = 0 := rfl

@[simp] theorem retainedBytes_add (first second : Multiset (Envelope T)) :
    retainedBytes (first + second) = retainedBytes first + retainedBytes second := by
  simp [retainedBytes]

@[simp] theorem retainedBytes_singleton (envelope : Envelope T) :
    retainedBytes (↑[envelope] : Multiset (Envelope T)) = envelope.size := by
  simp [retainedBytes]

theorem fetchSub_of_le {used size : Nat} (covered : size ≤ used) (bounded : used ≤ outputQueueBytes) :
    fetchSub used size = used - size := by
  unfold fetchSub outputQueueBytes at *
  omega

theorem reserve_some {used wireBytes total : Nat} (granted : reserve used wireBytes = some total) :
    total = used + wireBytes ∧ total ≤ outputQueueBytes := by
  unfold reserve at granted
  split at granted
  next fits => cases granted; exact ⟨rfl, fits.2⟩
  next => cases granted

end Bytes

namespace OutputQueue

variable {Producer T : Type} [Fintype Producer]

/-- The counter is exact and bounded, every accepted item is released or still exists, and as long as the
queue works nothing is lost between what was accepted and what was received. -/
structure Sound (queue : OutputQueue Producer T) : Prop where
  accounted : queue.used = retainedBytes (queue.unreleased + queue.underway)
  bounded : queue.used ≤ outputQueueBytes
  kept : (↑queue.accepted : Multiset (Envelope T)) = ↑queue.released + queue.unreleased
  inOrder : queue.received <+: queue.accepted.map Envelope.value
  gapless : queue.failed = false → queue.receiving.isDropped = false →
    queue.accepted.map Envelope.value =
      queue.received ++ (queue.receiving.unchecked ++ queue.channel).map Envelope.value

section Moves

variable [DecidableEq Producer] {queue : OutputQueue Producer T} {producer : Producer} {stage : Sending T}

@[simp] theorem underway_move :
    (queue.move producer stage).underway + ↑(queue.sending producer).envelope?.toList =
      queue.underway + ↑stage.envelope?.toList := by
  unfold underway move
  rw [← Finset.add_sum_erase _ _ (Finset.mem_univ producer), ← Finset.add_sum_erase _ _ (Finset.mem_univ producer)]
  have others : ∀ other ∈ Finset.univ.erase producer,
      (↑(Function.update queue.sending producer stage other).envelope?.toList : Multiset (Envelope T)) =
        ↑(queue.sending other).envelope?.toList := by
    intro other member
    rw [Function.update_of_ne (Finset.ne_of_mem_erase member)]
  dsimp only
  rw [Finset.sum_congr rfl others, Function.update_self]
  abel

/-- A call that moves on outside of the channel. -/
theorem Sound.move (sound : queue.Sound)
    (same : stage.envelope? = (queue.sending producer).envelope?) : (queue.move producer stage).Sound where
  accounted := by
    have moved := @underway_move Producer T _ _ queue producer stage
    rw [same, add_left_inj] at moved
    rw [moved]
    exact sound.accounted
  bounded := sound.bounded
  kept := sound.kept
  inOrder := sound.inOrder
  gapless := sound.gapless

/-- The counter covers each envelope a call holds. -/
theorem Sound.covers_underway (sound : queue.Sound) {envelope : Envelope T}
    (held : (queue.sending producer).envelope? = some envelope) (without : stage.envelope? = none) :
    retainedBytes (queue.move producer stage).underway + envelope.size = retainedBytes queue.underway ∧
      envelope.size ≤ queue.used := by
  have moved := congrArg retainedBytes (@underway_move Producer T _ _ queue producer stage)
  have accounted := sound.accounted
  rw [held, without] at moved
  simp only [retainedBytes_add, Option.toList_some, retainedBytes_singleton, Option.toList_none,
    Multiset.coe_nil, retainedBytes_zero] at moved accounted
  omega

theorem Sound.reserve (sound : queue.Sound) {value : T} {wireBytes total : Nat}
    (stands : queue.sending producer = .permitted value wireBytes)
    (granted : reserve queue.used wireBytes = some total) :
    ({ queue.move producer (.reserved ⟨value, wireBytes⟩) with used := total } : OutputQueue Producer T).Sound where
  accounted := by
    have moved := congrArg retainedBytes (@underway_move Producer T _ _ queue producer (.reserved ⟨value, wireBytes⟩))
    have accounted := sound.accounted
    rw [stands] at moved
    simp only [retainedBytes_add, Option.toList_some, retainedBytes_singleton, Sending.envelope?, Option.toList_none,
      Multiset.coe_nil, retainedBytes_zero] at moved accounted ⊢
    change total = retainedBytes queue.unreleased +
      retainedBytes (queue.move producer (.reserved ⟨value, wireBytes⟩)).underway
    have := (reserve_some granted).1
    omega
  bounded := (reserve_some granted).2
  kept := sound.kept
  inOrder := sound.inOrder
  gapless := sound.gapless

theorem Sound.trySend (sound : queue.Sound) {envelope : Envelope T}
    (stands : queue.sending producer = .reserved envelope) : (queue.trySend producer envelope).Sound := by
  unfold OutputQueue.trySend
  split
  next room =>
    constructor
    case accounted =>
      have held : (queue.sending producer).envelope? = some envelope := by rw [stands]; rfl
      have left := (@Sound.covers_underway Producer T _ _ queue producer .idle sound envelope held rfl).1
      have accounted := sound.accounted
      rw [unreleased] at accounted
      simp only [retainedBytes_add, ← Multiset.coe_add] at accounted
      change queue.used = retainedBytes (Multiset.ofList (queue.channel ++ [envelope] ++ queue.receiving.envelope?.toList) +
        (queue.move producer .idle).underway)
      simp only [retainedBytes_add, ← Multiset.coe_add, retainedBytes_singleton]
      omega
    case bounded => exact sound.bounded
    case kept =>
      have kept := sound.kept
      rw [unreleased, ← Multiset.coe_add] at kept
      change (↑(queue.accepted ++ [envelope]) : Multiset (Envelope T)) =
        ↑queue.released + ↑(queue.channel ++ [envelope] ++ queue.receiving.envelope?.toList)
      simp only [← Multiset.coe_add, kept]
      abel
    case inOrder =>
      change queue.received <+: (queue.accepted ++ [envelope]).map Envelope.value
      rw [List.map_append]
      exact sound.inOrder.trans (List.prefix_append _ _)
    case gapless =>
      intro works connected
      change (queue.accepted ++ [envelope]).map Envelope.value =
        queue.received ++ (queue.receiving.unchecked ++ (queue.channel ++ [envelope])).map Envelope.value
      rw [List.map_append, sound.gapless works connected]
      simp
  next full =>
    refine sound.move ?_
    rw [stands]
    rfl

theorem Sound.refused (sound : queue.Sound) {envelope : Envelope T}
    (stands : queue.sending producer = .refused envelope) :
    ({ queue.move producer .failing with used := fetchSub queue.used envelope.size } :
      OutputQueue Producer T).Sound := by
  have held : (queue.sending producer).envelope? = some envelope := by rw [stands]; rfl
  obtain ⟨left, covered⟩ := @Sound.covers_underway Producer T _ _ queue producer .failing sound envelope held rfl
  rw [fetchSub_of_le covered sound.bounded]
  constructor
  case accounted =>
    have accounted := sound.accounted
    rw [retainedBytes_add] at accounted
    change queue.used - envelope.size =
      retainedBytes (queue.unreleased + (queue.move producer .failing).underway)
    rw [retainedBytes_add]
    omega
  case bounded => exact (Nat.sub_le _ _).trans sound.bounded
  case kept => exact sound.kept
  case inOrder => exact sound.inOrder
  case gapless => exact sound.gapless

theorem Sound.fail (sound : queue.Sound) (stands : queue.sending producer = .failing)
    (verdicts : List (Producer × Bool)) :
    ({ queue.move producer .idle with failed := true, verdicts } : OutputQueue Producer T).Sound := by
  have moved : (queue.move producer .idle).Sound := by
    refine sound.move ?_
    rw [stands]
    rfl
  exact ⟨moved.accounted, moved.bounded, moved.kept, moved.inOrder, fun works => by cases works⟩

theorem Sound.advance (sound : queue.Sound) : (queue.advance producer).Sound := by
  unfold OutputQueue.advance
  split
  case h_1 => exact sound
  case h_2 value wireBytes stands =>
    split
    case h_1 total granted => exact sound.reserve stands granted
    case h_2 =>
      refine sound.move ?_
      rw [stands]
      rfl
  case h_3 envelope stands => exact sound.trySend stands
  case h_4 envelope stands => exact sound.refused stands
  case h_5 stands => exact sound.fail stands _

end Moves

section Receiver

omit [Fintype Producer] in
@[simp] theorem received_answer (queue : OutputQueue Producer T) (stage : Receiving T)
    (result : Except RecvTimeoutError T) :
    (queue.answer stage result).received = queue.received ++ result.toOption.toList := by
  unfold received answer
  rw [List.filterMap_append]
  cases result <;> rfl

variable {queue : OutputQueue Producer T}

/-- The receiver ends a call without an item, or begins one. -/
theorem Sound.answer (sound : queue.Sound) {stage : Receiving T} (result : RecvTimeoutError)
    (empty : queue.receiving = .idle ∨ queue.receiving = .waiting) (ended : stage = .idle) :
    (queue.answer stage (.error result)).Sound := by
  subst ended
  have nothing : queue.receiving.envelope? = none ∧ queue.receiving.unchecked = [] ∧
      queue.receiving.isDropped = false := by
    rcases empty with stands | stands <;> rw [stands] <;> exact ⟨rfl, rfl, rfl⟩
  obtain ⟨held, unchecked, connected⟩ := nothing
  have accounted := sound.accounted
  have kept := sound.kept
  rw [unreleased, held] at accounted kept
  constructor
  case accounted => exact accounted
  case bounded => exact sound.bounded
  case kept => exact kept
  case inOrder =>
    rw [received_answer]
    exact (List.append_nil queue.received).symm ▸ sound.inOrder
  case gapless =>
    intro works _
    rw [received_answer]
    have gapless := sound.gapless works connected
    rw [unchecked] at gapless
    exact (List.append_nil queue.received).symm ▸ gapless

theorem Sound.recv (sound : queue.Sound) (stands : queue.receiving = .idle) : queue.recv.Sound := by
  unfold OutputQueue.recv
  split
  next failed => exact sound.answer _ (.inl stands) rfl
  next =>
    have accounted := sound.accounted
    have kept := sound.kept
    have gapless := sound.gapless
    rw [unreleased, stands] at accounted kept
    rw [stands] at gapless
    exact ⟨accounted, sound.bounded, kept, sound.inOrder, gapless⟩

theorem Sound.deliver (sound : queue.Sound) (stands : queue.receiving = .waiting) : queue.deliver.Sound := by
  unfold OutputQueue.deliver
  split
  case h_1 envelope rest items =>
    have accounted := sound.accounted
    have kept := sound.kept
    have gapless := sound.gapless
    rw [unreleased, stands, items] at accounted kept
    rw [stands, items] at gapless
    -- the first item moves from the channel to the receiver
    have moved : Multiset.ofList (envelope :: rest ++ (Receiving.waiting : Receiving T).envelope?.toList) =
        Multiset.ofList (rest ++ [envelope]) := by
      rw [Multiset.coe_eq_coe]
      simpa [Receiving.envelope?] using (List.perm_append_singleton envelope rest).symm
    rw [moved] at accounted kept
    exact ⟨accounted, sound.bounded, kept, sound.inOrder, gapless⟩
  case h_2 =>
    split
    next => exact sound
    next => exact sound.answer _ (.inr stands) rfl

theorem Sound.check (sound : queue.Sound) {envelope : Envelope T} (stands : queue.receiving = .taken envelope) :
    (queue.check envelope).Sound := by
  have accounted := sound.accounted
  have kept := sound.kept
  have gapless := sound.gapless
  rw [unreleased, stands] at accounted kept
  rw [stands] at gapless
  unfold OutputQueue.check
  constructor
  case accounted => exact accounted
  case bounded => exact sound.bounded
  case kept => exact kept
  case inOrder =>
    rw [received_answer]
    cases flag : queue.failed with
    | true => exact (List.append_nil queue.received).symm ▸ sound.inOrder
    | false =>
      change queue.received ++ [envelope.value] <+: queue.accepted.map Envelope.value
      rw [gapless flag rfl, Receiving.unchecked, List.map_append, ← List.append_assoc]
      exact List.prefix_append _ _
  case gapless =>
    intro works _
    have flag : queue.failed = false := works
    rw [received_answer, flag]
    change queue.accepted.map Envelope.value =
      queue.received ++ [envelope.value] ++ ([] ++ queue.channel).map Envelope.value
    rw [gapless flag rfl]
    simp [Receiving.unchecked]

theorem Sound.release (sound : queue.Sound) {envelope : Envelope T} (stands : queue.receiving = .leaving envelope) :
    (queue.release envelope).Sound := by
  have accounted := sound.accounted
  have kept := sound.kept
  have gapless := sound.gapless
  rw [unreleased, stands, ← Multiset.coe_add] at accounted kept
  rw [stands] at gapless
  simp only [Receiving.envelope?, Option.toList_some, retainedBytes_add, retainedBytes_singleton] at accounted
  have covered : envelope.size ≤ queue.used := by omega
  unfold OutputQueue.release
  rw [fetchSub_of_le covered sound.bounded]
  constructor
  case accounted =>
    change queue.used - envelope.size = retainedBytes (Multiset.ofList (queue.channel ++ []) + queue.underway)
    rw [retainedBytes_add, List.append_nil]
    omega
  case bounded => exact (Nat.sub_le _ _).trans sound.bounded
  case kept =>
    change (↑queue.accepted : Multiset (Envelope T)) = Multiset.ofList (queue.released ++ [envelope]) + Multiset.ofList (queue.channel ++ [])
    rw [kept, List.append_nil, ← Multiset.coe_add]
    simp only [Receiving.envelope?, Option.toList_some]
    abel
  case inOrder => exact sound.inOrder
  case gapless => exact gapless

theorem Sound.discard (sound : queue.Sound) (stands : queue.receiving = .dropped) : queue.discard.Sound := by
  unfold OutputQueue.discard
  split
  case h_1 envelope rest items =>
    have accounted := sound.accounted
    have kept := sound.kept
    have dropped := sound.gapless
    rw [unreleased, items, List.cons_append, ← List.singleton_append, ← Multiset.coe_add] at accounted kept
    simp only [retainedBytes_add, retainedBytes_singleton] at accounted
    have covered : envelope.size ≤ queue.used := by omega
    rw [fetchSub_of_le covered sound.bounded]
    constructor
    case accounted =>
      change queue.used - envelope.size =
        retainedBytes (Multiset.ofList (rest ++ queue.receiving.envelope?.toList) + queue.underway)
      rw [retainedBytes_add]
      omega
    case bounded => exact (Nat.sub_le _ _).trans sound.bounded
    case kept =>
      change (↑queue.accepted : Multiset (Envelope T)) =
        ↑(queue.released ++ [envelope]) + ↑(rest ++ queue.receiving.envelope?.toList)
      simp only [kept, ← Multiset.coe_add]
      abel
    case inOrder => exact sound.inOrder
    case gapless =>
      intro _ connected
      have contradiction : queue.receiving.isDropped = false := connected
      rw [stands] at contradiction
      cases contradiction
  case h_2 => exact sound

theorem Sound.dropReceiver (sound : queue.Sound) (stands : queue.receiving = .idle) :
    ({ queue with receiving := .dropped } : OutputQueue Producer T).Sound := by
  have accounted := sound.accounted
  have kept := sound.kept
  rw [unreleased, stands] at accounted kept
  exact ⟨accounted, sound.bounded, kept, sound.inOrder, fun _ connected => by cases connected⟩

end Receiver

variable [DecidableEq Producer] {queue : OutputQueue Producer T}

theorem Sound.send (sound : queue.Sound) {producer : Producer} (idle : (queue.sending producer).isIdle = true)
    (value : T) (wireBytes : Nat) : (queue.send producer value wireBytes).Sound := by
  unfold OutputQueue.send
  split
  next => exact ⟨sound.accounted, sound.bounded, sound.kept, sound.inOrder, sound.gapless⟩
  next =>
    refine sound.move ?_
    cases stands : queue.sending producer with
    | idle => rfl
    | permitted | reserved | refused | failing => rw [stands] at idle; cases idle

/-- What one action does. -/
inductive Stepped (queue : OutputQueue Producer T) : OutputQueue Producer T → Prop where
  | kept : Stepped queue queue
  | send {producer : Producer} (idle : (queue.sending producer).isIdle = true) (value : T) (wireBytes : Nat) :
      Stepped queue (queue.send producer value wireBytes)
  | advance (producer : Producer) : Stepped queue (queue.advance producer)
  | dropSender : Stepped queue { queue with senderLives := false }
  | recv (stands : queue.receiving = .idle) : Stepped queue queue.recv
  | deliver (stands : queue.receiving = .waiting) : Stepped queue queue.deliver
  | timeout (stands : queue.receiving = .waiting) : Stepped queue (queue.answer .idle (.error .timeout))
  | check {envelope : Envelope T} (stands : queue.receiving = .taken envelope) : Stepped queue (queue.check envelope)
  | release {envelope : Envelope T} (stands : queue.receiving = .leaving envelope) :
      Stepped queue (queue.release envelope)
  | dropReceiver (stands : queue.receiving = .idle) : Stepped queue { queue with receiving := .dropped }
  | discard (stands : queue.receiving = .dropped) : Stepped queue queue.discard

theorem next_stepped (queue : OutputQueue Producer T) (action : QueueAction Producer T) :
    Stepped queue (queue.next action) := by
  cases action with
  | send producer value wireBytes =>
    simp only [next]
    split
    next free => exact .send free.2 value wireBytes
    next => exact .kept
  | advance producer => exact .advance producer
  | dropSender =>
    simp only [next]
    split
    next => exact .dropSender
    next => exact .kept
  | recv => cases stands : queue.receiving <;> simp only [next, stands] <;> first | exact .recv stands | exact .kept
  | deliver =>
    cases stands : queue.receiving <;> simp only [next, stands] <;> first | exact .deliver stands | exact .kept
  | timeout =>
    cases stands : queue.receiving <;> simp only [next, stands] <;> first | exact .timeout stands | exact .kept
  | check => cases stands : queue.receiving <;> simp only [next, stands] <;> first | exact .check stands | exact .kept
  | release =>
    cases stands : queue.receiving <;> simp only [next, stands] <;> first | exact .release stands | exact .kept
  | dropReceiver =>
    cases stands : queue.receiving <;> simp only [next, stands] <;> first | exact .dropReceiver stands | exact .kept
  | discard =>
    cases stands : queue.receiving <;> simp only [next, stands] <;> first | exact .discard stands | exact .kept

theorem Sound.stepped (sound : queue.Sound) {after : OutputQueue Producer T} (stepped : Stepped queue after) :
    after.Sound := by
  cases stepped with
  | kept => exact sound
  | send idle value wireBytes => exact sound.send idle value wireBytes
  | advance => exact sound.advance
  | dropSender => exact ⟨sound.accounted, sound.bounded, sound.kept, sound.inOrder, sound.gapless⟩
  | recv stands => exact sound.recv stands
  | deliver stands => exact sound.deliver stands
  | timeout stands => exact sound.answer _ (.inr stands) rfl
  | check stands => exact sound.check stands
  | release stands => exact sound.release stands
  | dropReceiver stands => exact sound.dropReceiver stands
  | discard stands => exact sound.discard stands

omit [DecidableEq Producer] in
theorem outputQueue_sound : (outputQueue : OutputQueue Producer T).Sound := by
  have empty : (outputQueue : OutputQueue Producer T).underway = 0 := by
    unfold underway
    exact Finset.sum_eq_zero fun _ _ => rfl
  constructor
  case accounted =>
    rw [empty]
    rfl
  case bounded => exact Nat.zero_le _
  case kept => rfl
  case inOrder => exact List.prefix_rfl
  case gapless => intro _ _; rfl

/-- What a queue that has failed does from then on: the flag stays, no item is received, and each call that
begins reports the failure. -/
structure Reports (before after : OutputQueue Producer T) : Prop where
  failed : after.failed = true
  received : after.received = before.received
  refusedReceiver : before.receiving.isBetween = true → after.receiving.isBetween = true ∧
    ∃ further, after.answers = before.answers ++ further ∧ ∀ answer ∈ further, answer = .error .disconnected
  refusedProducer : ∀ producer, (before.sending producer).isIdle = true → (after.sending producer).isIdle = true ∧
    ∃ further, after.verdicts = before.verdicts ++ further ∧
      ∀ verdict ∈ further, verdict.1 = producer → verdict.2 = false

omit [Fintype Producer] [DecidableEq Producer] in
theorem Reports.refl (failed : queue.failed = true) : Reports queue queue where
  failed := failed
  received := rfl
  refusedReceiver between := ⟨between, [], (List.append_nil _).symm, fun _ member => by cases member⟩
  refusedProducer _ idle := ⟨idle, [], (List.append_nil _).symm, fun _ member => by cases member⟩

omit [Fintype Producer] [DecidableEq Producer] in
theorem Reports.trans {first second third : OutputQueue Producer T} (one : Reports first second)
    (other : Reports second third) : Reports first third where
  failed := other.failed
  received := other.received.trans one.received
  refusedReceiver between := by
    obtain ⟨still, early, answered, refused⟩ := one.refusedReceiver between
    obtain ⟨ended, late, further, disconnected⟩ := other.refusedReceiver still
    refine ⟨ended, early ++ late, by rw [further, answered, List.append_assoc], ?_⟩
    intro answer member
    rcases List.mem_append.mp member with before | after
    · exact refused answer before
    · exact disconnected answer after
  refusedProducer producer idle := by
    obtain ⟨still, early, answered, refused⟩ := one.refusedProducer producer idle
    obtain ⟨ended, late, further, denied⟩ := other.refusedProducer producer still
    refine ⟨ended, early ++ late, by rw [further, answered, List.append_assoc], ?_⟩
    intro verdict member own
    rcases List.mem_append.mp member with before | after
    · exact refused verdict before own
    · exact denied verdict after own

omit [Fintype Producer] [DecidableEq Producer] in
theorem received_congr {before after : OutputQueue Producer T} (same : after.answers = before.answers) :
    after.received = before.received :=
  congrArg (List.filterMap Except.toOption) same

omit [Fintype Producer] [DecidableEq Producer] in
/-- A step of the receiver's calls. -/
theorem Reports.of_receiver {after : OutputQueue Producer T} (failed : after.failed = true)
    (received : after.received = queue.received) (sending : after.sending = queue.sending)
    (verdicts : after.verdicts = queue.verdicts)
    (refused : queue.receiving.isBetween = true → after.receiving.isBetween = true ∧
      ∃ further, after.answers = queue.answers ++ further ∧ ∀ answer ∈ further, answer = .error .disconnected) :
    Reports queue after where
  failed := failed
  received := received
  refusedReceiver := refused
  refusedProducer _ idle :=
    ⟨by rw [sending]; exact idle, [], by rw [verdicts, List.append_nil], fun _ member => by cases member⟩

omit [Fintype Producer] in
/-- A step of a producer's call that was under way. -/
theorem Reports.of_producer {after : OutputQueue Producer T} {producer : Producer} {stage : Sending T}
    (failed : after.failed = true) (answers : after.answers = queue.answers)
    (receiving : after.receiving = queue.receiving) (busy : (queue.sending producer).isIdle = false)
    (sending : after.sending = Function.update queue.sending producer stage)
    (verdicts : after.verdicts = queue.verdicts ∨ ∃ verdict, after.verdicts = queue.verdicts ++ [(producer, verdict)]) :
    Reports queue after where
  failed := failed
  received := received_congr answers
  refusedReceiver between :=
    ⟨by rw [receiving]; exact between, [], by rw [answers, List.append_nil], fun _ member => by cases member⟩
  refusedProducer other idle := by
    have apart : other ≠ producer := by
      rintro rfl
      rw [busy] at idle
      cases idle
    refine ⟨by rw [sending, Function.update_of_ne apart]; exact idle, ?_⟩
    rcases verdicts with same | ⟨verdict, answered⟩
    · exact ⟨[], by rw [same, List.append_nil], fun _ member => by cases member⟩
    · refine ⟨[(producer, verdict)], answered, ?_⟩
      intro given member own
      obtain rfl := List.mem_singleton.mp member
      exact absurd own.symm apart

omit [Fintype Producer] in
theorem Reports.advance (failed : queue.failed = true) (producer : Producer) :
    Reports queue (queue.advance producer) := by
  cases stands : queue.sending producer with
  | idle =>
    simp only [OutputQueue.advance, stands]
    exact .refl failed
  | permitted value wireBytes =>
    have busy : (queue.sending producer).isIdle = false := by rw [stands]; rfl
    simp only [OutputQueue.advance, stands]
    split
    next => exact .of_producer failed rfl rfl busy rfl (.inl rfl)
    next => exact .of_producer failed rfl rfl busy rfl (.inl rfl)
  | reserved envelope =>
    have busy : (queue.sending producer).isIdle = false := by rw [stands]; rfl
    simp only [OutputQueue.advance, stands, OutputQueue.trySend]
    split
    next => exact .of_producer failed rfl rfl busy rfl (.inr ⟨true, rfl⟩)
    next => exact .of_producer failed rfl rfl busy rfl (.inl rfl)
  | refused envelope =>
    have busy : (queue.sending producer).isIdle = false := by rw [stands]; rfl
    simp only [OutputQueue.advance, stands]
    exact .of_producer failed rfl rfl busy rfl (.inl rfl)
  | failing =>
    have busy : (queue.sending producer).isIdle = false := by rw [stands]; rfl
    simp only [OutputQueue.advance, stands]
    exact .of_producer rfl rfl rfl busy rfl (.inr ⟨false, rfl⟩)

omit [Fintype Producer] in
theorem Reports.stepped (failed : queue.failed = true) {after : OutputQueue Producer T}
    (stepped : Stepped queue after) : Reports queue after := by
  have unanswered : ∀ (stage : Receiving T) (error : RecvTimeoutError),
      (queue.answer stage (.error error)).received = queue.received := by
    intro stage error
    rw [received_answer]
    exact List.append_nil _
  cases stepped with
  | kept => exact .refl failed
  | send idle value wireBytes =>
    rename_i producer
    unfold OutputQueue.send
    rw [if_pos failed]
    refine ⟨failed, rfl, fun between => ⟨between, [], (List.append_nil _).symm, fun _ member => by cases member⟩, ?_⟩
    intro other idle
    refine ⟨idle, [(producer, false)], rfl, ?_⟩
    intro verdict member _
    obtain rfl := List.mem_singleton.mp member
    rfl
  | advance producer => exact .advance failed producer
  | dropSender =>
    exact .of_receiver failed (received_congr rfl) rfl rfl
      fun between => ⟨between, [], (List.append_nil _).symm, fun _ member => by cases member⟩
  | recv stands =>
    unfold OutputQueue.recv
    rw [if_pos failed]
    refine .of_receiver failed (unanswered _ _) rfl rfl fun _ => ⟨rfl, [.error .disconnected], rfl, ?_⟩
    exact fun answer member => List.mem_singleton.mp member
  | deliver stands =>
    have busy : queue.receiving.isBetween = true → False := by rw [stands]; exact fun idle => by cases idle
    unfold OutputQueue.deliver
    split
    next => exact .of_receiver failed (received_congr rfl) rfl rfl fun between => (busy between).elim
    next =>
      split
      next => exact .refl failed
      next => exact .of_receiver failed (unanswered _ _) rfl rfl fun between => (busy between).elim
  | timeout stands =>
    have busy : queue.receiving.isBetween = true → False := by rw [stands]; exact fun idle => by cases idle
    exact .of_receiver failed (unanswered _ _) rfl rfl fun between => (busy between).elim
  | check stands =>
    have busy : queue.receiving.isBetween = true → False := by rw [stands]; exact fun idle => by cases idle
    unfold OutputQueue.check
    rw [if_pos failed]
    exact .of_receiver failed (unanswered _ _) rfl rfl fun between => (busy between).elim
  | release stands =>
    have busy : queue.receiving.isBetween = true → False := by rw [stands]; exact fun idle => by cases idle
    unfold OutputQueue.release
    exact .of_receiver failed (received_congr rfl) rfl rfl fun between => (busy between).elim
  | dropReceiver stands =>
    exact .of_receiver failed (received_congr rfl) rfl rfl
      fun _ => ⟨rfl, [], (List.append_nil _).symm, fun _ member => by cases member⟩
  | discard stands =>
    unfold OutputQueue.discard
    split
    next =>
      exact .of_receiver failed (received_congr rfl) rfl rfl
        fun between => ⟨between, [], (List.append_nil _).symm, fun _ member => by cases member⟩
    next => exact .refl failed

/-- The queue after actions of its threads, in any order. -/
def run (actions : List (QueueAction Producer T)) : OutputQueue Producer T :=
  Machine.run next outputQueue actions

theorem run_sound (actions : List (QueueAction Producer T)) : (run actions : OutputQueue Producer T).Sound :=
  Machine.run_preserves (fun _ action sound => sound.stepped (next_stepped _ action)) outputQueue_sound actions

theorem run_reports {first : List (QueueAction Producer T)} (failed : (run first).failed = true)
    (rest : List (QueueAction Producer T)) : Reports (run first) (run (first ++ rest)) := by
  unfold run
  rw [Machine.run_append]
  have kept : ∀ queue action, Reports (run first) queue → Reports (run first) (next queue action) :=
    fun queue action reports => reports.trans (.stepped reports.failed (next_stepped queue action))
  exact Machine.run_preserves kept (.refl failed) rest

/-- Whatever the number of producers and the order of their actions: the counter is the bytes of the items that
were accepted and are not released, with those reserved by calls of `send` still under way, and within the
limit. What is received is the beginning of what was accepted. After a failure nothing more is received, the flag
stays, and each call that begins is refused. -/
theorem output_queue_bounded (actions : List (QueueAction Producer T)) :
    let queue : OutputQueue Producer T := run actions
    (↑queue.accepted : Multiset (Envelope T)) = ↑queue.released + queue.unreleased ∧
    queue.used = retainedBytes (queue.unreleased + queue.underway) ∧
    queue.used ≤ outputQueueBytes ∧
    queue.received <+: queue.accepted.map Envelope.value ∧
    (queue.failed = true → ∀ rest, Reports queue (run (actions ++ rest))) := by
  have sound := run_sound actions
  exact ⟨sound.kept, sound.accounted, sound.bounded, sound.inOrder, fun failed rest => run_reports failed rest⟩

end OutputQueue

end Bastet.Core
