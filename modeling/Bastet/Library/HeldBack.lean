import Bastet.Library.EventStream

/-! Streams whose last update may have to wait behind a note. A stream that ends once, and gives what it holds back
to the first input that asks, gives its last update once and right after the note. -/

set_option autoImplicit false

namespace HeldBack

open EventStream

variable {State Input Update : Type}

/-- The discipline of one step. An open stream gives ordinary updates. One that has ended gives no others, except
what it holds back, and that to the first input that asks for it. -/
structure Disciplined (next : State → Input → State × Option Update) (sound : State → Prop)
    (ordinary : Update → Prop) (held : State → Option Update) (ended : State → Bool) (asks : Input → Bool) : Prop where
  kept : ∀ state input, sound state → sound (next state input).1
  closes : ∀ state input, sound state → ended state = true → ended (next state input).1 = true
  opened : ∀ state input, sound state → ended (next state input).1 = false →
    ∀ update, (next state input).2 = some update → ordinary update
  finished : ∀ state input, sound state → held state = none → ended state = true →
    held (next state input).1 = none ∧ ∀ update, (next state input).2 = some update → ordinary update
  waits : ∀ state input last, sound state → held state = some last → asks input = false →
    held (next state input).1 = some last ∧ (next state input).2 = none
  released : ∀ state input last, sound state → held state = some last → asks input = true →
    held (next state input).1 = none ∧ ended (next state input).1 = true ∧ (next state input).2 = some last

/-- A step that ends the stream, with a note or without. -/
structure Ends (next : State → Input → State × Option Update) (held : State → Option Update) (ended : State → Bool)
    (state : State) (input : Input) (note : Option Update) (last : Update) : Prop where
  answered : (next state input).2 = some (note.getD last)
  held : held (next state input).1 = note.map fun _ => last
  ended : ended (next state input).1 = true

namespace Disciplined

variable {next : State → Input → State × Option Update} {sound : State → Prop} {ordinary : Update → Prop}
  {held : State → Option Update} {ended : State → Bool} {asks : Input → Bool}
  (disciplined : Disciplined next sound ordinary held ended asks)

include disciplined

theorem sound_after {state : State} (initial : sound state) (inputs : List Input) : sound (after next state inputs) :=
  Machine.run_preserves (fun state input => disciplined.kept state input) initial inputs

theorem ended_after {state : State} (initial : sound state) (finished : ended state = true) (inputs : List Input) :
    ended (after next state inputs) = true := by
  have step : ∀ current input, sound current ∧ ended current = true →
      sound ((fun reached given => (next reached given).1) current input) ∧
        ended ((fun reached given => (next reached given).1) current input) = true := by
    intro current input both
    exact ⟨disciplined.kept current input both.1, disciplined.closes current input both.1 both.2⟩
  exact (Machine.run_preserves step ⟨initial, finished⟩ inputs).2

/-- A stream that is open after some inputs was open after the first of them. -/
theorem open_of_after {state : State} (initial : sound state) {input : Input} {rest : List Input}
    (unfinished : ended (after next state (input :: rest)) = false) : ended (next state input).1 = false := by
  rw [Bool.eq_false_iff]
  intro shut
  have contradiction := disciplined.ended_after (disciplined.kept state input initial) shut rest
  rw [show after next (next state input).1 rest = after next state (input :: rest) from rfl, unfinished] at contradiction
  cases contradiction

/-- While the stream is open it has given ordinary updates only. -/
theorem ordinary_of_open {state : State} (initial : sound state) {inputs : List Input}
    (unfinished : ended (after next state inputs) = false) : ∀ update ∈ updates next state inputs, ordinary update := by
  induction inputs generalizing state with
  | nil => exact fun update member => absurd member List.not_mem_nil
  | cons input rest ih =>
    have good := disciplined.kept state input initial
    have stays := disciplined.open_of_after initial unfinished
    intro update member
    rw [updates_cons, List.mem_append, Option.mem_toList] at member
    rcases member with now | later
    · exact disciplined.opened state input initial stays update now
    · exact ih good unfinished update later

/-- A mark that each update of a kind sets, while the stream is open. -/
theorem marked_of_open {marked : State → Bool} {kind : Update → Bool}
    (marks : ∀ state input, sound state → ended (next state input).1 = false →
      marked (next state input).1 = (marked state || (next state input).2.any kind))
    {state : State} (initial : sound state) {inputs : List Input} (unfinished : ended (after next state inputs) = false) :
    marked (after next state inputs) = (marked state || (updates next state inputs).any kind) := by
  induction inputs generalizing state with
  | nil => exact (Bool.or_false _).symm
  | cons input rest ih =>
    have first := marks state input initial (disciplined.open_of_after initial unfinished)
    have answered : (next state input).2.toList.any kind = (next state input).2.any kind := by
      cases (next state input).2 <;> simp
    rw [updates_cons, List.any_append, answered, ← Bool.or_assoc, ← first]
    exact ih (disciplined.kept state input initial) unfinished

theorem ordinary_of_finished {state : State} (initial : sound state) (nothing : held state = none)
    (finished : ended state = true) (inputs : List Input) : ∀ update ∈ updates next state inputs, ordinary update := by
  induction inputs generalizing state with
  | nil => exact fun update member => absurd member List.not_mem_nil
  | cons input rest ih =>
    obtain ⟨still, answered⟩ := disciplined.finished state input initial nothing finished
    intro update member
    rw [updates_cons, List.mem_append, Option.mem_toList] at member
    rcases member with now | later
    · exact answered update now
    · exact ih (disciplined.kept state input initial) still (disciplined.closes state input initial finished) update later

/-- What is held back is given once, when it is asked for. -/
theorem updates_held {state : State} {last : Update} (initial : sound state) (waiting : held state = some last)
    (inputs : List Input) :
    ∃ rest, updates next state inputs = (if inputs.any asks then [last] else []) ++ rest ∧
      ∀ update ∈ rest, ordinary update := by
  induction inputs generalizing state with
  | nil => exact ⟨[], rfl, fun update member => absurd member List.not_mem_nil⟩
  | cons input later ih =>
    have good := disciplined.kept state input initial
    cases asking : asks input with
    | false =>
      obtain ⟨still, silent⟩ := disciplined.waits state input last initial waiting asking
      obtain ⟨rest, given, others⟩ := ih good still
      refine ⟨rest, ?_, others⟩
      rw [updates_cons, silent, given, List.any_cons, asking]
      rfl
    | true =>
      obtain ⟨nothing, finished, answered⟩ := disciplined.released state input last initial waiting asking
      refine ⟨updates next (next state input).1 later, ?_,
        disciplined.ordinary_of_finished good nothing finished later⟩
      rw [updates_cons, answered, List.any_cons, asking]
      rfl

/-- The whole of a run through its end: ordinary updates, the note, the last update if nothing holds it back or it is
asked for, and ordinary updates. -/
theorem updates_through {state : State} {earlier later : List Input} {input : Input} {note : Option Update}
    {last : Update} (initial : sound state) (unfinished : ended (after next state earlier) = false)
    (ends : Ends next held ended (after next state earlier) input note last) :
    ∃ rest, updates next state (earlier ++ input :: later) = updates next state earlier ++
        (note.toList ++ ((if note.isNone || later.any asks then [last] else []) ++ rest)) ∧
      (∀ update ∈ updates next state earlier, ordinary update) ∧ ∀ update ∈ rest, ordinary update := by
  have good := disciplined.kept (after next state earlier) input (disciplined.sound_after initial earlier)
  have before := disciplined.ordinary_of_open initial unfinished
  rw [updates_append, updates_cons, ends.answered]
  cases note with
  | none =>
    refine ⟨_, rfl, before, disciplined.ordinary_of_finished good ends.held ends.ended later⟩
  | some note =>
    obtain ⟨rest, given, others⟩ := disciplined.updates_held good ends.held later
    refine ⟨rest, ?_, before, others⟩
    rw [given]
    rfl

end Disciplined

end HeldBack
