import Bastet.Library.Machine

/-! Streams that answer some of their inputs with an update. A stream that counts the updates it numbers and
closes with a terminal one gives a well-formed sequence of updates to every sequence of inputs. -/

set_option autoImplicit false

namespace EventStream

variable {State Input Update : Type}

/-- The updates a stream gives to its inputs. -/
def updates (next : State → Input → State × Option Update) : State → List Input → List Update
  | _, [] => []
  | state, input :: rest => (next state input).2.toList ++ updates next (next state input).1 rest

/-- The stream after its inputs. -/
def after (next : State → Input → State × Option Update) (state : State) (inputs : List Input) : State :=
  Machine.run (fun current input => (next current input).1) state inputs

variable {next : State → Input → State × Option Update}

@[simp] theorem updates_nil (state : State) : updates next state [] = [] := rfl

theorem updates_cons (state : State) (input : Input) (rest : List Input) :
    updates next state (input :: rest) = (next state input).2.toList ++ updates next (next state input).1 rest := rfl

theorem updates_append (state : State) (first rest : List Input) :
    updates next state (first ++ rest) = updates next state first ++ updates next (after next state first) rest := by
  induction first generalizing state with
  | nil => rfl
  | cons input others ih =>
    rw [List.cons_append, updates_cons, updates_cons, ih, List.append_assoc]
    rfl

/-- What each input of a kind is answered with while an invariant holds. -/
theorem updates_all {holds : State → Prop} {allowed : Input → Prop} {good : Update → Prop}
    (kept : ∀ state input, holds state → allowed input → holds (next state input).1)
    (answered : ∀ state input update, holds state → allowed input → (next state input).2 = some update → good update)
    {state : State} (initial : holds state) {inputs : List Input} (permitted : ∀ input ∈ inputs, allowed input) :
    ∀ update ∈ updates next state inputs, good update := by
  induction inputs generalizing state with
  | nil => exact fun _ member => by cases member
  | cons input rest ih =>
    have first := permitted input List.mem_cons_self
    intro update member
    rw [updates_cons, List.mem_append, Option.mem_toList] at member
    rcases member with now | later
    · exact answered state input update initial first now
    · exact ih (kept state input initial first)
        (fun other inside => permitted other (List.mem_cons_of_mem _ inside)) update later

/-- Where some updates carry a number: from a first one the numbers go on one by one, and nothing follows a
terminal update. -/
structure WellFormed (number : Update → Option Nat) (terminal : Update → Bool) (start : Nat)
    (sequence : List Update) : Prop where
  numbered : sequence.filterMap number = List.range' start (sequence.filterMap number).length
  closed : ∀ earlier update later, sequence = earlier ++ update :: later → terminal update = true → later = []

/-- The discipline of one step: an open stream answers with its upcoming number and moves on to the one after it,
a terminal answer closes it, and a closed stream gives no answers. -/
structure Disciplined (next : State → Input → State × Option Update) (number : Update → Option Nat)
    (terminal : Update → Bool) (upcoming : State → Nat) (closed : State → Bool) : Prop where
  silent : ∀ state input, (next state input).2 = none →
    upcoming (next state input).1 = upcoming state ∧ (closed state = true → closed (next state input).1 = true)
  answered : ∀ state input update, (next state input).2 = some update →
    closed state = false ∧ (terminal update = true → closed (next state input).1 = true) ∧
      (number update = none ∧ upcoming (next state input).1 = upcoming state ∨
        number update = some (upcoming state) ∧ upcoming (next state input).1 = upcoming state + 1)

section Discipline

variable {number : Update → Option Nat} {terminal : Update → Bool} {upcoming : State → Nat} {closed : State → Bool}

theorem WellFormed.nil (start : Nat) : WellFormed number terminal start [] :=
  ⟨rfl, fun earlier update later same _ => by
    have impossible := congrArg List.length same
    simp at impossible⟩

/-- An update in front of a well-formed sequence. -/
theorem WellFormed.cons {start reached : Nat} {update : Update} {rest : List Update}
    (wellFormed : WellFormed number terminal reached rest) (last : terminal update = true → rest = [])
    (counted : number update = none ∧ reached = start ∨ number update = some start ∧ reached = start + 1) :
    WellFormed number terminal start (update :: rest) := by
  constructor
  case numbered =>
    rcases counted with ⟨unnumbered, rfl⟩ | ⟨numbered, rfl⟩
    · rw [List.filterMap_cons_none unnumbered]
      exact wellFormed.numbered
    · rw [List.filterMap_cons_some numbered, List.length_cons, List.range'_succ]
      exact congrArg _ wellFormed.numbered
  case closed =>
    intro earlier other later same ends
    cases earlier with
    | nil =>
      obtain ⟨rfl, rfl⟩ := List.cons.inj same
      exact last ends
    | cons head tail =>
      obtain ⟨rfl, remaining⟩ := List.cons.inj same
      exact wellFormed.closed tail other later remaining ends

theorem WellFormed.countP_terminal_le {start : Nat} {sequence : List Update}
    (wellFormed : WellFormed number terminal start sequence) : sequence.countP terminal ≤ 1 := by
  by_cases present : ∃ update ∈ sequence, terminal update = true
  · obtain ⟨update, member, ends⟩ := present
    -- what comes before the last update is not terminal
    obtain ⟨earlier, later, same, fresh⟩ : ∃ earlier later, sequence = earlier ++ update :: later ∧
        ∀ other ∈ earlier, terminal other = false := by
      obtain ⟨earlier, later, same⟩ := List.append_of_mem member
      refine ⟨earlier, later, same, ?_⟩
      intro other inside
      rw [Bool.eq_false_iff]
      intro alsoEnds
      obtain ⟨first, rest, split⟩ := List.append_of_mem inside
      have impossible := wellFormed.closed first other (rest ++ update :: later)
        (by rw [same, split, List.append_assoc, List.cons_append]) alsoEnds
      simp at impossible
    obtain rfl := wellFormed.closed earlier update later same ends
    rw [same, List.countP_append, List.countP_eq_zero.mpr fun other inside => by simp [fresh other inside]]
    simp [ends]
  · have none : ∀ update ∈ sequence, ¬terminal update = true := fun update member ends => present ⟨update, member, ends⟩
    rw [List.countP_eq_zero.mpr none]
    exact Nat.zero_le 1

theorem Disciplined.silent_of_closed (disciplined : Disciplined next number terminal upcoming closed) {state : State}
    (shut : closed state = true) (inputs : List Input) : updates next state inputs = [] := by
  induction inputs generalizing state with
  | nil => rfl
  | cons input rest ih =>
    rw [updates_cons]
    cases answer : (next state input).2 with
    | none => exact ih ((disciplined.silent state input answer).2 shut)
    | some update =>
      have contradiction := (disciplined.answered state input update answer).1
      rw [shut] at contradiction
      cases contradiction

theorem Disciplined.wellFormed (disciplined : Disciplined next number terminal upcoming closed) (state : State)
    (inputs : List Input) : WellFormed number terminal (upcoming state) (updates next state inputs) := by
  induction inputs generalizing state with
  | nil => exact .nil _
  | cons input rest ih =>
    rw [updates_cons]
    cases answer : (next state input).2 with
    | none =>
      have same := (disciplined.silent state input answer).1
      exact same ▸ ih (next state input).1
    | some update =>
      obtain ⟨_, ends, counted⟩ := disciplined.answered state input update answer
      exact (ih (next state input).1).cons (fun last => disciplined.silent_of_closed (ends last) rest) counted

end Discipline

end EventStream
