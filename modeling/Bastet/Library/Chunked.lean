import Mathlib.Data.List.Basic

/-! Readers that are fed in chunks. A reader that makes the same of a chunk as of its two parts, one after the
other, gives the same to every cutting of its input. -/

set_option autoImplicit false

namespace Chunked

variable {State Input Output : Type}

/-- What a reader gives to a chunk, with the state it goes on in unless it stops. -/
abbrev Reader (State Input Output : Type) :=
  State → List Input → List Output × Option State

/-- An answer, and what follows unless the reader has stopped. -/
def andThen (answer : List Output × Option State) (more : State → List Output × Option State) :
    List Output × Option State :=
  match answer.2 with
  | none => answer
  | some state => (answer.1 ++ (more state).1, (more state).2)

@[simp] theorem andThen_stopped (output : List Output) (more : State → List Output × Option State) :
    andThen (output, none) more = (output, none) := rfl

@[simp] theorem andThen_going (output : List Output) (state : State) (more : State → List Output × Option State) :
    andThen (output, some state) more = (output ++ (more state).1, (more state).2) := rfl

theorem andThen_cons (first : Output) (answer : List Output × Option State)
    (more : State → List Output × Option State) :
    andThen (first :: answer.1, answer.2) more = (first :: (andThen answer more).1, (andThen answer more).2) := by
  obtain ⟨output, after⟩ := answer
  cases after <;> rfl

def feed (read : Reader State Input Output) (state : State) : List (List Input) → List Output × Option State
  | [] => ([], some state)
  | chunk :: rest => andThen (read state chunk) fun after => feed read after rest

/-- From the states that hold, a reader cannot tell where a chunk ends. -/
structure Seamless (read : Reader State Input Output) (holds : State → Prop) : Prop where
  nothing : ∀ state, holds state → read state [] = ([], some state)
  joined : ∀ state first second, holds state →
    read state (first ++ second) = andThen (read state first) fun after => read after second
  kept : ∀ state chunk after, holds state → (read state chunk).2 = some after → holds after

variable {read : Reader State Input Output} {holds : State → Prop}

theorem Seamless.feed_flatten (seamless : Seamless read holds) {state : State} (held : holds state)
    (chunks : List (List Input)) : feed read state chunks = read state chunks.flatten := by
  induction chunks generalizing state with
  | nil => exact (seamless.nothing state held).symm
  | cons chunk rest ih =>
    rw [List.flatten_cons, seamless.joined state chunk rest.flatten held, feed]
    cases answer : read state chunk with
    | mk output after =>
      cases after with
      | none => rfl
      | some next =>
        have kept := seamless.kept state chunk next held (by rw [answer])
        rw [andThen_going, andThen_going, ih kept]

/-- Two cuttings of one input are given the same. -/
theorem Seamless.feed_congr (seamless : Seamless read holds) {state : State} (held : holds state)
    {first second : List (List Input)} (same : first.flatten = second.flatten) :
    feed read state first = feed read state second := by
  rw [seamless.feed_flatten held, seamless.feed_flatten held, same]

end Chunked
