import Bastet.Library.Fallible

/-! Programs that write in stages and may be cut off after any single write. -/

set_option autoImplicit false

namespace Interrupted

open Fallible

variable {σ ε δ : Type}

/-- A stage looks at the state and stops, or plans its writes. -/
abbrev Stage (σ ε δ : Type) := σ → Except δ (List ε)

variable (write : σ → ε → σ)

def after (state : σ) (writes : List ε) : σ :=
  writes.foldl write state

/-- The writes of the stages, each planned in the state the stages before it left, and how they end. -/
def run : List (Stage σ ε δ) → σ → List ε × Except δ Unit
  | [], _ => ([], .ok ())
  | stage :: rest, state =>
    match stage state with
    | .error error => ([], .error error)
    | .ok writes =>
      let later := run rest (after write state writes)
      (writes ++ later.1, later.2)

def finished (stages : List (Stage σ ε δ)) (state : σ) : σ :=
  after write state (run write stages state).1

/-- The state when only so many of the writes were made. -/
def cutOff (stages : List (Stage σ ε δ)) (state : σ) (count : Nat) : σ :=
  after write state ((run write stages state).1.take count)

variable {write} {stage : Stage σ ε δ} {rest : List (Stage σ ε δ)} {state : σ} {writes : List ε}

theorem after_append (state : σ) (first second : List ε) :
    after write state (first ++ second) = after write (after write state first) second :=
  List.foldl_append

theorem run_ok : (run write (stage :: rest) state).2 = .ok () ↔
    ∃ writes, stage state = .ok writes ∧ (run write rest (after write state writes)).2 = .ok () := by
  rw [run]
  cases stage state with
  | error error => simp
  | ok writes => simp

/-- A stage with nothing to write is passed over. -/
theorem run_skip (nothing : stage state = .ok []) : run write (stage :: rest) state = run write rest state := by
  rw [run, nothing]
  rfl

theorem finished_cons (planned : stage state = .ok writes) :
    finished write (stage :: rest) state = finished write rest (after write state writes) := by
  simp only [finished, run, planned, after_append]

@[simp] theorem finished_nil : finished write ([] : List (Stage σ ε δ)) state = state :=
  rfl

@[simp] theorem cutOff_nil (count : Nat) : cutOff write ([] : List (Stage σ ε δ)) state count = state := by
  simp [cutOff, run, after]

/-- The cut is inside this stage, or the stage is done and the cut is in a later one. -/
theorem cutOff_cons (planned : stage state = .ok writes) (count : Nat) :
    cutOff write (stage :: rest) state count =
      if count < writes.length then after write state (writes.take count)
      else cutOff write rest (after write state writes) (count - writes.length) := by
  simp only [cutOff, run, planned]
  split
  next inside => rw [List.take_append_of_le_length inside.le]
  next beyond => rw [List.take_append, List.take_of_length_le (Nat.le_of_not_lt beyond), after_append]

theorem cutOff_enough (stages : List (Stage σ ε δ)) {count : Nat} (enough : (run write stages state).1.length ≤ count) :
    cutOff write stages state count = finished write stages state := by
  rw [cutOff, List.take_of_length_le enough, finished]

end Interrupted
