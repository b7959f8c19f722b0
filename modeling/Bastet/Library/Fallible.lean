import Mathlib.Algebra.Group.Nat.Defs
import Mathlib.Data.Finset.Card
import Mathlib.Data.List.Sort
import Mathlib.Logic.Relation

/-! Fallible computations as values of `Except`, read backwards.

A command is written with guards, lookups and checks over a list. Each lemma
below turns the success of one such step into the fact the step established,
so that a caller peels an accepted command apart without unfolding its parts.
-/

set_option autoImplicit false

namespace Fallible

variable {ε δ α β σ : Type}

/-- Stop with `error` when `bad` holds. -/
def rejectIf (bad : Bool) (error : ε) : Except ε Unit :=
  if bad then .error error else .ok ()

/-- How a computation with assertions stops: with an error of its own, or at an assertion. -/
inductive Fault (ε : Type) where
  | error (error : ε)
  | panic (message : String)
  deriving DecidableEq, Repr

/-- A computation without assertions, among those with them. -/
def checked (value : Except ε α) : Except (Fault ε) α :=
  value.mapError .error

/-- The value of an option that is asserted to be there. -/
def expect (value : Option α) (message : String) : Except (Fault ε) α :=
  match value with
  | some value => .ok value
  | none => .error (.panic message)

/-- The value of an option, or `error`. -/
def okOr (value : Option α) (error : ε) : Except ε α :=
  match value with
  | some value => .ok value
  | none => .error error

/-- Run a check on every element, in order, stopping at the first error. -/
def forEach (check : α → Except ε Unit) : List α → Except ε Unit
  | [] => .ok ()
  | first :: rest => do
    check first
    forEach check rest

/-- Thread a state through a list, stopping at the first error. -/
def foldEach (step : σ → α → Except ε σ) : List α → σ → Except ε σ
  | [], state => .ok state
  | first :: rest, state => do
    let next ← step state first
    foldEach step rest next

/-- Stop at the first key that was seen before, with the error made from it. -/
def distinctFrom {κ : Type} [DecidableEq κ] (error : κ → ε) (seen : List κ) : List κ → Except ε Unit
  | [] => .ok ()
  | first :: rest => do
    rejectIf (decide (first ∈ seen)) (error first)
    distinctFrom error (first :: seen) rest

def isOk : Except ε α → Bool
  | .ok _ => true
  | .error _ => false

@[simp] theorem isOk_ok (value : α) : isOk (.ok value : Except ε α) = true := rfl

@[simp] theorem isOk_error (error : ε) : isOk (.error error : Except ε α) = false := rfl

theorem isOk_iff {value : Except ε α} : isOk value = true ↔ ∃ result, value = .ok result := by
  cases value <;> simp [isOk]

theorem isOk_unit {value : Except ε Unit} : isOk value = true ↔ value = .ok () := by
  cases value <;> simp [isOk]

@[simp] theorem exists_unit {holds : Unit → Prop} : (∃ value, holds value) ↔ holds () :=
  ⟨fun ⟨_, found⟩ => found, fun found => ⟨(), found⟩⟩

@[simp] theorem bind_ok {value : Except ε α} {next : α → Except ε β} {result : β} :
    (value >>= next) = .ok result ↔ ∃ middle, value = .ok middle ∧ next middle = .ok result := by
  cases value with
  | error error => simp [bind, Except.bind]
  | ok middle => simp [bind, Except.bind]

@[simp] theorem map_ok {value : Except ε α} {convert : α → β} {result : β} :
    convert <$> value = .ok result ↔ ∃ middle, value = .ok middle ∧ convert middle = result := by
  cases value <;> simp [Functor.map, Except.map]

@[simp] theorem ok_bind (value : α) (next : α → Except ε β) :
    ((.ok value : Except ε α) >>= next) = next value := rfl

@[simp] theorem error_bind (error : ε) (next : α → Except ε β) :
    ((.error error : Except ε α) >>= next) = .error error := rfl

@[simp] theorem pure_ok {value result : α} :
    (pure value : Except ε α) = .ok result ↔ value = result := by
  simp [pure, Except.pure]

@[simp] theorem rejectIf_ok {bad : Bool} {error : ε} {result : Unit} :
    rejectIf bad error = .ok result ↔ bad = false := by
  cases bad <;> simp [rejectIf]

theorem rejectIf_error {bad : Bool} {error reported : ε} :
    rejectIf bad error = .error reported ↔ bad = true ∧ error = reported := by
  cases bad <;> simp [rejectIf]

@[simp] theorem okOr_ok {value : Option α} {error : ε} {result : α} :
    okOr value error = .ok result ↔ value = some result := by
  cases value <;> simp [okOr]

@[simp] theorem mapError_ok {convert : ε → δ} {value : Except ε α} {result : α} :
    value.mapError convert = .ok result ↔ value = .ok result := by
  cases value <;> simp [Except.mapError]

@[simp] theorem checked_ok {value : Except ε α} {result : α} :
    checked value = .ok result ↔ value = .ok result :=
  mapError_ok

@[simp] theorem checked_panic {value : Except ε α} {message : String} :
    ¬checked value = .error (.panic message) := by
  cases value <;> simp [checked, Except.mapError]

@[simp] theorem expect_ok {value : Option α} {message : String} {result : α} :
    expect value message = (.ok result : Except (Fault ε) α) ↔ value = some result := by
  cases value <;> simp [expect]

@[simp] theorem expect_panic {value : Option α} {message reported : String} :
    expect value message = (.error (.panic reported) : Except (Fault ε) α) ↔ value = none ∧ message = reported := by
  cases value <;> simp [expect]

/-- A sequence stops at an error of its first part, or of its second after the first. -/
theorem bind_error {value : Except ε α} {next : α → Except ε β} {error : ε} :
    (value >>= next) = .error error ↔
      value = .error error ∨ ∃ middle, value = .ok middle ∧ next middle = .error error := by
  cases value with
  | error other => simp [bind, Except.bind]
  | ok middle => simp [bind, Except.bind]

@[simp] theorem forEach_ok {check : α → Except ε Unit} {items : List α} {result : Unit} :
    forEach check items = .ok result ↔ ∀ item ∈ items, check item = .ok () := by
  induction items with
  | nil => simp [forEach]
  | cons first rest ih => simp [forEach, ih]

/-- An error of a loop of checks is an error of one of them. -/
theorem forEach_error {check : α → Except ε Unit} {items : List α} {error : ε}
    (stopped : forEach check items = .error error) : ∃ item ∈ items, check item = .error error := by
  induction items with
  | nil => cases stopped
  | cons first rest ih =>
    rw [forEach, bind_error] at stopped
    rcases stopped with failed | ⟨_, _, remaining⟩
    · exact ⟨first, List.mem_cons_self .., failed⟩
    · obtain ⟨item, member, failed⟩ := ih remaining
      exact ⟨item, List.mem_cons_of_mem _ member, failed⟩

theorem distinctFrom_ok {κ : Type} [DecidableEq κ] {error : κ → ε} {seen keys : List κ} {result : Unit} :
    distinctFrom error seen keys = .ok result ↔ keys.Nodup ∧ ∀ key ∈ keys, key ∉ seen := by
  induction keys generalizing seen with
  | nil => simp [distinctFrom]
  | cons first rest ih =>
    simp only [distinctFrom, bind_ok, exists_unit, rejectIf_ok, decide_eq_false_iff_not, ih,
      List.nodup_cons, List.mem_cons, not_or, forall_eq_or_imp]
    constructor
    · rintro ⟨fresh, distinct, apart⟩
      exact ⟨⟨fun member => (apart first member).1 rfl, distinct⟩, fresh, fun key member => (apart key member).2⟩
    · rintro ⟨⟨absent, distinct⟩, fresh, apart⟩
      refine ⟨fresh, distinct, fun key member => ⟨?_, apart key member⟩⟩
      rintro rfl
      exact absent member

@[simp] theorem distinct_ok {κ : Type} [DecidableEq κ] {error : κ → ε} {keys : List κ} {result : Unit} :
    distinctFrom error [] keys = .ok result ↔ keys.Nodup := by
  simp [distinctFrom_ok]

/-- What every step of an accepted loop preserves, the loop preserves. -/
theorem foldEach_preserves {step : σ → α → Except ε σ} {holds : σ → Prop} {items : List α}
    (preserved : ∀ item ∈ items, ∀ before after, step before item = .ok after → holds before → holds after)
    {start finish : σ} (accepted : foldEach step items start = .ok finish) (initial : holds start) :
    holds finish := by
  induction items generalizing start with
  | nil =>
    simp only [foldEach, Except.ok.injEq] at accepted
    exact accepted ▸ initial
  | cons first rest ih =>
    simp only [foldEach, bind_ok] at accepted
    obtain ⟨next, stepped, remaining⟩ := accepted
    have reached := preserved first (List.mem_cons_self ..) start next stepped initial
    exact ih (fun item member => preserved item (List.mem_cons_of_mem _ member)) remaining reached

/-- An error of a loop is an error of one of its steps, taken in a state that the steps before it preserve. -/
theorem foldEach_error {step : σ → α → Except ε σ} {holds : σ → Prop} {items : List α} {error : ε}
    (preserved : ∀ item ∈ items, ∀ before after, step before item = .ok after → holds before → holds after)
    {start : σ} (stopped : foldEach step items start = .error error) (initial : holds start) :
    ∃ item ∈ items, ∃ state, holds state ∧ step state item = .error error := by
  induction items generalizing start with
  | nil => cases stopped
  | cons first rest ih =>
    rw [foldEach, bind_error] at stopped
    rcases stopped with failed | ⟨next, stepped, remaining⟩
    · exact ⟨first, List.mem_cons_self .., start, initial, failed⟩
    · have reached := preserved first (List.mem_cons_self ..) start next stepped initial
      have later := ih (fun item member => preserved item (List.mem_cons_of_mem _ member)) remaining reached
      obtain ⟨item, member, found⟩ := later
      exact ⟨item, List.mem_cons_of_mem _ member, found⟩

/-- Two loops whose steps agree on the states they go through have the same result. -/
theorem foldEach_congr {step other : σ → α → Except ε σ} {holds : σ → Prop} {items : List α}
    (preserved : ∀ item ∈ items, ∀ before after, step before item = .ok after → holds before → holds after)
    (agree : ∀ item ∈ items, ∀ state, holds state → step state item = other state item)
    {start : σ} (initial : holds start) : foldEach step items start = foldEach other items start := by
  induction items generalizing start with
  | nil => rfl
  | cons first rest ih =>
    rw [foldEach, foldEach, ← agree first (List.mem_cons_self ..) start initial]
    cases stepped : step start first with
    | error _ => rfl
    | ok next =>
      have reached := preserved first (List.mem_cons_self ..) start next stepped initial
      rw [ok_bind, ok_bind]
      exact ih (fun item member => preserved item (List.mem_cons_of_mem _ member))
        (fun item member => agree item (List.mem_cons_of_mem _ member)) reached

end Fallible
