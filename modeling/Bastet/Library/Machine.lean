import Mathlib.Algebra.Group.Nat.Defs
import Mathlib.Data.Finset.Card
import Mathlib.Data.List.Sort
import Mathlib.Logic.Relation

/-! Deterministic machines driven by actions: runs, reachability under a
condition on each action taken, and the two inductions every result over whole
runs uses. -/

set_option autoImplicit false

namespace Machine

variable {State Action : Type}

/-- The state after a list of actions. -/
def run (next : State → Action → State) (state : State) (actions : List Action) : State :=
  actions.foldl next state

variable {next : State → Action → State}

@[simp] theorem run_nil (state : State) : run next state [] = state := rfl

@[simp] theorem run_cons (state : State) (first : Action) (rest : List Action) :
    run next state (first :: rest) = run next (next state first) rest := rfl

theorem run_append (state : State) (first rest : List Action) :
    run next state (first ++ rest) = run next (run next state first) rest :=
  List.foldl_append

/-- What every action preserves, a run preserves. -/
theorem run_preserves {holds : State → Prop}
    (preserved : ∀ state action, holds state → holds (next state action))
    {state : State} (initial : holds state) (actions : List Action) : holds (run next state actions) := by
  induction actions generalizing state with
  | nil => exact initial
  | cons first rest ih => exact ih (preserved state first initial)

/-- Every action of the run is allowed in the state in which it is taken. -/
def Allowed (next : State → Action → State) (allowed : State → Action → Prop) : State → List Action → Prop
  | _, [] => True
  | state, first :: rest => allowed state first ∧ Allowed next allowed (next state first) rest

instance Allowed.decidable {allowed : State → Action → Prop} [∀ state action, Decidable (allowed state action)] :
    (state : State) → (actions : List Action) → Decidable (Allowed next allowed state actions)
  | _, [] => inferInstanceAs (Decidable True)
  | state, first :: rest =>
    have : Decidable (Allowed next allowed (next state first) rest) := Allowed.decidable _ rest
    inferInstanceAs (Decidable (allowed state first ∧ Allowed next allowed (next state first) rest))

theorem Allowed.append {allowed : State → Action → Prop} {state : State} {first rest : List Action}
    (whole : Allowed next allowed state (first ++ rest)) :
    Allowed next allowed state first ∧ Allowed next allowed (run next state first) rest := by
  induction first generalizing state with
  | nil => exact ⟨trivial, whole⟩
  | cons action others ih =>
    obtain ⟨taken, remaining⟩ := whole
    obtain ⟨before, after⟩ := ih remaining
    exact ⟨⟨taken, before⟩, after⟩

/-- What every allowed action preserves, a run of allowed actions preserves. -/
theorem allowed_run_preserves {allowed : State → Action → Prop} {holds : State → Prop}
    (preserved : ∀ state action, allowed state action → holds state → holds (next state action))
    {state : State} (initial : holds state) {actions : List Action}
    (permitted : Allowed next allowed state actions) : holds (run next state actions) := by
  induction actions generalizing state with
  | nil => exact initial
  | cons first rest ih => exact ih (preserved state first permitted.1 initial) permitted.2

/-- A reflexive and transitive relation that every action respects relates the ends of
a run, while an invariant holds along it. -/
theorem run_relates (holds : State → Prop) (related : State → State → Prop)
    (reflexive : ∀ state, related state state)
    (transitive : ∀ first second third, related first second → related second third → related first third)
    (preserved : ∀ state action, holds state → holds (next state action))
    (respected : ∀ state action, holds state → related state (next state action))
    {state : State} (initial : holds state) (actions : List Action) :
    related state (run next state actions) := by
  induction actions generalizing state with
  | nil => exact reflexive state
  | cons first rest ih =>
    exact transitive _ _ _ (respected state first initial) (ih (preserved state first initial))

/-- The same along a run of allowed actions. -/
theorem allowed_run_relates {allowed : State → Action → Prop} (related : State → State → Prop)
    (reflexive : ∀ state, related state state)
    (transitive : ∀ first second third, related first second → related second third → related first third)
    (respected : ∀ state action, allowed state action → related state (next state action))
    {state : State} {actions : List Action} (permitted : Allowed next allowed state actions) :
    related state (run next state actions) := by
  induction actions generalizing state with
  | nil => exact reflexive state
  | cons first rest ih =>
    exact transitive _ _ _ (respected state first permitted.1) (ih permitted.2)

/-- Where an allowed action keeps an invariant and any other action breaks what follows from it, what follows
holds along a run exactly when the run takes allowed actions only. -/
theorem holds_along_iff {allowed : State → Action → Prop} {sound holds : State → Prop}
    (implied : ∀ state, sound state → holds state)
    (kept : ∀ state action, sound state → allowed state action → sound (next state action))
    (broken : ∀ state action, sound state → ¬allowed state action → ¬holds (next state action))
    {state : State} (initial : sound state) (actions : List Action) :
    (∀ taken, taken <+: actions → holds (run next state taken)) ↔ Allowed next allowed state actions := by
  induction actions generalizing state with
  | nil =>
    refine ⟨fun _ => trivial, fun _ taken begins => ?_⟩
    obtain rfl := List.prefix_nil.mp begins
    exact implied state initial
  | cons first rest ih =>
    constructor
    · intro along
      have permitted : allowed state first := by
        by_contra refused
        exact broken state first initial refused (along [first] ⟨rest, rfl⟩)
      refine ⟨permitted, (ih (kept state first initial permitted)).mp fun taken begins => ?_⟩
      exact along (first :: taken) (List.cons_prefix_cons.mpr ⟨rfl, begins⟩)
    · rintro ⟨permitted, remaining⟩ taken begins
      cases taken with
      | nil => exact implied state initial
      | cons action others =>
        obtain ⟨rfl, further⟩ := List.cons_prefix_cons.mp begins
        exact (ih (kept state action initial permitted)).mpr remaining others further

end Machine
