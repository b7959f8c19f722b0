import Bastet.Library.Machine

/-! Threads that all get their turns. A measure that no action raises, and that the thread a state waits for lowers,
is used up after as many rounds in which every thread acts. -/

set_option autoImplicit false

namespace Machine

variable {State Action Thread : Type} {next : State → Action → State}

/-- A measure of what is left to do, the thread that has to act next, and the states in which all is done. -/
structure Descends (next : State → Action → State) (performer : Action → Option Thread) (active done : State → Prop)
    (measure : State → Nat) (waits : State → Thread) : Prop where
  kept : ∀ state action, active state → done (next state action) ∨ (active (next state action) ∧
    (measure (next state action) < measure state ∨
      (measure (next state action) = measure state ∧ waits (next state action) = waits state)))
  helps : ∀ state action, active state → performer action = some (waits state) → done (next state action) ∨
    (active (next state action) ∧ measure (next state action) < measure state)
  stays : ∀ state action, done state → done (next state action)

variable {performer : Action → Option Thread} {active done : State → Prop} {measure : State → Nat}
  {waits : State → Thread}

theorem Descends.done_run (descends : Descends next performer active done measure waits) {state : State}
    (finished : done state) (actions : List Action) : done (run next state actions) :=
  run_preserves descends.stays finished actions

/-- No list of actions raises the measure, and one that leaves it leaves the thread that has to act. -/
theorem Descends.actions (descends : Descends next performer active done measure waits) {state : State}
    (working : active state) (actions : List Action) : done (run next state actions) ∨ (active (run next state actions) ∧
      (measure (run next state actions) < measure state ∨
        (measure (run next state actions) = measure state ∧ waits (run next state actions) = waits state))) := by
  induction actions generalizing state with
  | nil => exact .inr ⟨working, .inr ⟨rfl, rfl⟩⟩
  | cons first rest ih =>
    obtain finished | ⟨still, lower⟩ := descends.kept state first working
    · exact .inl (descends.done_run finished rest)
    · obtain finished | ⟨last, further⟩ := ih still
      · exact .inl finished
      · refine .inr ⟨last, ?_⟩
        rw [run_cons]
        obtain lower | ⟨same, waiting⟩ := lower <;> obtain further | ⟨again, waits_on⟩ := further
        · exact .inl (further.trans lower)
        · exact .inl (again ▸ lower)
        · exact .inl (same ▸ further)
        · exact .inr ⟨again.trans same, waits_on.trans waiting⟩

/-- A round in which the awaited thread acts lowers the measure. -/
theorem Descends.round (descends : Descends next performer active done measure waits) {state : State}
    (working : active state) {actions : List Action} (acts : ∃ action ∈ actions, performer action = some (waits state)) :
    done (run next state actions) ∨
      (active (run next state actions) ∧ measure (run next state actions) < measure state) := by
  induction actions generalizing state with
  | nil =>
    obtain ⟨_, member, _⟩ := acts
    cases member
  | cons first rest ih =>
    rw [run_cons]
    obtain ⟨action, member, performs⟩ := acts
    obtain finished | ⟨still, lower | ⟨same, waiting⟩⟩ := descends.kept state first working
    · exact .inl (descends.done_run finished rest)
    · obtain finished | ⟨last, further⟩ := descends.actions still rest
      · exact .inl finished
      · exact .inr ⟨last, by omega⟩
    · obtain rfl | later := List.mem_cons.mp member
      · obtain finished | ⟨_, strictly⟩ := descends.helps state action working performs
        · exact .inl (descends.done_run finished rest)
        · omega
      · obtain finished | ⟨last, further⟩ := ih still ⟨action, later, waiting ▸ performs⟩
        · exact .inl finished
        · exact .inr ⟨last, by omega⟩

/-- All is done after more rounds than the measure counts, when every thread acts in each of them. -/
theorem Descends.rounds (descends : Descends next performer active done measure waits) {state : State}
    (working : active state) {rounds : List (List Action)}
    (fair : ∀ round ∈ rounds, ∀ thread, ∃ action ∈ round, performer action = some thread)
    (enough : measure state < rounds.length) : done (run next state rounds.flatten) := by
  induction rounds generalizing state with
  | nil => exact absurd enough (Nat.not_lt_zero _)
  | cons first rest ih =>
    rw [List.flatten_cons, run_append]
    obtain finished | ⟨still, lower⟩ := descends.round working (fair first (List.mem_cons_self ..) (waits state))
    · exact descends.done_run finished rest.flatten
    · apply ih still fun round member => fair round (List.mem_cons_of_mem _ member)
      rw [List.length_cons] at enough
      omega

end Machine
