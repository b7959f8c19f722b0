import Bastet.Daemon.ExecutorShutdown

/-! Which launches reach their provider: those without an account, that could be started when the runner took them up,
and whose policy lets an online command line in. -/

set_option autoImplicit false

namespace Bastet.Daemon

open Fallible Bastet.Core

variable [Sha256] [SerdeJson]

/-- A launch after a run of the executor. Its receipt repeats what the store has of its run; where its runner has got
past the selection, no account is selected and the run could be started at a moment of the run; and where it has got
to the provider, the policy of its plan lets it. -/
structure Cleared (start : GraphExecutor) (actions : List ExecutorAction) (launch : Launch) (plan : ProviderLaunchPlan) :
    Prop where
  authentic : Authentic (start.run actions).process.db launch.receipt plan
  startable : launch.phase = .authorising ∨ launch.phase = .atProvider → launch.selectsAccount = false ∧
    ∃ taken, taken <+: actions ∧ Startable (start.run taken).process.db launch.receipt plan
  allowed : launch.phase = .atProvider → plan.validateOnlineCliRequirements = .ok ()

namespace Cleared

variable {start : GraphExecutor} {actions : List ExecutorAction} {action : ExecutorAction} {launch : Launch}
  {plan : ProviderLaunchPlan}

omit [Sha256] [SerdeJson] in
theorem run_snoc [Sha256] [SerdeJson] :
    start.run (actions ++ [action]) = (start.run actions).next action := by
  rw [GraphExecutor.run, Machine.run_append]
  rfl

/-- A receipt stays authentic in a step of the executor. -/
theorem authentic_next (graphs : SoundGraphs (start.run actions).process.db)
    (authentic : Authentic (start.run actions).process.db launch.receipt plan) (action : ExecutorAction) :
    Authentic (start.run (actions ++ [action])).process.db launch.receipt plan := by
  rw [run_snoc]
  rcases ((start.run actions).next_turn action).steps with same | ⟨step, stepped⟩
  · exact same ▸ authentic
  · rw [stepped]
    exact authentic.run graphs [step]

/-- What is known of a launch is known after another step, if its phase is the same. -/
theorem next (action : ExecutorAction) (graphs : SoundGraphs (start.run actions).process.db) (cleared : Cleared start actions launch plan) :
    Cleared start (actions ++ [action]) launch plan where
  authentic := authentic_next graphs cleared.authentic action
  startable past := by
    obtain ⟨unselected, taken, begins, startable⟩ := cleared.startable past
    exact ⟨unselected, taken, begins.trans (List.prefix_append _ _), startable⟩
  allowed := cleared.allowed

/-- What is known of a launch that moves on. -/
theorem advance {later : Launch} (graphs : SoundGraphs (start.run actions).process.db)
    (cleared : Cleared start actions launch plan) (advances : Advances (start.run actions).process launch later) :
    Cleared start (actions ++ [action]) later plan := by
  have same := advances.receipt
  have selects : later.selectsAccount = launch.selectsAccount := by
    unfold Launch.selectsAccount
    rw [same]
  have known := cleared.next action graphs
  have authentic : Authentic (start.run actions).process.db later.receipt plan := same ▸ cleared.authentic
  have authorised : later.phase = .authorising → later.selectsAccount = false ∧
      ∃ taken, taken <+: actions ++ [action] ∧ Startable (start.run taken).process.db later.receipt plan := by
    intro reached
    rcases advances.authorising reached with before | ⟨unselected, passed⟩
    · rw [selects, same]
      exact known.startable (.inl before)
    · exact ⟨unselected, actions, List.prefix_append _ _, authentic.preflight_iff.mp passed⟩
  refine ⟨same ▸ known.authentic, ?_, fun reached => ?_⟩
  · rintro (reached | reached)
    · exact authorised reached
    · rw [selects, same]
      rcases advances.atProvider reached with before | ⟨before, _⟩
      · exact known.startable (.inr before)
      · exact known.startable (.inl before)
  · rcases advances.atProvider reached with before | ⟨_, other, loaded, allowed⟩
    · exact known.allowed before
    · have again : ProviderLaunchPlan.load (start.run actions).process.db later.runId = .ok plan := authentic.loaded
      rw [again] at loaded
      exact Except.ok.inj loaded ▸ allowed

/-- A launch that has not got past the selection is cleared by its receipt. -/
theorem of_early (authentic : Authentic (start.run actions).process.db launch.receipt plan)
    (early : launch.phase ≠ .authorising) (short : launch.phase ≠ .atProvider) : Cleared start actions launch plan where
  authentic := authentic
  startable past := by
    rcases past with same | same
    · exact absurd same early
    · exact absurd same short
  allowed same := absurd same short

omit [Sha256] [SerdeJson] in
theorem lose_early (launch : Launch) : launch.lose.phase ≠ .authorising ∧ launch.lose.phase ≠ .atProvider := by
  have ended := launch.lose_ended
  constructor
  · intro same
    rw [same] at ended
    cases ended
  · intro same
    rw [same] at ended
    cases ended

/-- Every launch of a run of the executor is cleared. -/
theorem run {process : DaemonProcess} (graphs : SoundGraphs process.db) (actions : List ExecutorAction) :
    SoundGraphs ((GraphExecutor.start process).run actions).process.db ∧
      ∀ launch ∈ ((GraphExecutor.start process).run actions).launches,
        ∃ plan, Cleared (.start process) actions launch plan := by
  induction actions using List.reverseRecOn with
  | nil => exact ⟨graphs, fun _ member => by cases member⟩
  | append_singleton taken action ih =>
    obtain ⟨sound, known⟩ := ih
    have turn := ((GraphExecutor.start process).run taken).next_turn action
    constructor
    · rw [run_snoc]
      rcases turn.steps with same | ⟨step, stepped⟩
      · exact same ▸ sound
      · rw [stepped]
        exact SoundGraphs.next _ step sound
    · intro launch member
      rw [run_snoc] at member
      cases turn with
      | rested launches =>
        rw [launches] at member
        obtain ⟨plan, cleared⟩ := known launch member
        exact ⟨plan, cleared.next _ sound⟩
      | begun index now ids id command binding db receipt serving committed goes launches =>
        rw [launches] at member
        rcases List.mem_append.mp member with old | new
        · obtain ⟨plan, cleared⟩ := known launch old
          exact ⟨plan, cleared.next _ sound⟩
        · obtain rfl := List.mem_singleton.mp new
          obtain ⟨plan, _, authentic⟩ := beginGraphNodeRunInner_authentic committed
          refine ⟨plan, of_early ?_ (by simp) (by simp)⟩
          rw [run_snoc, goes, (begun_recorded serving committed).1]
          exact authentic
      | moved position old new found advances launches =>
        rw [launches] at member
        rcases List.mem_or_eq_of_mem_set member with kept | rfl
        · obtain ⟨plan, cleared⟩ := known launch kept
          exact ⟨plan, cleared.next _ sound⟩
        · obtain ⟨plan, cleared⟩ := known old (List.mem_of_getElem? found)
          exact ⟨plan, cleared.advance sound advances⟩
      | ended now restart goes launches =>
        rw [launches] at member
        obtain ⟨old, inside, rfl⟩ := List.mem_map.mp member
        obtain ⟨plan, cleared⟩ := known old inside
        refine ⟨plan, of_early ?_ (lose_early old).1 (lose_early old).2⟩
        rw [Launch.lose_receipt]
        exact authentic_next sound cleared.authentic action

end Cleared

/-- A launch that is at its provider has no selected account; its run could be started at a moment since it began, when
the runner had taken it up; and the policy its begin stored lets an online command line in. -/
theorem provider_reached_authorised (first : List Action) (actions : List ExecutorAction) :
    ∀ start, start = GraphExecutor.start (DaemonProcess.fresh.run first) →
      ∀ launch ∈ (start.run actions).launches, launch.phase = .atProvider →
        launch.selectsAccount = false ∧
        ∃ plan, ProviderLaunchPlan.load (start.run actions).process.db launch.runId = .ok plan ∧
          plan.matchesReceipt launch.receipt = true ∧ plan.validateOnlineCliRequirements = .ok () ∧
          ∃ taken, taken <+: actions ∧ Startable (start.run taken).process.db launch.receipt plan := by
  rintro start rfl launch member reached
  have graphs : SoundGraphs (DaemonProcess.fresh.run first).db := SoundGraphs.run SoundGraphs.fresh first
  obtain ⟨plan, cleared⟩ := (Cleared.run graphs actions).2 launch member
  obtain ⟨unselected, startable⟩ := cleared.startable (.inr reached)
  exact ⟨unselected, plan, cleared.authentic.loaded, cleared.authentic.matched, cleared.allowed reached, startable⟩

omit [Sha256] [SerdeJson] in
theorem provider_reached_authorised_opened :
    let reached := @GraphExecutor.run (.table []) SerdeJson.compact
      (.start (@DaemonProcess.run (.table []) SerdeJson.compact .fresh openedRun)) providerRunReached
    ∃ launch ∈ reached.launches, launch.phase = .atProvider ∧
      ∃ plan, @ProviderLaunchPlan.load (.table []) SerdeJson.compact reached.process.db launch.runId = .ok plan ∧
        plan.validateOnlineCliRequirements = .ok () := by
  obtain ⟨_, ⟨launch, member, reached, _⟩, _⟩ := provider_reached
  obtain ⟨_, plan, loaded, _, allowed, _⟩ := @provider_reached_authorised (.table []) SerdeJson.compact openedRun
    providerRunReached _ rfl launch member reached
  exact ⟨launch, member, reached, plan, loaded, allowed⟩

end Bastet.Daemon
