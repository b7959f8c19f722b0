import Bastet.Library.Machine

/-! Documents with a revision, in a machine that changes them. A change of a document
increases its revision, and a writer says at which revision its change is to take effect.
-/

set_option autoImplicit false

namespace Versions

variable {State Action Key Content : Type}

/-- A document with its revision, and what it may be later. -/
def Follows (before after : Nat × Content) : Prop :=
  after = before ∨ before.1 < after.1

theorem Follows.refl (document : Nat × Content) : Follows document document := .inl rfl

theorem Follows.trans {first second third : Nat × Content} (one : Follows first second) (other : Follows second third) :
    Follows first third := by
  rcases one with rfl | increased
  · exact other
  · rcases other with rfl | further
    · exact .inr increased
    · exact .inr (increased.trans further)

theorem Follows.revision_le {before after : Nat × Content} (follows : Follows before after) : before.1 ≤ after.1 := by
  rcases follows with rfl | increased
  · exact Nat.le_refl _
  · exact increased.le

/-- A revision determines the content. -/
theorem Follows.determined {before after : Nat × Content} (follows : Follows before after) (same : after.1 = before.1) :
    after = before := by
  rcases follows with rfl | increased
  · rfl
  · omega

variable (read : State → Key → Option (Nat × Content))

/-- No document disappears, and each is followed by what it is later. -/
def Revises (before after : State) : Prop :=
  ∀ key document, read before key = some document → ∃ later, read after key = some later ∧ Follows document later

theorem Revises.refl (state : State) : Revises read state state :=
  fun _ document stored => ⟨document, stored, .refl document⟩

variable {read}

theorem Revises.trans {first second third : State} (one : Revises read first second)
    (other : Revises read second third) : Revises read first third := by
  intro key document stored
  obtain ⟨middle, reached, follows⟩ := one key document stored
  obtain ⟨later, ended, further⟩ := other key middle reached
  exact ⟨later, ended, follows.trans further⟩

section Writers

variable {next : State → Action → State} {holds : State → Prop}
  (preserved : ∀ state action, holds state → holds (next state action))
  (revises : ∀ state action, holds state → Revises read state (next state action))
include preserved revises

theorem run_revises {state : State} (initial : holds state) (actions : List Action) :
    Revises read state (Machine.run next state actions) :=
  Machine.run_relates holds (Revises read) (Revises.refl read) (fun _ _ _ => .trans) preserved revises initial actions

/-- Of two writers that expect the same revision of a document, only one takes effect: when the
first has changed the document, the second leaves everything as it is. -/
theorem expected_once {idle : State → State → Prop} (quiet : ∀ before after, idle before after → read after = read before)
    {expects : Action → Key → Nat → Prop}
    (honoured : ∀ state action key revision, expects action key revision →
      idle state (next state action) ∨ ∃ content, read state key = some (revision, content))
    {state : State} (initial : holds state) {first second : Action} (between : List Action) {key : Key}
    {revision : Nat} (one : expects first key revision) (other : expects second key revision)
    (effective : read (next state first) key ≠ read state key) :
    let later := Machine.run next (next state first) between
    idle later (next later second) := by
  intro later
  have found : ∃ content, read state key = some (revision, content) := by
    refine (honoured state first key revision one).resolve_left fun idle => ?_
    exact effective (by rw [quiet _ _ idle])
  refine (honoured later second key revision other).resolve_right fun again => ?_
  obtain ⟨content, before⟩ := found
  obtain ⟨content', after⟩ := again
  have reached : holds (next state first) := preserved state first initial
  obtain ⟨middle, written, follows⟩ := revises state first initial key _ before
  obtain ⟨last, stored, further⟩ := run_revises preserved revises reached between key _ written
  obtain rfl := Option.some.inj (stored.symm.trans after)
  rcases follows with rfl | increased
  · exact effective (written.trans before.symm)
  · -- the revision has passed the one the second writer expects
    have bound := further.revision_le
    dsimp only at increased bound
    omega

end Writers

end Versions
