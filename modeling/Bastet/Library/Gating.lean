import Mathlib.Algebra.Group.Nat.Defs
import Mathlib.Data.Finset.Card
import Mathlib.Data.List.Sort
import Mathlib.Logic.Relation

/-! Boards of dependent tasks. A task is engaged only when everything it needs is
done, and a task that needs a broken or barred one is barred. The moves of a
scheduler, each given by what it changes, keep both.
-/

set_option autoImplicit false

namespace Gating

inductive Stage where
  | idle
  | engaged
  | done
  | broken
  | barred
  deriving DecidableEq, Repr

/-- The task was taken on at some time. -/
def Stage.taken : Stage → Prop
  | .engaged | .done | .broken => True
  | .idle | .barred => False

/-- The task makes every task that needs it impossible. -/
def Stage.impedes : Stage → Prop
  | .broken | .barred => True
  | .idle | .engaged | .done => False

variable {ι : Type} {needs : ι → ι → Prop}

structure Sound (needs : ι → ι → Prop) (stage : ι → Stage) : Prop where
  settled : ∀ task, (stage task).taken → ∀ dependency, needs task dependency → stage dependency = .done
  contained : ∀ task dependency, needs task dependency → (stage dependency).impedes → stage task = .barred

theorem Sound.idle {stage : ι → Stage} (fresh : ∀ task, stage task = .idle) : Sound needs stage where
  settled task taken := by
    rw [fresh task] at taken
    exact taken.elim
  contained _ dependency _ impeded := by
    rw [fresh dependency] at impeded
    exact impeded.elim

section Moves

variable {stage next : ι → Stage}

theorem Sound.relabel (sound : Sound needs stage) (same : ∀ task, next task = stage task) : Sound needs next := by
  have equal : next = stage := funext same
  exact equal ▸ sound

/-- Idle tasks whose needs are done may be engaged, any number of them at a time. -/
theorem Sound.engage (sound : Sound needs stage) (chosen : Set ι)
    (idle : ∀ task ∈ chosen, stage task = .idle)
    (ready : ∀ task ∈ chosen, ∀ dependency, needs task dependency → stage dependency = .done)
    (engaged : ∀ task ∈ chosen, next task = .engaged)
    (others : ∀ task, task ∉ chosen → next task = stage task) : Sound needs next := by
  have kept : ∀ task, stage task ≠ .idle → next task = stage task := fun task busy =>
    others task (fun member => busy (idle task member))
  refine ⟨fun task taken dependency needed => ?_, fun task dependency needed impeded => ?_⟩
  · have done : stage dependency = .done := by
      by_cases member : task ∈ chosen
      · exact ready task member dependency needed
      · exact sound.settled task (others task member ▸ taken) dependency needed
    rw [kept dependency (by simp [done]), done]
  · have unchosen : dependency ∉ chosen := by
      intro member
      rw [engaged dependency member] at impeded
      exact impeded
    rw [others dependency unchosen] at impeded
    have barred := sound.contained task dependency needed impeded
    rw [kept task (by simp [barred]), barred]

/-- An engaged task may be done. -/
theorem Sound.settle (sound : Sound needs stage) {finished : ι} (engaged : stage finished = .engaged)
    (done : next finished = .done) (others : ∀ task, task ≠ finished → next task = stage task) :
    Sound needs next := by
  have kept : ∀ task, stage task ≠ .engaged → next task = stage task := fun task apart =>
    others task (fun same => apart (same ▸ engaged))
  refine ⟨fun task taken dependency needed => ?_, fun task dependency needed impeded => ?_⟩
  · have before : (stage task).taken := by
      by_cases same : task = finished
      · rw [same, engaged]
        trivial
      · exact others task same ▸ taken
    have settled := sound.settled task before dependency needed
    rw [kept dependency (by simp [settled]), settled]
  · have apart : dependency ≠ finished := by
      rintro rfl
      rw [done] at impeded
      exact impeded
    rw [others dependency apart] at impeded
    have barred := sound.contained task dependency needed impeded
    rw [kept task (by simp [barred]), barred]

/-- An engaged task may break (or be barred itself) when every idle task of a set closed
under needing is barred with it. -/
theorem Sound.fail (sound : Sound needs stage) {failed : ι} (affected : Set ι)
    (engaged : stage failed = .engaged) (impedes : (next failed).impedes)
    (inside : failed ∈ affected)
    (closed : ∀ task dependency, needs task dependency → dependency ∈ affected → task ∈ affected)
    (barred : ∀ task ∈ affected, task ≠ failed → stage task = .idle → next task = .barred)
    (others : ∀ task, task ≠ failed → ¬(task ∈ affected ∧ stage task = .idle) → next task = stage task) :
    Sound needs next := by
  have kept : ∀ task, stage task ≠ .idle → stage task ≠ .engaged → next task = stage task :=
    fun task busy apart => others task (fun same => apart (same ▸ engaged)) (fun both => busy both.2)
  have before : ∀ task, (next task).taken → (stage task).taken := by
    intro task taken
    by_cases same : task = failed
    · rw [same, engaged]
      trivial
    · by_cases idle : task ∈ affected ∧ stage task = .idle
      · rw [barred task idle.1 same idle.2] at taken
        exact taken.elim
      · exact others task same idle ▸ taken
  refine ⟨fun task taken dependency needed => ?_, fun task dependency needed impeded => ?_⟩
  · have settled := sound.settled task (before task taken) dependency needed
    rw [kept dependency (by simp [settled]) (by simp [settled]), settled]
  · have undone : stage dependency ≠ .done := by
      intro done
      rw [kept dependency (by simp [done]) (by simp [done]), done] at impeded
      exact impeded
    have untaken : ¬(stage task).taken := fun taken => undone (sound.settled task taken dependency needed)
    by_cases reached : dependency ∈ affected
    · have member := closed task dependency needed reached
      cases now : stage task with
      | idle => exact barred task member (by rintro rfl; simp [engaged] at now) now
      | barred => rw [kept task (by simp [now]) (by simp [now]), now]
      | engaged | done | broken => simp [now, Stage.taken] at untaken
    · have same : next dependency = stage dependency :=
        others dependency (by rintro rfl; exact reached inside) (fun both => reached both.1)
      rw [same] at impeded
      have already := sound.contained task dependency needed impeded
      rw [kept task (by simp [already]) (by simp [already]), already]

/-- Tasks no task may rely on (broken ones, and barred ones that nothing impedes any more)
may be idle again. -/
theorem Sound.reopen (sound : Sound needs stage) (chosen : Set ι)
    (stopped : ∀ task ∈ chosen, (stage task).impedes)
    (free : ∀ task ∈ chosen, ∀ dependency, needs task dependency → ¬(stage dependency).impedes)
    (idle : ∀ task ∈ chosen, next task = .idle)
    (others : ∀ task, task ∉ chosen → next task = stage task) : Sound needs next := by
  refine ⟨fun task taken dependency needed => ?_, fun task dependency needed impeded => ?_⟩
  · have unchosen : task ∉ chosen := by
      intro member
      rw [idle task member] at taken
      exact taken
    have settled := sound.settled task (others task unchosen ▸ taken) dependency needed
    have apart : dependency ∉ chosen := by
      intro member
      have impeded := stopped dependency member
      rw [settled] at impeded
      exact impeded
    rw [others dependency apart, settled]
  · have apart : dependency ∉ chosen := by
      intro member
      rw [idle dependency member] at impeded
      exact impeded
    rw [others dependency apart] at impeded
    have unchosen : task ∉ chosen := fun member => free task member dependency needed impeded
    rw [others task unchosen, sound.contained task dependency needed impeded]

end Moves

/-- A broken task needs only tasks that are done, so reopening it alone is a reopening. -/
theorem Sound.broken_free {stage : ι → Stage} (sound : Sound needs stage) {task : ι}
    (broken : stage task = .broken) (dependency : ι) (needed : needs task dependency) :
    ¬(stage dependency).impedes := by
  have settled := sound.settled task (by simp [broken, Stage.taken]) dependency needed
  simp [settled, Stage.impedes]

/-- Every task of the list needs only tasks that come after it. -/
def Ordered (needs : ι → ι → Prop) : List ι → Prop
  | [] => True
  | first :: rest => (∀ dependency, needs first dependency → dependency ∈ rest) ∧ Ordered needs rest

/-- Where the tasks can be ordered and none is engaged, an idle task leads to one that is ready. -/
theorem Sound.progress {stage : ι → Stage} (sound : Sound needs stage) {order : List ι}
    (ordered : Ordered needs order) (calm : ∀ task ∈ order, stage task ≠ .engaged) {task : ι} (member : task ∈ order)
    (idle : stage task = .idle) :
    ∃ ready ∈ order, stage ready = .idle ∧ ∀ dependency, needs ready dependency → stage dependency = .done := by
  induction order generalizing task with
  | nil => cases member
  | cons first rest ih =>
    obtain ⟨later, remaining⟩ := ordered
    have calmRest : ∀ task ∈ rest, stage task ≠ .engaged := fun task inside => calm task (List.mem_cons_of_mem _ inside)
    by_cases waiting : ∃ other ∈ rest, stage other = .idle
    · obtain ⟨other, inside, otherIdle⟩ := waiting
      obtain ⟨ready, listed, found⟩ := ih remaining calmRest inside otherIdle
      exact ⟨ready, List.mem_cons_of_mem _ listed, found⟩
    · have same : task = first := by
        rcases List.mem_cons.mp member with same | inside
        · exact same
        · exact absurd ⟨task, inside, idle⟩ waiting
      subst same
      refine ⟨task, List.mem_cons_self .., idle, fun dependency needed => ?_⟩
      have inside := later dependency needed
      have unimpeded : ¬(stage dependency).impedes := by
        intro impeded
        have barred := sound.contained task dependency needed impeded
        rw [idle] at barred
        cases barred
      cases state : stage dependency with
      | done => rfl
      | idle => exact absurd ⟨dependency, inside, state⟩ waiting
      | engaged => exact absurd state (calmRest dependency inside)
      | broken | barred =>
        rw [state] at unimpeded
        exact absurd trivial unimpeded

/-- A listed task is above no endless chain of needs, so what holds of a task whenever it holds of all
the task needs, holds of every listed task. -/
theorem Ordered.acc {order : List ι} (ordered : Ordered needs order) {task : ι} (member : task ∈ order) :
    Acc (fun dependency task => needs task dependency) task := by
  induction order generalizing task with
  | nil => cases member
  | cons first rest ih =>
    obtain ⟨later, remaining⟩ := ordered
    rcases List.mem_cons.mp member with rfl | inside
    · exact .intro task fun dependency needed => ih remaining (later dependency needed)
    · exact ih remaining inside

/-- Listed tasks do not need themselves, directly or through others. -/
theorem Ordered.acyclic {order : List ι} (ordered : Ordered needs order) {task : ι} (member : task ∈ order) :
    ¬Relation.TransGen needs task task := by
  have founded := ordered.acc member
  clear member
  induction founded with
  | intro task _ ih =>
    -- a cycle through the task passes through something the task needs
    intro cycle
    obtain ⟨dependency, needed, back⟩ := Relation.TransGen.head'_iff.mp cycle
    exact ih dependency needed (Relation.TransGen.tail' back needed)

end Gating
