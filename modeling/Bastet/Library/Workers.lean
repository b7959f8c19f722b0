import Mathlib.Data.List.Basic
import Mathlib.Data.List.Nodup

/-! Workers under a shared registry and a shared counter. Each worker has a key of its own; the registry has the keys of
the workers that hold an entry, and the counter their number that are counted. -/

set_option autoImplicit false

namespace Workers

variable {Worker Key : Type} (key : Worker → Key) (holds counts : Worker → Bool)

/-- The registry after a worker has moved. -/
def enter [DecidableEq Key] (registry : List Key) (old new : Worker) : List Key :=
  match holds old, holds new with
  | false, true => registry ++ [key new]
  | true, false => registry.filter fun other => other ≠ key old
  | _, _ => registry

/-- The counter after a worker has moved. -/
def count (counter : Nat) (old new : Worker) : Nat :=
  match counts old, counts new with
  | false, true => counter + 1
  | true, false => counter - 1
  | _, _ => counter

/-- The registry and the counter are exact. -/
structure Accounted (registry : List Key) (counter : Nat) (workers : List Worker) : Prop where
  distinct : (workers.map key).Nodup
  once : registry.Nodup
  entries : ∀ wanted, wanted ∈ registry ↔ ∃ worker ∈ workers, key worker = wanted ∧ holds worker = true
  counter : counter = workers.countP counts

variable {key holds counts} {registry : List Key} {counter : Nat} {workers : List Worker}

theorem Accounted.nil : Accounted key holds counts [] 0 [] := by
  refine ⟨List.nodup_nil, List.nodup_nil, fun wanted => ⟨fun member => ?_, fun ⟨_, member, _⟩ => ?_⟩, rfl⟩
  · cases member
  · cases member

/-- A worker with a key is the worker with this key. -/
theorem Accounted.unique (accounted : Accounted key holds counts registry counter workers) {first second : Worker}
    (one : first ∈ workers) (two : second ∈ workers) (same : key first = key second) : first = second :=
  List.inj_on_of_nodup_map accounted.distinct one two same

/-- A worker without an entry can make one. -/
theorem Accounted.free (accounted : Accounted key holds counts registry counter workers) {worker : Worker}
    (member : worker ∈ workers) (idle : holds worker = false) : key worker ∉ registry := by
  intro entered
  obtain ⟨other, inside, same, held⟩ := (accounted.entries _).mp entered
  obtain rfl := accounted.unique inside member same
  rw [idle] at held
  cases held

/-- The counter is zero exactly when no worker is counted. -/
theorem Accounted.pos_iff (accounted : Accounted key holds counts registry counter workers) :
    counter ≠ 0 ↔ ∃ worker ∈ workers, counts worker = true := by
  rw [accounted.counter, Nat.ne_zero_iff_zero_lt, List.countP_pos_iff]

/-- A worker with a new key comes without an entry, and uncounted. -/
theorem Accounted.add (accounted : Accounted key holds counts registry counter workers) {worker : Worker}
    (fresh : key worker ∉ workers.map key) (idle : holds worker = false) (uncounted : counts worker = false) :
    Accounted key holds counts registry counter (workers ++ [worker]) where
  distinct := by
    rw [List.map_append, List.map_singleton, List.nodup_append]
    refine ⟨accounted.distinct, List.nodup_singleton _, fun one inside two last => ?_⟩
    obtain rfl := List.mem_singleton.mp last
    exact fun same => fresh (same ▸ inside)
  once := accounted.once
  entries wanted := by
    rw [accounted.entries]
    constructor
    · rintro ⟨other, inside, found⟩
      exact ⟨other, List.mem_append_left _ inside, found⟩
    · rintro ⟨other, inside, same, held⟩
      rcases List.mem_append.mp inside with before | last
      · exact ⟨other, before, same, held⟩
      · rw [List.mem_singleton.mp last, idle] at held
        cases held
  counter := by
    rw [List.countP_append, List.countP_singleton, uncounted, accounted.counter]
    rfl

/-- What a worker keeps when it moves, the list keeps. -/
theorem map_set {Value : Type} {value : Worker → Value} {i : Nat} {old new : Worker} (found : workers[i]? = some old)
    (same : value new = value old) : (workers.set i new).map value = workers.map value := by
  obtain ⟨bound, rfl⟩ := List.getElem?_eq_some_iff.mp found
  have place : i < (workers.map value).length := by
    rw [List.length_map]
    exact bound
  have named : (workers.map value)[i] = value workers[i] := List.getElem_map _
  rw [List.map_set, same, ← named, List.set_getElem_self]

/-- What the other workers of a list are after one of them has moved. -/
theorem mem_set {i : Nat} {old new : Worker} (distinct : (workers.map key).Nodup) (found : workers[i]? = some old)
    (same : key new = key old) (other : Worker) : other ∈ workers.set i new ↔ other = new ∨ (other ∈ workers ∧ key other ≠ key old) := by
  obtain ⟨bound, rfl⟩ := List.getElem?_eq_some_iff.mp found
  rw [List.mem_iff_getElem]
  constructor
  · rintro ⟨j, inside, rfl⟩
    rw [List.getElem_set]
    split
    · exact .inl rfl
    · rename_i apart
      rw [List.length_set] at inside
      refine .inr ⟨List.getElem_mem inside, fun clash => apart ?_⟩
      have first : i < (workers.map key).length := by simpa using bound
      have second : j < (workers.map key).length := by simpa using inside
      have keys : (workers.map key)[i] = (workers.map key)[j] := by simpa using clash.symm
      exact distinct.getElem_inj_iff.mp keys
  · rintro (rfl | ⟨member, apart⟩)
    · exact ⟨i, by simpa using bound, by simp⟩
    · obtain ⟨j, inside, rfl⟩ := List.mem_iff_getElem.mp member
      refine ⟨j, by simpa using inside, ?_⟩
      rw [List.getElem_set, if_neg]
      rintro rfl
      exact apart rfl

/-- A worker moves: its entry is made or removed, and it is counted or counted no more. -/
theorem Accounted.move [DecidableEq Key] (accounted : Accounted key holds counts registry counter workers) {i : Nat} {old new : Worker}
    (found : workers[i]? = some old) (same : key new = key old) :
    Accounted key holds counts (enter key holds registry old new) (count counts counter old new)
      (workers.set i new) := by
  have member : old ∈ workers := List.mem_of_getElem? found
  obtain ⟨bound, at_⟩ := List.getElem?_eq_some_iff.mp found
  have moved := mem_set accounted.distinct found same
  have names := map_set found same
  have others : ∀ wanted, (∃ worker ∈ workers.set i new, key worker = wanted ∧ holds worker = true) ↔
      (key old = wanted ∧ holds new = true) ∨
      ∃ worker ∈ workers, key worker ≠ key old ∧ key worker = wanted ∧ holds worker = true := by
    intro wanted
    simp only [moved, or_and_right, exists_or, exists_eq_left, and_assoc, same]
  have before : ∀ wanted, wanted ∈ registry ↔ (key old = wanted ∧ holds old = true) ∨
      ∃ worker ∈ workers, key worker ≠ key old ∧ key worker = wanted ∧ holds worker = true := by
    intro wanted
    rw [accounted.entries]
    constructor
    · rintro ⟨worker, inside, rfl, held⟩
      by_cases own : key worker = key old
      · obtain rfl := accounted.unique inside member own
        exact .inl ⟨rfl, held⟩
      · exact .inr ⟨worker, inside, own, rfl, held⟩
    · rintro (⟨rfl, held⟩ | ⟨worker, inside, _, rest⟩)
      · exact ⟨old, member, rfl, held⟩
      · exact ⟨worker, inside, rest⟩
  refine ⟨names ▸ accounted.distinct, ?_, fun wanted => ?_, ?_⟩
  · unfold enter
    split
    · rename_i idle _
      rw [List.nodup_append]
      refine ⟨accounted.once, List.nodup_singleton _, fun one inside two last clash => ?_⟩
      obtain rfl := List.mem_singleton.mp last
      exact accounted.free member idle (same ▸ clash ▸ inside)
    · exact accounted.once.filter _
    · exact accounted.once
  · rw [others]
    unfold enter
    cases was : holds old <;> cases is_ : holds new
    · rw [before, was]
    · rw [List.mem_append, List.mem_singleton, before, was, same]
      simp only [Bool.false_eq_true, and_false, false_or, and_true]
      rw [or_comm, eq_comm]
    · rw [List.mem_filter, before, was, decide_eq_true_eq]
      simp only [and_true, Bool.false_eq_true, and_false, false_or]
      constructor
      · rintro ⟨own | other, apart⟩
        · exact absurd own.symm apart
        · exact other
      · rintro ⟨worker, inside, apart, rfl, held⟩
        exact ⟨.inr ⟨worker, inside, apart, rfl, held⟩, apart⟩
    · rw [before, was]
  · have total := List.countP_set (p := counts) (l := workers) (i := i) (a := new) bound
    have least := List.boole_getElem_le_countP (p := counts) (l := workers) (i := i) bound
    rw [at_] at total least
    rw [total, accounted.counter]
    unfold count
    cases was : counts old <;> cases is_ : counts new <;> simp_all

/-- The workers that are left hold no entry, and are not counted. -/
theorem Accounted.clear (accounted : Accounted key holds counts registry counter workers) {change : Worker → Worker}
    (same : ∀ worker, key (change worker) = key worker) (idle : ∀ worker, holds (change worker) = false)
    (uncounted : ∀ worker, counts (change worker) = false) :
    Accounted key holds counts [] 0 (workers.map change) where
  distinct := by
    rw [List.map_map, show key ∘ change = key from funext same]
    exact accounted.distinct
  once := List.nodup_nil
  entries wanted := by
    constructor
    · intro member
      cases member
    · rintro ⟨worker, inside, _, held⟩
      obtain ⟨old, _, rfl⟩ := List.mem_map.mp inside
      rw [idle] at held
      cases held
  counter := by
    rw [List.countP_map, eq_comm, List.countP_eq_zero]
    intro worker _ counted
    rw [Function.comp_apply, uncounted] at counted
    cases counted

end Workers
