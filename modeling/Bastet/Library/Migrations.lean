import Bastet.Library.Fallible
import Bastet.Library.Machine

/-! Stores whose schema is brought up to date one version at a time. A migration is a
transaction that also records its version in a ledger. An opener reads the ledger once
and then applies what is missing; any number of openers do so at the same time, each
may fail or be killed at any point, and one that has opened the store uses it. -/

set_option autoImplicit false

namespace Migrations

open Fallible

variable {State Error Use Opener : Type}

/-- A change of the schema, and the version it leads to. -/
structure Migration (State Error : Type) where
  version : Nat
  script : State → Except Error State

inductive OpenError (Error : Type) where
  /-- The statement or the commit failed for a reason outside the schema. -/
  | storage
  | unsupported (actual supported : Nat)
  /-- The version is in the ledger already. -/
  | recorded
  | script (error : Error)

/-- Where an opener stands. -/
inductive Opening (State Error : Type) where
  | started
  /-- The ledger exists. -/
  | prepared
  | migrating (rest : List (Migration State Error))
  | opened
  | failed (error : OpenError Error)
  | killed

/-- The store, the openers, and what has been done to the store since it was opened. -/
structure Store (State Error Use Opener : Type) where
  /-- The versions of the ledger, if it exists. -/
  versions : Option (List Nat)
  state : State
  opening : Opener → Opening State Error
  uses : List Use

inductive Action (Use Opener : Type) where
  | step (opener : Opener) (fault : Bool)
  | kill (opener : Opener)
  | use (opener : Opener) (use : Use)

/-- The greatest version, or zero. -/
def greatest (versions : List Nat) : Nat :=
  versions.foldr max 0

/-- The migrations one after the other. -/
def migrate : List (Migration State Error) → State → Except Error State :=
  foldEach fun state migration => migration.script state

/-- A migration as a transaction: its script, and its entry in the ledger. -/
def transact (migration : Migration State Error) (versions : List Nat) (state : State) :
    Except (OpenError Error) (List Nat × State) := do
  let changed ← (migration.script state).mapError .script
  rejectIf (decide (migration.version ∈ versions)) .recorded
  return (versions ++ [migration.version], changed)

def Opening.proceed : List (Migration State Error) → Opening State Error
  | [] => .opened
  | migration :: rest => .migrating (migration :: rest)

variable (migrations : List (Migration State Error)) (supported : Nat) (apply : Use → State → State)
  [DecidableEq Opener]

namespace Store

def move (store : Store State Error Use Opener) (opener : Opener) (opening : Opening State Error) :
    Store State Error Use Opener :=
  { store with opening := Function.update store.opening opener opening }

/-- An opener's next step. With a `fault` nothing is written. -/
def step (store : Store State Error Use Opener) (opener : Opener) (fault : Bool) : Store State Error Use Opener :=
  match store.opening opener with
  | .started =>
    if fault then store.move opener (.failed .storage)
    else { store.move opener .prepared with versions := some (store.versions.getD []) }
  | .prepared =>
    if fault then store.move opener (.failed .storage)
    else if supported < greatest (store.versions.getD []) then
      store.move opener (.failed (.unsupported (greatest (store.versions.getD [])) supported))
    else store.move opener (.proceed (migrations.filter fun migration =>
      greatest (store.versions.getD []) < migration.version))
  | .migrating [] => store.move opener .opened
  | .migrating (migration :: rest) =>
    if fault then store.move opener (.failed .storage)
    else match transact migration (store.versions.getD []) store.state with
      | .ok (versions, state) => { store.move opener (.proceed rest) with versions := some versions, state }
      | .error error => store.move opener (.failed error)
  | .opened | .failed _ | .killed => store

def next (store : Store State Error Use Opener) : Action Use Opener → Store State Error Use Opener
  | .step opener fault => store.step migrations supported opener fault
  | .kill opener => store.move opener .killed
  | .use opener use =>
    match store.opening opener with
    | .opened => { store with state := apply use store.state, uses := store.uses ++ [use] }
    | _ => store

end Store

variable {migrations supported apply}

theorem transact_ok {migration : Migration State Error} {versions after : List Nat} {state changed : State} :
    transact migration versions state = .ok (after, changed) ↔ migration.script state = .ok changed ∧
      migration.version ∉ versions ∧ after = versions ++ [migration.version] := by
  simp only [transact, bind_ok, mapError_ok, exists_unit, rejectIf_ok, decide_eq_false_iff_not, pure_ok, Prod.mk.injEq]
  constructor
  · rintro ⟨_, ran, unrecorded, rfl, rfl⟩
    exact ⟨ran, unrecorded, rfl⟩
  · rintro ⟨ran, unrecorded, rfl⟩
    exact ⟨changed, ran, unrecorded, rfl, rfl⟩

theorem migrate_append {first rest : List (Migration State Error)} {state : State} :
    migrate (first ++ rest) state = migrate first state >>= migrate rest := by
  induction first generalizing state with
  | nil => rfl
  | cons migration others ih =>
    simp only [migrate, List.cons_append, foldEach] at ih ⊢
    cases migration.script state with
    | error error => rfl
    | ok middle => exact ih

theorem le_greatest {versions : List Nat} {version : Nat} (member : version ∈ versions) : version ≤ greatest versions := by
  induction versions with
  | nil => cases member
  | cons first rest ih =>
    rw [greatest, List.foldr_cons]
    rcases List.mem_cons.mp member with rfl | inside
    · exact Nat.le_max_left _ _
    · exact (ih inside).trans (Nat.le_max_right _ _)

theorem greatest_lt {versions : List Nat} {bound : Nat} (positive : 0 < bound) (below : ∀ version ∈ versions, version < bound) :
    greatest versions < bound := by
  induction versions with
  | nil => exact positive
  | cons first rest ih =>
    rw [greatest, List.foldr_cons]
    exact Nat.max_lt.mpr ⟨below first List.mem_cons_self, ih fun version inside => below version (List.mem_cons_of_mem _ inside)⟩

/-- The versions increase from one, and none is beyond what is supported. -/
structure Increasing (migrations : List (Migration State Error)) (supported : Nat) : Prop where
  sorted : migrations.Pairwise fun first second => first.version < second.version
  positive : ∀ migration ∈ migrations, 0 < migration.version
  bounded : ∀ migration ∈ migrations, migration.version ≤ supported

/-- The versions of so many migrations. -/
def versionsOf (migrations : List (Migration State Error)) (count : Nat) : List Nat :=
  (migrations.take count).map Migration.version

namespace Increasing

variable (increasing : Increasing migrations supported) {count : Nat}
include increasing

theorem unrecorded {migration : Migration State Error} (found : migrations[count]? = some migration) :
    migration.version ∉ versionsOf migrations count := by
  intro recorded
  obtain ⟨earlier, inside, same⟩ := List.mem_map.mp recorded
  have later : migration ∈ migrations.drop count := by
    rw [List.mem_drop_iff_getElem]
    obtain ⟨bound, rfl⟩ := List.getElem?_eq_some_iff.mp found
    exact ⟨0, by simpa using bound, by simp⟩
  have sorted := increasing.sorted
  rw [← List.take_append_drop count migrations, List.pairwise_append] at sorted
  have apart := sorted.2.2 earlier inside migration later
  omega

/-- What is missing after so many migrations is the rest of them. -/
theorem missing : migrations.filter (fun migration => greatest (versionsOf migrations count) < migration.version) =
    migrations.drop count := by
  have sorted := increasing.sorted
  rw [← List.take_append_drop count migrations, List.pairwise_append] at sorted
  have applied : (migrations.take count).filter
      (fun migration => greatest (versionsOf migrations count) < migration.version) = [] := by
    rw [List.filter_eq_nil_iff]
    intro migration inside
    have small : migration.version ≤ greatest (versionsOf migrations count) := le_greatest (List.mem_map_of_mem inside)
    simpa using small
  have pending : (migrations.drop count).filter
      (fun migration => greatest (versionsOf migrations count) < migration.version) = migrations.drop count := by
    rw [List.filter_eq_self]
    intro migration inside
    refine decide_eq_true (greatest_lt (increasing.positive migration (List.mem_of_mem_drop inside)) ?_)
    intro version recorded
    obtain ⟨earlier, before, rfl⟩ := List.mem_map.mp recorded
    exact sorted.2.2 earlier before migration inside
  calc migrations.filter (fun migration => greatest (versionsOf migrations count) < migration.version)
    _ = (migrations.take count ++ migrations.drop count).filter
          (fun migration => greatest (versionsOf migrations count) < migration.version) := by
        rw [List.take_append_drop]
    _ = [] ++ migrations.drop count := by rw [List.filter_append, applied, pending]
    _ = migrations.drop count := List.nil_append _

theorem supports : ¬supported < greatest (versionsOf migrations count) := by
  have below : greatest (versionsOf migrations count) < supported + 1 := by
    refine greatest_lt (Nat.succ_pos _) fun version recorded => ?_
    obtain ⟨migration, inside, rfl⟩ := List.mem_map.mp recorded
    exact Nat.lt_succ_of_le (increasing.bounded migration (List.mem_of_mem_take inside))
  omega

end Increasing

/-- So many migrations are applied, some of them from the beginning, and the store is used after all of them only. -/
structure Sound (migrations : List (Migration State Error)) (apply : Use → State → State) (applied : Nat) (initial : State)
    (store : Store State Error Use Opener) (count : Nat) : Prop where
  ledger : store.versions.getD [] = versionsOf migrations count
  since : applied ≤ count
  within : count ≤ migrations.length
  content : ∃ migrated, migrate ((migrations.take count).drop applied) initial = .ok migrated ∧
    store.state = store.uses.foldl (fun state use => apply use state) migrated
  used : store.uses ≠ [] → count = migrations.length
  opened : ∀ opener, store.opening opener = .opened → count = migrations.length
  pending : ∀ opener rest, store.opening opener = .migrating rest →
    rest ≠ [] ∧ ∃ done, done ≤ count ∧ rest = migrations.drop done

namespace Sound

variable {applied count : Nat} {initial : State} {store : Store State Error Use Opener}

/-- An opener goes on without an effect on the store. -/
theorem moved (sound : Sound migrations apply applied initial store count) {after : Store State Error Use Opener}
    {opener : Opener} {opening : Opening State Error} (openings : after.opening = Function.update store.opening opener opening)
    (ledger : after.versions.getD [] = store.versions.getD []) (state : after.state = store.state)
    (uses : after.uses = store.uses) (ready : opening = .opened → count = migrations.length)
    (waiting : ∀ rest, opening = .migrating rest → rest ≠ [] ∧ ∃ done, done ≤ count ∧ rest = migrations.drop done) :
    Sound migrations apply applied initial after count where
  ledger := ledger.trans sound.ledger
  since := sound.since
  within := sound.within
  content := by
    rw [state, uses]
    exact sound.content
  used := by
    rw [uses]
    exact sound.used
  opened other reached := by
    rw [openings, Function.update_apply] at reached
    split at reached
    · exact ready reached
    · exact sound.opened other reached
  pending other rest reached := by
    rw [openings, Function.update_apply] at reached
    split at reached
    · exact waiting rest reached
    · exact sound.pending other rest reached

omit [DecidableEq Opener] in
/-- The openings an opener can go to without an effect on the store. -/
theorem proceeding (sound : Sound migrations apply applied initial store count) {done : Nat} (early : done ≤ count) :
    (Opening.proceed (migrations.drop done) = .opened → count = migrations.length) ∧
    ∀ rest, Opening.proceed (migrations.drop done) = .migrating rest →
      rest ≠ [] ∧ ∃ done, done ≤ count ∧ rest = migrations.drop done := by
  cases remaining : migrations.drop done with
  | nil =>
    refine ⟨fun _ => ?_, fun rest reached => ?_⟩
    · have all := List.drop_eq_nil_iff.mp remaining
      have within := sound.within
      omega
    · cases reached
  | cons migration others =>
    refine ⟨fun reached => ?_, fun rest reached => ?_⟩
    · cases reached
    · cases reached
      exact ⟨List.cons_ne_nil _ _, done, early, remaining.symm⟩

/-- A committed transaction is the next migration, in a store that is not used yet. -/
theorem committed (sound : Sound migrations apply applied initial store count) {opener : Opener} {migration : Migration State Error}
    {rest : List (Migration State Error)} (waiting : store.opening opener = .migrating (migration :: rest))
    {versions : List Nat} {state : State}
    (transacted : transact migration (store.versions.getD []) store.state = .ok (versions, state)) :
    Sound migrations apply applied initial
      { store.move opener (.proceed rest) with versions := some versions, state } (count + 1) := by
  obtain ⟨-, done, early, dropped⟩ := sound.pending opener _ waiting
  obtain ⟨ran, unrecorded, rfl⟩ := transact_ok.mp transacted
  rw [sound.ledger] at unrecorded
  have bound : done < migrations.length := by
    have long := congrArg List.length dropped
    rw [List.length_cons, List.length_drop] at long
    omega
  have found : migrations[done]? = some migration := by
    have head := congrArg (fun items : List (Migration State Error) => items[0]?) dropped
    simpa using head.symm
  -- An opener that is behind finds its version recorded.
  have current : done = count := by
    by_contra behind
    apply unrecorded
    rw [versionsOf, List.mem_map]
    exact ⟨migration, List.mem_take_iff_getElem.mpr (by
      obtain ⟨inside, same⟩ := List.getElem?_eq_some_iff.mp found
      exact ⟨done, by omega, same⟩), rfl⟩
  subst current
  have unused : store.uses = [] := by
    by_contra used
    have complete := sound.used used
    omega
  have rest_eq : rest = migrations.drop (done + 1) := by
    have tail := congrArg List.tail dropped
    rw [List.tail_cons, List.tail_drop] at tail
    exact tail
  have grown : migrations.take (done + 1) = migrations.take done ++ [migration] := by
    rw [List.take_add_one, found, Option.toList_some]
  obtain ⟨migrated, reached, content⟩ := sound.content
  rw [unused, List.foldl_nil] at content
  have next : Sound migrations apply applied initial
      { store with versions := some (versionsOf migrations done ++ [migration.version]), state } (done + 1) := by
    refine ⟨?_, Nat.le_succ_of_le sound.since, bound, ⟨state, ?_, ?_⟩, ?_, ?_, ?_⟩
    · rw [Option.getD_some, versionsOf, versionsOf, grown, List.map_append, List.map_singleton]
    · have enough : applied ≤ (migrations.take done).length := by
        rw [List.length_take]
        exact Nat.le_min.mpr ⟨sound.since, sound.since.trans bound.le⟩
      rw [grown, List.drop_append_of_le_length enough, migrate_append, reached, ok_bind, ← content]
      simp only [migrate, foldEach, ran, ok_bind]
    · rw [unused]
      rfl
    · rw [unused]
      exact fun used => absurd rfl used
    · intro other finished
      have complete := sound.opened other finished
      omega
    · intro other remaining reached
      obtain ⟨some_, earlier, before, same⟩ := sound.pending other remaining reached
      exact ⟨some_, earlier, Nat.le_succ_of_le before, same⟩
  obtain ⟨ready, waits⟩ := next.proceeding (Nat.le_refl (done + 1))
  rw [← rest_eq] at ready waits
  refine next.moved rfl ?_ rfl rfl ready waits
  rw [sound.ledger]

theorem next (increasing : Increasing migrations supported)
    (sound : Sound migrations apply applied initial store count) (action : Action Use Opener) :
    ∃ later, Sound migrations apply applied initial (store.next migrations supported apply action) later := by
  have failing : ∀ {opener : Opener} {opening : Opening State Error}, (opening ≠ .opened) →
      (∀ rest, opening ≠ .migrating rest) → Sound migrations apply applied initial (store.move opener opening) count :=
    fun unopened idle => sound.moved rfl rfl rfl rfl (fun same => absurd same unopened) fun rest same => absurd same (idle rest)
  cases action with
  | kill opener => exact ⟨count, failing (by simp) (by simp)⟩
  | use opener use =>
    rw [Store.next]
    split
    · rename_i opened
      have complete := sound.opened opener opened
      obtain ⟨migrated, reached, content⟩ := sound.content
      refine ⟨count, sound.ledger, sound.since, sound.within, ⟨migrated, reached, ?_⟩, fun _ => complete, sound.opened,
        sound.pending⟩
      rw [List.foldl_append, ← content]
      rfl
    · exact ⟨count, sound⟩
  | step opener fault =>
    rw [Store.next, Store.step]
    cases standing : store.opening opener with
    | started =>
      dsimp only
      split
      · exact ⟨count, failing (by simp) (by simp)⟩
      · exact ⟨count, sound.moved rfl rfl rfl rfl (by simp) (by simp)⟩
    | prepared =>
      dsimp only
      rw [sound.ledger, increasing.missing]
      split
      · exact ⟨count, failing (by simp) (by simp)⟩
      · split
        · exact ⟨count, failing (by simp) (by simp)⟩
        · obtain ⟨ready, waits⟩ := sound.proceeding (Nat.le_refl count)
          exact ⟨count, sound.moved rfl rfl rfl rfl ready waits⟩
    | migrating rest =>
      cases rest with
      | nil => exact absurd rfl (sound.pending opener _ standing).1
      | cons migration rest =>
        dsimp only
        split
        · exact ⟨count, failing (by simp) (by simp)⟩
        · split
          · rename_i transacted
            exact ⟨count + 1, sound.committed standing transacted⟩
          · exact ⟨count, failing (by simp) (by simp)⟩
    | opened => exact ⟨count, sound⟩
    | failed error => exact ⟨count, sound⟩
    | killed => exact ⟨count, sound⟩

theorem run (increasing : Increasing migrations supported)
    (sound : Sound migrations apply applied initial store count) (actions : List (Action Use Opener)) :
    ∃ later, Sound migrations apply applied initial (Machine.run (Store.next migrations supported apply) store actions)
      later := by
  have step : ∀ (reached : Store State Error Use Opener) (action : Action Use Opener),
      (∃ later, Sound migrations apply applied initial reached later) →
      ∃ later, Sound migrations apply applied initial (reached.next migrations supported apply action) later :=
    fun _ action ⟨_, sound⟩ => sound.next increasing action
  exact Machine.run_preserves step ⟨count, sound⟩ actions

omit [DecidableEq Opener] in
/-- The next migration succeeds where all of them do. -/
theorem transacts (increasing : Increasing migrations supported)
    (sound : Sound migrations apply applied initial store count) {migration : Migration State Error}
    {rest : List (Migration State Error)} (remaining : migrations.drop count = migration :: rest) {final : State}
    (whole : migrate (migrations.drop applied) initial = .ok final) :
    ∃ after, transact migration (store.versions.getD []) store.state = .ok after := by
  have bound : count < migrations.length := by
    have long := congrArg List.length remaining
    rw [List.length_cons, List.length_drop] at long
    omega
  have found : migrations[count]? = some migration := by
    have head := congrArg (fun items : List (Migration State Error) => items[0]?) remaining
    simpa using head
  have unused : store.uses = [] := by
    by_contra used
    have complete := sound.used used
    omega
  obtain ⟨migrated, reached, content⟩ := sound.content
  rw [unused, List.foldl_nil] at content
  have split : migrations.drop applied = (migrations.take count).drop applied ++ migration :: rest := by
    have enough : applied ≤ (migrations.take count).length := by
      rw [List.length_take]
      exact Nat.le_min.mpr ⟨sound.since, sound.since.trans bound.le⟩
    rw [← remaining, ← List.drop_append_of_le_length enough, List.take_append_drop]
  rw [split, migrate_append, reached, ok_bind, ← content, migrate, foldEach, bind_ok] at whole
  obtain ⟨changed, ran, -⟩ := whole
  refine ⟨_, transact_ok.mpr ⟨ran, ?_, rfl⟩⟩
  rw [sound.ledger]
  exact increasing.unrecorded found

/-- An opener that goes on alone catches up. -/
theorem catches_up (increasing : Increasing migrations supported) {opener : Opener} {final : State}
    (whole : migrate (migrations.drop applied) initial = .ok final) (steps : Nat)
    (sound : Sound migrations apply applied initial store count)
    (standing : store.opening opener = .proceed (migrations.drop count)) (enough : migrations.length ≤ count + steps) :
    (Machine.run (Store.next migrations supported apply) store (List.replicate steps (.step opener false))).opening
      opener = .opened := by
  -- The induction is on the steps; each of them applies one migration or finds the store open.
  induction steps generalizing store count with
  | zero =>
    have all : migrations.length ≤ count := enough
    rw [List.drop_of_length_le all] at standing
    exact standing
  | succ steps ih =>
    rw [List.replicate_succ, Machine.run_cons, Store.next, Store.step]
    cases remaining : migrations.drop count with
    | nil =>
      rw [remaining] at standing
      rw [standing]
      have all := List.drop_eq_nil_iff.mp remaining
      refine ih sound ?_ (by omega)
      rw [remaining]
      exact standing
    | cons migration rest =>
      rw [remaining] at standing
      obtain ⟨⟨versions, state⟩, transacted⟩ := sound.transacts increasing remaining whole
      have later := sound.committed standing transacted
      rw [standing]
      simp only [Opening.proceed, transacted, Bool.false_eq_true, if_false]
      have rest_eq : migrations.drop (count + 1) = rest := by
        rw [← List.tail_drop, remaining, List.tail_cons]
      apply ih later
      · rw [rest_eq]
        exact Function.update_self _ _ _
      · omega

/-- The first two steps of an opener: the ledger is made, and read. -/
theorem begins (increasing : Increasing migrations supported)
    (sound : Sound migrations apply applied initial store count) {opener : Opener}
    (standing : store.opening opener = .started) :
    ∃ after, (store.next migrations supported apply (.step opener false)).next migrations supported apply
        (.step opener false) = after ∧
      Sound migrations apply applied initial after count ∧
      after.opening opener = .proceed (migrations.drop count) := by
  have prepared : store.next migrations supported apply (.step opener false) =
      { store.move opener .prepared with versions := some (store.versions.getD []) } := by
    rw [Store.next, Store.step, standing]
    rfl
  have first : Sound migrations apply applied initial
      { store.move opener .prepared with versions := some (store.versions.getD []) } count :=
    sound.moved rfl rfl rfl rfl (by simp) (by simp)
  obtain ⟨ready, waits⟩ := sound.proceeding (Nat.le_refl count)
  refine ⟨_, rfl, ?_⟩
  rw [prepared, Store.next, Store.step]
  simp only [Store.move, Function.update_self, Option.getD_some, Bool.false_eq_true, if_false]
  rw [sound.ledger, if_neg increasing.supports, increasing.missing]
  refine ⟨first.moved rfl ?_ rfl rfl ready waits, Function.update_self _ _ _⟩
  rw [sound.ledger]

/-- An opener that goes on alone opens the store, and finds all migrations applied to it. -/
theorem opens (increasing : Increasing migrations supported)
    (sound : Sound migrations apply applied initial store count) {opener : Opener} {final : State}
    (whole : migrate (migrations.drop applied) initial = .ok final) (standing : store.opening opener = .started) :
    ∃ later, Machine.run (Store.next migrations supported apply) store
        (List.replicate (migrations.length + 2) (.step opener false)) = later ∧
      later.opening opener = .opened ∧ later.versions.getD [] = migrations.map Migration.version ∧
      later.state = later.uses.foldl (fun state use => apply use state) final := by
  obtain ⟨after, stepped, follows, proceeds⟩ := sound.begins increasing standing
  rw [List.replicate_succ, List.replicate_succ, Machine.run_cons, Machine.run_cons, stepped]
  have opened := follows.catches_up increasing whole migrations.length proceeds (Nat.le_add_left _ _)
  obtain ⟨last, sound⟩ := follows.run increasing (List.replicate migrations.length (.step opener false))
  obtain rfl := sound.opened opener opened
  obtain ⟨migrated, reached, content⟩ := sound.content
  rw [List.take_length, whole] at reached
  obtain rfl := Except.ok.inj reached
  refine ⟨_, rfl, opened, ?_, ?_⟩
  · rw [sound.ledger, versionsOf, List.take_length]
  · exact content

end Sound

/-- The store before anybody opens it. -/
def Store.closed (versions : Option (List Nat)) (state : State) : Store State Error Use Opener :=
  ⟨versions, state, fun _ => .started, []⟩

omit [DecidableEq Opener] in
theorem Sound.closed {versions : Option (List Nat)} {initial : State} {applied : Nat}
    (held : versions.getD [] = versionsOf migrations applied) (within : applied ≤ migrations.length) :
    Sound migrations apply applied initial (.closed versions initial : Store State Error Use Opener) applied where
  ledger := held
  since := Nat.le_refl _
  within := within
  content := by
    refine ⟨initial, ?_, rfl⟩
    rw [List.drop_of_length_le]
    · rfl
    · rw [List.length_take]
      exact Nat.min_le_left _ _
  used used := absurd rfl used
  opened _ reached := by cases reached
  pending _ _ reached := by cases reached

/-- The store is of a later schema than the openers know, and they have left it alone. -/
structure Refused (versions : List Nat) (initial : State) (store : Store State Error Use Opener) : Prop where
  ledger : store.versions.getD [] = versions
  state : store.state = initial
  uses : store.uses = []
  waiting : ∀ opener rest, store.opening opener ≠ .migrating rest
  unopened : ∀ opener, store.opening opener ≠ .opened

namespace Refused

variable {versions : List Nat} {initial : State} {store : Store State Error Use Opener}

omit [DecidableEq Opener] in
theorem closed (ledger : Option (List Nat)) :
    Refused (ledger.getD []) initial (.closed ledger initial : Store State Error Use Opener) where
  ledger := rfl
  state := rfl
  uses := rfl
  waiting _ _ same := by cases same
  unopened _ same := by cases same

theorem moved (refused : Refused versions initial store) {after : Store State Error Use Opener}
    {opener : Opener} {opening : Opening State Error} (openings : after.opening = Function.update store.opening opener opening)
    (ledger : after.versions.getD [] = store.versions.getD []) (state : after.state = store.state)
    (uses : after.uses = store.uses) (unready : opening ≠ .opened) (idle : ∀ rest, opening ≠ .migrating rest) :
    Refused versions initial after where
  ledger := ledger.trans refused.ledger
  state := state.trans refused.state
  uses := uses.trans refused.uses
  waiting other rest := by
    rw [openings, Function.update_apply]
    split
    · exact idle rest
    · exact refused.waiting other rest
  unopened other := by
    rw [openings, Function.update_apply]
    split
    · exact unready
    · exact refused.unopened other

theorem next (newer : supported < greatest versions) (refused : Refused versions initial store)
    (action : Action Use Opener) : Refused versions initial (store.next migrations supported apply action) := by
  cases action with
  | kill opener => exact refused.moved rfl rfl rfl rfl (by simp) (by simp)
  | use opener use =>
    rw [Store.next]
    split
    · rename_i opened
      exact absurd opened (refused.unopened opener)
    · exact refused
  | step opener fault =>
    rw [Store.next, Store.step]
    cases standing : store.opening opener with
    | started =>
      dsimp only
      split
      · exact refused.moved rfl rfl rfl rfl (by simp) (by simp)
      · exact refused.moved rfl rfl rfl rfl (by simp) (by simp)
    | prepared =>
      dsimp only
      rw [refused.ledger, if_pos newer]
      split
      · exact refused.moved rfl rfl rfl rfl (by simp) (by simp)
      · exact refused.moved rfl rfl rfl rfl (by simp) (by simp)
    | migrating rest => exact absurd standing (refused.waiting opener rest)
    | opened => exact refused
    | failed error => exact refused
    | killed => exact refused

/-- No opener touches a store of a later schema. -/
theorem run (newer : supported < greatest versions) (refused : Refused versions initial store)
    (actions : List (Action Use Opener)) :
    Refused versions initial (Machine.run (Store.next migrations supported apply) store actions) :=
  Machine.run_preserves (fun _ action refused => refused.next newer action) refused actions

end Refused

end Migrations
