import Bastet.LocalIpc.Unix

/-! One daemon at a time holds the lock of an endpoint, and so uses the store behind it: the lock file keeps its name
as long as no other program takes it away. -/

set_option autoImplicit false

namespace Bastet.LocalIpc

open UnixFiles Fallible

variable {Process : Type} [DecidableEq Process] {account : Account}

section Advances

variable {files after : EndpointFiles Process} {process : Process} {daemon later : Daemon}

/-- A daemon has its handle on the lock file, and the lock where it needs it, and nothing else is locked for it. -/
structure Holds (files : EndpointFiles Process) (process : Process) (daemon : Daemon) : Prop where
  named : files.Named
  handle : ∀ inode, daemon.lock = some inode → files.entry .lock = some inode
  locked : daemon.locked = true → ∃ inode, daemon.lock = some inode ∧ files.lockedBy inode = some process
  known : ∀ inode, files.entry .lock = some inode → files.lockedBy inode = some process → daemon.lock = some inode

/-- What a step of one daemon leaves to the others: the lock file under its name, locked by whom it was. -/
structure Respects (files : EndpointFiles Process) (process : Process) (after : EndpointFiles Process) : Prop where
  named : files.Named → after.Named
  entry : ∀ inode, files.entry .lock = some inode → after.entry .lock = some inode
  locks : ∀ inode other, other ≠ process → after.entry .lock = some inode →
    (after.lockedBy inode = some other ↔ files.entry .lock = some inode ∧ files.lockedBy inode = some other)

omit [DecidableEq Process] in
theorem Holds.respected {other : Process} (held : Holds files other daemon) (respects : Respects files process after)
    (apart : other ≠ process) : Holds after other daemon where
  named := respects.named held.named
  handle := fun inode opened => respects.entry inode (held.handle inode opened)
  locked := by
    intro locked
    obtain ⟨inode, opened, taken⟩ := held.locked locked
    have found := held.handle inode opened
    exact ⟨inode, opened, (respects.locks inode other apart (respects.entry inode found)).mpr ⟨found, taken⟩⟩
  known := by
    intro inode found taken
    obtain ⟨before, locked⟩ := (respects.locks inode other apart found).mp taken
    exact held.known inode before locked

/-- Files on which the lock file and its lock are as before. -/
structure SameLock (files after : EndpointFiles Process) : Prop where
  named : files.Named → after.Named
  entry : after.entry .lock = files.entry .lock
  locks : files.Named → ∀ inode, files.entry .lock = some inode → after.lockedBy inode = files.lockedBy inode

omit [DecidableEq Process] in
theorem SameLock.refl (files : EndpointFiles Process) : SameLock files files :=
  ⟨id, rfl, fun _ _ _ => rfl⟩

omit [DecidableEq Process] in
theorem SameLock.respects (same : SameLock files after) (named : files.Named) : Respects files process after where
  named := same.named
  entry := fun _ found => same.entry.trans found
  locks := by
    intro inode other _ found
    have before : files.entry .lock = some inode := same.entry ▸ found
    rw [same.locks named inode before]
    exact ⟨fun taken => ⟨before, taken⟩, fun taken => taken.2⟩

omit [DecidableEq Process] in
theorem Holds.same (held : Holds files process daemon) (same : SameLock files after)
    (handle : later.lock = daemon.lock) (locked : later.locked = true → daemon.locked = true) :
    Holds after process later where
  named := same.named held.named
  handle := fun inode opened => same.entry.trans (held.handle inode (handle ▸ opened))
  locked := by
    intro still
    obtain ⟨inode, opened, taken⟩ := held.locked (locked still)
    exact ⟨inode, handle.trans opened, (same.locks held.named inode (held.handle inode opened)).trans taken⟩
  known := by
    intro inode found taken
    have before : files.entry .lock = some inode := same.entry ▸ found
    exact handle.trans (held.known inode before ((same.locks held.named inode before) ▸ taken))

omit [DecidableEq Process] in
/-- A new file in the place of a socket. -/
theorem SameLock.create (files : EndpointFiles Process) (metadata : Metadata) (target : Option Nat) :
    SameLock files (files.create .socket metadata target) where
  named := fun named => named.create _ _ _
  entry := Files.create_entry_of_ne (by decide) metadata target
  locks := by
    intro named inode found
    have older : inode ≠ files.fresh := Nat.ne_of_lt (named .lock inode found)
    exact Function.update_of_ne older _ _

omit [DecidableEq Process] in
theorem SameLock.removeFile (removed : files.removeFile .socket = .ok after) : SameLock files after := by
  obtain ⟨_, _, entries, _, _, locks, _, fresh, _⟩ := Files.removeFile_ok removed
  refine ⟨fun named name inode found => ?_, ?_, fun _ _ _ => by rw [locks]⟩
  · rw [fresh]
    rw [entries] at found
    by_cases same : name = .socket
    · simp [same] at found
    · rw [Function.update_of_ne same] at found
      exact named name inode found
  · rw [entries]
    exact Function.update_of_ne (by decide) _ _

omit [DecidableEq Process] in
theorem SameLock.setPermissions {uid mode : Nat} (changed : files.setPermissions .socket uid mode = .ok after) :
    SameLock files after := by
  obtain ⟨_, _, rfl⟩ := Files.setPermissions_ok changed
  exact ⟨id, rfl, fun _ _ _ => rfl⟩

theorem SameLock.hangUp (files : EndpointFiles Process) (inode : Nat) (process : Process) :
    SameLock files (files.hangUp inode process) := by
  unfold Files.hangUp
  split
  · exact ⟨id, rfl, fun _ _ _ => rfl⟩
  · exact .refl files

/-- A handle that is closed gives its lock back, and nobody else's. -/
theorem Respects.unlock {inode : Nat} (files : EndpointFiles Process) :
    Respects files process (files.unlock inode process) := by
  unfold Files.unlock
  split
  · rename_i taken
    refine ⟨id, fun _ => id, fun found other apart named => ?_⟩
    by_cases same : found = inode
    · subst same
      simp only [Function.update_self]
      exact ⟨by simp, fun locked => absurd (Option.some.inj (locked.2.symm.trans taken)) apart⟩
    · simp only [Function.update_of_ne same]
      exact ⟨fun locked => ⟨named, locked⟩, fun locked => locked.2⟩
  · exact ⟨id, fun _ => id, fun _ _ _ named => ⟨fun locked => ⟨named, locked⟩, fun locked => locked.2⟩⟩

theorem Holds.unlock {inode : Nat} (held : Holds files process daemon) (opened : daemon.lock = some inode)
    (closed : later.lock = none) (ended : later.locked = false) :
    Holds (files.unlock inode process) process later where
  named := (Respects.unlock files).named held.named
  handle := by simp [closed]
  locked := by simp [ended]
  known := by
    intro found named taken
    unfold Files.unlock at named taken
    split at taken
    · rename_i locked
      rw [if_pos locked] at named
      have same : found = inode := by
        exact Option.some.inj (named.symm.trans (held.handle inode opened))
      subst same
      simp at taken
    · rename_i free
      rw [if_neg free] at named
      have same : found = inode := Option.some.inj (named.symm.trans (held.handle inode opened))
      subst same
      exact absurd taken free

omit [DecidableEq Process] in
/-- Opening the lock file makes it where its name is free. -/
theorem open_respects {uid mode lock : Nat} (opened : files.openNoFollow .lock uid mode = .ok (lock, after)) :
    Respects files process after := by
  obtain ⟨found, rfl⟩ | ⟨absent, rfl, rfl⟩ := Files.openNoFollow_ok opened
  · exact ⟨id, fun _ => id, fun _ _ _ named => ⟨fun locked => ⟨named, locked⟩, fun locked => locked.2⟩⟩
  · refine ⟨fun named => named.create _ _ _, fun inode found => ?_, fun inode other _ found => ?_⟩
    · rw [absent] at found
      cases found
    · simp only [Files.create, Function.update_self, Option.some.injEq] at found
      simp [Files.create, ← found, absent]

omit [DecidableEq Process] in
theorem Holds.opened {uid mode lock : Nat} (held : Holds files process daemon)
    (opened : files.openNoFollow .lock uid mode = .ok (lock, after)) (handle : later.lock = some lock)
    (unlocked : later.locked = false) : Holds after process later := by
  have respects : Respects files process after := open_respects opened
  obtain ⟨found, rfl⟩ | ⟨absent, rfl, rfl⟩ := Files.openNoFollow_ok opened
  · refine ⟨held.named, fun inode named => ?_, by simp [unlocked], fun inode named _ => ?_⟩
    · rw [handle] at named
      exact found.trans named
    · exact handle.trans (found.symm.trans named)
  · refine ⟨respects.named held.named, fun inode named => ?_, by simp [unlocked], fun inode named _ => ?_⟩
    · rw [handle] at named
      exact (Files.create_entry _ _ _ _).trans named
    · rw [handle]
      exact (Files.create_entry _ _ _ _).symm.trans named

/-- A lock that is taken was free, or the daemon's own. -/
theorem flock_respects {inode : Nat} (taken : files.flock inode process = .ok after) : Respects files process after := by
  obtain ⟨free, rfl⟩ := Files.flock_ok taken
  refine ⟨id, fun _ => id, fun found other apart named => ?_⟩
  by_cases same : found = inode
  · subst same
    simp only [Function.update_self, Option.some.injEq]
    exact ⟨fun own => absurd own.symm apart, fun locked => absurd (free other locked.2) apart⟩
  · simp only [Function.update_of_ne same]
    exact ⟨fun locked => ⟨named, locked⟩, fun locked => locked.2⟩

theorem Holds.flocked {inode : Nat} (held : Holds files process daemon) (opened : daemon.lock = some inode)
    (taken : files.flock inode process = .ok after) (handle : later.lock = daemon.lock) :
    Holds after process later := by
  obtain ⟨_, rfl⟩ := Files.flock_ok taken
  refine ⟨held.named, fun found named => held.handle found (handle ▸ named), fun _ => ?_, fun found named _ => ?_⟩
  · exact ⟨inode, handle.trans opened, Function.update_self _ _ _⟩
  · rw [handle, opened, ← held.handle inode opened]
    exact named

/-- The daemon that has taken a step holds what it has to, and the others what they held. -/
structure Stepped (files : EndpointFiles Process) (process : Process) (result : Advance Process) : Prop where
  holds : Holds result.1 process result.2
  respects : Respects files process result.1

omit [DecidableEq Process] in
theorem Holds.fail (held : Holds files process daemon) : Stepped files process (fail files daemon) :=
  ⟨held.same (.refl files) rfl (by simp [LocalIpc.fail, Daemon.locked]), (SameLock.refl files).respects held.named⟩

omit [DecidableEq Process] in
theorem Holds.proceed (held : Holds files process daemon) (same : SameLock files after) (call : Call)
    (handle : later.lock = daemon.lock) (locked : ({ later with call := call } : Daemon).locked = true → daemon.locked = true) :
    Stepped files process (proceed after later call) :=
  ⟨held.same same handle locked, same.respects held.named⟩

theorem advance_stepped (held : Holds files process daemon) (running : daemon.running = true) :
    Stepped files process (advance account files process daemon) := by
  have here := SameLock.refl files
  cases called : daemon.call with
  | validateDirectory =>
    simp only [advance, called]
    split
    · exact held.proceed here _ rfl (by simp [Daemon.locked])
    · exact held.fail
  | openLock =>
    simp only [advance, called]
    split
    · rename_i lock after opened
      exact ⟨held.opened opened rfl (by simp [LocalIpc.proceed, Daemon.locked]), open_respects opened⟩
    · exact held.fail
  | checkLock =>
    simp only [advance, called]
    split
    · exact held.proceed here _ rfl (by simp [Daemon.locked])
    · exact held.fail
  | takeLock =>
    simp only [advance, called]
    split
    · exact held.fail
    · rename_i lock opened
      split
      · rename_i after taken
        exact ⟨held.flocked opened taken rfl, flock_respects taken⟩
      · exact held.fail
  | inspectSocket | validateParent | validateSocket | probeSocket | confirmParent | confirmSocket | compareSocket =>
    have locked : daemon.locked = true := by simp [Daemon.locked, running, called]
    simp only [advance, called]
    repeat' split
    all_goals first | exact held.fail | exact held.proceed here _ rfl (fun _ => locked)
  | openStore | serve | drain =>
    have locked : daemon.locked = true := by simp [Daemon.locked, running, called]
    simp only [advance, called]
    exact held.proceed here _ rfl (fun _ => locked)
  | removeStale | removeSocket =>
    have locked : daemon.locked = true := by simp [Daemon.locked, running, called]
    simp only [advance, called]
    split
    · rename_i after removed
      exact held.proceed (.removeFile removed) _ rfl (fun _ => locked)
    · first | exact held.fail | exact held.proceed here _ rfl (fun _ => locked)
  | bindSocket =>
    have locked : daemon.locked = true := by simp [Daemon.locked, running, called]
    simp only [advance, called]
    split
    · rename_i listener after made
      obtain ⟨_, _, rfl⟩ := Files.bindSocket_ok made
      exact held.proceed (.create files _ _) _ rfl (fun _ => locked)
    · exact held.fail
  | listen =>
    have locked : daemon.locked = true := by simp [Daemon.locked, running, called]
    simp only [advance, called]
    split
    · exact held.fail
    · rename_i listener _
      have same : SameLock files (files.listen listener process) := ⟨id, rfl, fun _ _ _ => rfl⟩
      exact held.proceed same _ rfl (fun _ => locked)
  | setPermissions =>
    have locked : daemon.locked = true := by simp [Daemon.locked, running, called]
    simp only [advance, called]
    split
    · rename_i after changed
      exact held.proceed (.setPermissions changed) _ rfl (fun _ => locked)
    · exact held.fail
  | closeLock =>
    simp only [advance, called]
    split
    · exact ⟨held.same here rfl (by simp [LocalIpc.fail, Daemon.locked]), here.respects held.named⟩
    · rename_i lock opened
      exact ⟨held.unlock opened rfl (by simp [LocalIpc.fail, Daemon.locked]), .unlock files⟩
  | exit =>
    simp only [advance, called]
    exact held.fail

end Advances

section Hosts

variable {host : Host Process}

/-- Every daemon of the host holds what its next call relies on. -/
def Host.Exclusive (host : Host Process) : Prop :=
  ∀ process, Holds host.files process (host.daemon process)

theorem Host.Exclusive.put (exclusive : host.Exclusive) {process : Process} {result : Advance Process}
    (stepped : Stepped host.files process result) : (host.put process result).Exclusive := by
  intro other
  by_cases same : other = process
  · subst same
    simp only [Host.put, Function.update_self]
    exact stepped.holds
  · simp only [Host.put, Function.update_of_ne same]
    exact (exclusive other).respected stepped.respects same

/-- The lock file is not taken away, and not replaced. -/
def Disturbance.LeavesLock (files : EndpointFiles Process) : Disturbance Process → Prop
  | .remove name => name ≠ .lock
  | .place name _ _ _ => name = .lock → files.entry .lock = none
  | .setMetadata _ _ | .setParent _ => True

/-- No other program takes the lock file away. -/
def LeavesLock (host : Host Process) : Action Process → Prop
  | .disturb disturbance => disturbance.LeavesLock host.files
  | _ => True

omit [DecidableEq Process] in
theorem disturbed_holds {files : EndpointFiles Process} {process : Process} {daemon : Daemon}
    {disturbance : Disturbance Process} (held : Holds files process daemon)
    (leaves : disturbance.LeavesLock files) : Holds (disturbed files disturbance) process daemon := by
  cases disturbance with
  | place name metadata target listener =>
    have named : (disturbed files (.place name metadata target listener)).Named := held.named.create name metadata target
    cases name with
    | socket =>
      have same := SameLock.create files metadata target
      exact held.same ⟨fun _ => named, same.entry, same.locks⟩ rfl id
    | lock =>
      have absent : files.entry .lock = none := leaves rfl
      have unopened : daemon.lock = none := by
        cases opened : daemon.lock with
        | none => rfl
        | some inode => exact absurd (held.handle inode opened) (by simp [absent])
      refine ⟨named, by simp [unopened], fun locked => ?_, fun inode found taken => ?_⟩
      · obtain ⟨inode, opened, _⟩ := held.locked locked
        cases unopened.symm.trans opened
      · obtain rfl : files.fresh = inode := by
          exact Option.some.inj ((Files.create_entry files .lock metadata target).symm.trans found)
        simp [disturbed, Files.create] at taken
  | remove name =>
    have other : EndpointName.lock ≠ name := fun same => leaves same.symm
    refine held.same ⟨fun named found inode entry => ?_, Function.update_of_ne other _ _, fun _ _ _ => rfl⟩ rfl id
    by_cases same : found = name
    · simp [disturbed, same] at entry
    · simp only [disturbed, Function.update_of_ne same] at entry
      exact named found inode entry
  | setMetadata inode metadata => exact held.same ⟨id, rfl, fun _ _ _ => rfl⟩ rfl id
  | setParent metadata => exact held.same ⟨id, rfl, fun _ _ _ => rfl⟩ rfl id

theorem next_exclusive (exclusive : host.Exclusive) {action : Action Process} (leaves : LeavesLock host action) :
    (next account host action).Exclusive := by
  have here := SameLock.refl host.files
  cases action with
  | start process =>
    simp only [next]
    split
    · rename_i unstarted
      have held := exclusive process
      rw [unstarted] at held
      exact exclusive.put ⟨held.same here rfl (by simp [Daemon.locked, Daemon.fresh]), here.respects held.named⟩
    · exact exclusive
  | step process =>
    simp only [next]
    split
    · rename_i running
      exact exclusive.put (advance_stepped (exclusive process) running)
    · exact exclusive
  | shutdown process =>
    simp only [next]
    split
    · rename_i serving
      have held := exclusive process
      have locked : (host.daemon process).locked = true := by simp [Daemon.locked, serving.1, serving.2]
      apply exclusive.put
      simp only [closedListener]
      split
      · exact ⟨held.same here rfl (fun _ => locked), here.respects held.named⟩
      · have same := SameLock.hangUp host.files
        exact ⟨held.same (same _ process) rfl (fun _ => locked), (same _ process).respects held.named⟩
    · exact exclusive
  | abandon process =>
    simp only [next]
    split
    · rename_i serving
      have held := exclusive process
      have locked : (host.daemon process).locked = true := by
        obtain ⟨running, opening | serving⟩ := serving
        all_goals simp [Daemon.locked, *]
      exact exclusive.put ⟨held.same here rfl (fun _ => locked), here.respects held.named⟩
    · exact exclusive
  | stop process =>
    have held := exclusive process
    exact exclusive.put ⟨held.same here rfl (by simp [Daemon.locked]), here.respects held.named⟩
  | closeLock process =>
    simp only [next]
    split
    · exact exclusive
    · rename_i ended
      have held := exclusive process
      apply exclusive.put
      simp only [closedLock]
      split
      · exact ⟨held, here.respects held.named⟩
      · rename_i lock opened
        exact ⟨held.unlock opened rfl (by simp [Daemon.locked, ended]), .unlock host.files⟩
  | closeListener process =>
    simp only [next]
    split
    · exact exclusive
    · have held := exclusive process
      apply exclusive.put
      simp only [closedListener]
      split
      · exact ⟨held, here.respects held.named⟩
      · have same := SameLock.hangUp host.files
        exact ⟨held.same (same _ process) rfl id, (same _ process).respects held.named⟩
  | disturb disturbance => exact fun process => disturbed_holds (exclusive process) leaves

omit [DecidableEq Process] in
theorem Host.Exclusive.unique (exclusive : host.Exclusive) {first second : Process}
    (locked : (host.daemon first).locked = true) (too : (host.daemon second).locked = true) : first = second := by
  obtain ⟨inode, opened, taken⟩ := (exclusive first).locked locked
  obtain ⟨other, reopened, retaken⟩ := (exclusive second).locked too
  have found := (exclusive first).handle inode opened
  have again := (exclusive second).handle other reopened
  obtain rfl : inode = other := Option.some.inj (found.symm.trans again)
  exact Option.some.inj (taken.symm.trans retaken)

/-- A host on which no daemon has been started, and the lock file is not locked. -/
structure Host.Unstarted (host : Host Process) : Prop where
  named : host.files.Named
  daemons : ∀ process, host.daemon process = idle
  unlocked : ∀ inode, host.files.entry .lock = some inode → host.files.lockedBy inode = none

omit [DecidableEq Process] in
theorem Host.Unstarted.exclusive (unstarted : host.Unstarted) : host.Exclusive := by
  intro process
  rw [unstarted.daemons process]
  refine ⟨unstarted.named, by simp [idle], by simp [idle, Daemon.locked], fun inode found taken => ?_⟩
  rw [unstarted.unlocked inode found] at taken
  cases taken

theorem Daemon.usesStore_locked {daemon : Daemon} (uses : daemon.usesStore = true) : daemon.locked = true := by
  simp only [Daemon.usesStore, Bool.and_eq_true, Bool.or_eq_true, decide_eq_true_eq] at uses
  obtain ⟨running, (opening | serving) | draining⟩ := uses
  all_goals simp [Daemon.locked, *]

theorem exclusive_of_run (unstarted : host.Unstarted) {actions : List (Action Process)}
    (left : Machine.Allowed (next account) LeavesLock host actions) :
    (Machine.run (next account) host actions).Exclusive := by
  refine Machine.allowed_run_preserves ?_ unstarted.exclusive left
  intro before action leaves exclusive
  exact next_exclusive exclusive leaves

/-- From the call that takes the lock until the call that closes it, a daemon is alone at its endpoint, and a daemon
uses its store only in between: no other daemon opens the store, or recovers it, before this one is done. -/
theorem endpoint_exclusive (unstarted : host.Unstarted) {actions : List (Action Process)}
    (left : Machine.Allowed (next account) LeavesLock host actions) (process : Process)
    (uses : ((Machine.run (next account) host actions).daemon process).usesStore = true) :
    ∀ other, ((Machine.run (next account) host actions).daemon other).locked = true → other = process := by
  intro other locked
  exact (exclusive_of_run unstarted left).unique locked (Daemon.usesStore_locked uses)

end Hosts

section Witness

variable {Process : Type}

/-- An empty endpoint directory of the account 1000. -/
def emptyFiles : EndpointFiles Process :=
  ⟨⟨.directory, 1000, 0o700, 2⟩, fun _ => none, fun _ => ⟨.other, 0, 0, 0⟩, fun _ => none, fun _ => none, fun _ => none, 0⟩

def emptyHost : Host Process := ⟨emptyFiles, fun _ => idle⟩

theorem emptyHost_unstarted : (emptyHost : Host Process).Unstarted := by
  refine ⟨fun name inode found => ?_, fun _ => rfl, fun _ _ => rfl⟩
  simp [emptyHost, emptyFiles] at found

/-- A daemon that reaches its store, with a second one behind it. -/
def twoStarts : List (Action Nat) :=
  .start 0 :: List.replicate 11 (.step 0) ++ [.disturb (.setParent ⟨.directory, 1000, 0o700, 3⟩), .start 1] ++
    List.replicate 6 (.step 1)

theorem endpoint_exclusive_twoStarts :
    ((Machine.run (next ⟨1000, 0o022⟩) emptyHost twoStarts).daemon 0).usesStore = true ∧
      ∀ other, ((Machine.run (next ⟨1000, 0o022⟩) emptyHost twoStarts).daemon other).locked = true → other = 0 := by
  have uses : ((Machine.run (next ⟨1000, 0o022⟩) emptyHost twoStarts).daemon 0).usesStore = true := by
    decide +kernel
  refine ⟨uses, endpoint_exclusive emptyHost_unstarted ?_ 0 uses⟩
  simp [twoStarts, List.replicate, Machine.Allowed, LeavesLock, Disturbance.LeavesLock]

end Witness

end Bastet.LocalIpc
